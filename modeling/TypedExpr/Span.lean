/-!
# Source positions

A span marks the part of an expression's text that a node came from. Errors are reported at spans.
-/

namespace TypedExpr

/-- A starting position and a length in bytes. -/
structure Span where
  line : Nat := 0
  column : Nat := 0
  length : Nat := 0
  deriving DecidableEq, Repr, Inhabited

namespace Span

def point (line column : Nat) : Span := { line, column }

def isEmpty (s : Span) : Bool := s.length == 0

/-- The first column after the span. -/
def finish (s : Span) : Nat := s.column + s.length

/-- Covers both spans on one line; on different lines the first position stays and the lengths add up. -/
def merge (a b : Span) : Span :=
  if a.line = b.line then
    let start := min a.column b.column
    { line := a.line, column := start, length := max b.finish a.finish - start }
  else
    { a with length := a.length + b.length }

def text (s : Span) : String := toString s.line ++ ":" ++ toString s.column

end Span
end TypedExpr
