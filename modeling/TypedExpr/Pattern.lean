import TypedExpr.Pattern.Reader
/-!
# Patterns

A pattern is the text of a regular expression together with what it means.
-/

namespace TypedExpr

structure Pattern where
  source : String
  regex : Pattern.Regex
  deriving DecidableEq, Repr, Inhabited

namespace Pattern

/-- The bytes counted for each place of a written-out pattern. This is a lower bound of what an engine takes for a
place, so a pattern that is within the limit here may be too large for an engine. -/
def placeBytes : Nat := 16

/-- Reads a pattern; one that is malformed, or that cannot be kept within the limit, is refused. -/
def compile? (sizeLimit : Nat) (source : String) : Option Pattern :=
  match readRegex source with
  | some regex => if regex.size * placeBytes ≤ sizeLimit then some ⟨source, regex⟩ else none
  | none => none

/-- The text of a pattern in a group between the start and the end. -/
def whole (source : String) : String := "^(?:" ++ source ++ ")$"

def compileWhole? (sizeLimit : Nat) (source : String) : Option Pattern := compile? sizeLimit (whole source)

def isMatch (p : Pattern) (text : String) : Bool := p.regex.isMatch text

end Pattern
end TypedExpr
