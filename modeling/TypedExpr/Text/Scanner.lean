/-!
# Scanners

A scanner takes what it looks for from the front of a text, or refuses the text. Many pass first over what does not
count where they look; a sign that is only asked for and not found leaves the text as it is.
-/

namespace TypedExpr.Text

/-- Takes a value from the front of a text, or refuses the text. -/
abbrev Scanner := StateT (List Char) Option

namespace Scanner

def next (skip : List Char → List Char) : Scanner Char := fun cs =>
  match skip cs with
  | [] => none
  | c :: rest => some (c, rest)

/-- The next character that counts, if it passes a test with what follows. -/
def nextIf (skip : List Char → List Char) (test : Char → List Char → Bool) : Scanner (Option Char) := fun cs =>
  match skip cs with
  | [] => some (none, cs)
  | c :: rest => if test c rest then some (some c, rest) else some (none, cs)

def accept (skip : List Char → List Char) (sign : List Char) : Scanner Bool := fun cs =>
  if sign.isPrefixOf (skip cs) then some (true, (skip cs).drop sign.length) else some (false, cs)

/-- The first of several signs that comes next, as what it stands for. -/
def oneOf {α : Type} (skip : List Char → List Char) : List (List Char × α) → Scanner (Option α)
  | [] => return none
  | (sign, a) :: signs => do if ← accept skip sign then return some a else oneOf skip signs

inductive Round (σ α : Type) where
  | again (s : σ)
  | done (a : α)

/-- Rounds until one is the last; `fuel` bounds how many. -/
def rounds {σ α : Type} (step : σ → Scanner (Round σ α)) : (fuel : Nat) → σ → Scanner α
  | 0, _ => failure
  | fuel + 1, s => do
    match ← step s with
    | .again s => rounds step fuel s
    | .done a => return a

/-- Rounds until one is the last. Each of the others takes at least one character. -/
def loop {σ α : Type} (step : σ → Scanner (Round σ α)) (s : σ) : Scanner α := fun cs =>
  rounds step (cs.length + 1) s cs

def upTo (skip : List Char → List Char) (stop : Char) : Scanner (List Char) :=
  loop (fun (text : List Char) => do
    let c ← next skip
    if c = stop then return .done text.reverse else return .again (c :: text)) []

end Scanner
end TypedExpr.Text
