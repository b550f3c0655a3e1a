import TypedExpr.Number.Binary
/-!
# Shortest decimals

The shortest decimal of a binary number has the fewest digits among the decimals that read back as it,
and is the nearest of those. Decimals are written positionally or with an exponent.
-/

namespace TypedExpr.Number

/-- The number `digits * 10 ^ exponent`. -/
structure Decimal where
  digits : Nat
  exponent : Int
  deriving DecidableEq, Repr

namespace Decimal

def width (n : Nat) : Nat := (Nat.toDigits 10 n).length

/-- Moves trailing zeros of the digits into the exponent; at most `steps` of them. -/
def stripZeros : (steps : Nat) → Decimal → Decimal
  | 0, d => d
  | steps + 1, d =>
    if d.digits ≠ 0 ∧ d.digits % 10 = 0 then stripZeros steps ⟨d.digits / 10, d.exponent + 1⟩ else d

def magnitude (d : Decimal) : Int := d.exponent + (width d.digits : Nat) - 1

def positional (d : Decimal) : String :=
  let digits := Nat.toDigits 10 d.digits
  match d.exponent with
  | .ofNat e => String.ofList (digits ++ List.replicate e '0')
  | .negSucc e =>
    let places := e + 1
    let padded := List.replicate (places + 1 - digits.length) '0' ++ digits
    let whole := padded.length - places
    String.ofList (padded.take whole ++ '.' :: padded.drop whole)

def scientific (d : Decimal) : String :=
  let exponent := toString d.magnitude
  match Nat.toDigits 10 d.digits with
  | first :: second :: rest => String.ofList (first :: '.' :: second :: rest) ++ "e" ++ exponent
  | digits => String.ofList digits ++ "e" ++ exponent

end Decimal

/-- The real numbers between two fractions over one denominator, with or without the ends. -/
structure Interval where
  low : Nat
  high : Nat
  scale : Nat
  closed : Bool

def Interval.contains (i : Interval) (n : Nat) : Bool :=
  if i.closed then i.low ≤ n * i.scale && n * i.scale ≤ i.high
  else i.low < n * i.scale && n * i.scale < i.high

/-- Searches decimals with `digits` digits, then with more, for the nearest one inside the rounding
interval. The number is `num / den`, and `magnitude` places its first digit after the point. -/
def shortestFrom (num den lowNum highNum : Nat) (closed : Bool) (magnitude : Int) :
    (steps digits : Nat) → Decimal
  | 0, digits => ⟨num / den, magnitude - digits⟩
  | steps + 1, digits =>
    let exponent := magnitude - digits
    let (up, down) := match exponent with
      | .ofNat e => (1, 10 ^ e)
      | .negSucc e => (10 ^ (e + 1), 1)
    let interval : Interval := ⟨lowNum * up, highNum * up, den * down, closed⟩
    let below := num * up / (den * down)
    let twice := 2 * (num * up % (den * down))
    let nearer := if twice < den * down then below else below + 1
    let farther := if twice < den * down then below + 1 else below
    if interval.contains nearer then ⟨nearer, exponent⟩
    else if interval.contains farther then ⟨farther, exponent⟩
    else shortestFrom num den lowNum highNum closed magnitude steps (digits + 1)

/-- The largest `e ≤ guess` with `10 ^ e * den ≤ num`, looked for in at most `steps` steps. -/
def decimalExponent (num den : Nat) : (steps : Nat) → (guess : Int) → Int
  | 0, guess => guess
  | steps + 1, guess =>
    let fits : Bool := match guess with
      | .ofNat e => 10 ^ e * den ≤ num
      | .negSucc e => den ≤ num * 10 ^ (e + 1)
    if fits then guess else decimalExponent num den steps (guess - 1)

/-- The fewest digits that read back as `significand * 2 ^ exponent` in the format; of the shortest ones
the nearest, and the larger of two equally near ones. -/
def Format.shortest (f : Format) (significand : Nat) (exponent : Int) : Decimal :=
  if significand = 0 then ⟨0, 0⟩
  else
    -- four units per step, so that the half of the smaller gap below a power of two is whole
    let (num, den) := scaleFraction (4 * significand) 4 exponent
    let unit := num / significand / 4
    let gapBelow := if significand = f.unit ∧ exponent ≠ f.leastExponent then unit else 2 * unit
    let guess : Int := ((num.log2 : Int) - den.log2) * 30103 / 100000 + 1
    let magnitude := decimalExponent num den 4 guess + 1
    let found := shortestFrom num den (num - gapBelow) (num + 2 * unit) (significand % 2 = 0) magnitude 18 1
    found.stripZeros 20

end TypedExpr.Number
