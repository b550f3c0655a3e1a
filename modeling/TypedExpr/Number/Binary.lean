/-!
# Binary floating-point formats

A format fixes how many bits hold the exponent and the significand. `decode` reads a bit pattern as an
exact dyadic number, and `nearest` gives the pattern of the number closest to a fraction, ties to even.
-/

namespace TypedExpr.Number

/-- A binary interchange format; `precision` counts the leading bit that is not stored. -/
structure Format where
  precision : Nat
  exponentBits : Nat
  deriving DecidableEq, Repr

def Format.single : Format := ⟨24, 8⟩
def Format.double : Format := ⟨53, 11⟩

namespace Format

def unit (f : Format) : Nat := Nat.pow 2 (f.precision - 1)

def topExponent (f : Format) : Nat := Nat.pow 2 f.exponentBits - 1

def signBit (f : Format) : Nat := f.unit * Nat.pow 2 f.exponentBits

/-- The exponent of the last bit of the smallest numbers. -/
def leastExponent (f : Format) : Int := 3 - Nat.pow 2 (f.exponentBits - 1) - f.precision

end Format

/-- What a bit pattern stands for; a finite one is the significand times two to the exponent. -/
inductive Datum where
  | nan
  | infinity (negative : Bool)
  | finite (negative : Bool) (significand : Nat) (exponent : Int)
  deriving DecidableEq, Repr

def Format.decode (f : Format) (bits : Nat) : Datum :=
  let negative := f.signBit ≤ bits
  let exponent := bits / f.unit % Nat.pow 2 f.exponentBits
  let fraction := bits % f.unit
  if exponent = f.topExponent then
    if fraction = 0 then .infinity negative else .nan
  else if exponent = 0 then .finite negative fraction f.leastExponent
  else .finite negative (fraction + f.unit) (f.leastExponent + (exponent - 1 : Nat))

/-- The whole number nearest to `num / den`; of two equally near ones, the even one. -/
def divNearestEven (num den : Nat) : Nat :=
  let quotient := num / den
  let twice := 2 * (num % den)
  if twice < den then quotient
  else if den < twice then quotient + 1
  else quotient + quotient % 2

def scaleFraction (num den : Nat) : Int → Nat × Nat
  | .ofNat e => (num * Nat.pow 2 e, den)
  | .negSucc e => (num, den * Nat.pow 2 (e + 1))

/-- The pattern of the number nearest to `num / den`, ties to even; too large a fraction gives infinity. -/
def Format.nearest (f : Format) (negative : Bool) (num den : Nat) : Nat :=
  let sign := if negative then f.signBit else 0
  if num = 0 then sign
  else
    let guess : Int := max f.leastExponent ((num.log2 : Int) - den.log2 - f.precision)
    let coarse := scaleFraction num den (-guess)
    let exponent := if coarse.1 / coarse.2 < Nat.pow 2 f.precision then guess else guess + 1
    let (n, d) := scaleFraction num den (-exponent)
    let bits := (exponent - f.leastExponent).toNat * f.unit + divNearestEven n d
    sign + min bits (f.topExponent * f.unit)

/-- Truncates toward zero into the range from `low` to `high`; what is not a number gives zero. -/
def Datum.toIntClamped (low high : Int) : Datum → Int
  | .nan => 0
  | .infinity negative => if negative then low else high
  | .finite negative significand exponent =>
    let (n, d) := scaleFraction significand 1 exponent
    let whole : Int := if negative then -(n / d : Nat) else (n / d : Nat)
    max low (min high whole)

/-- The pattern of the remainder of a truncated division; it takes the sign of the dividend. -/
def Format.remainder (f : Format) (nanBits : Nat) (a b : Nat) : Nat :=
  match f.decode a, f.decode b with
  | .finite negative sa ea, .finite _ sb eb =>
    if sb = 0 then nanBits
    else
      let low := min ea eb
      let (na, _) := scaleFraction sa 1 (ea - low)
      let (nb, _) := scaleFraction sb 1 (eb - low)
      let (num, den) := scaleFraction (na % nb) 1 low
      f.nearest negative num den
  | .finite .., .infinity _ => a
  | _, _ => nanBits

end TypedExpr.Number
