import TypedExpr.Number.Shortest
/-!
# Floating-point numbers

`Single` and `Double` are bit patterns, so that two numbers are equal exactly when their bits are, and the
total order on them is the order of a whole-number key. Arithmetic follows IEEE 754, where all results that are
not numbers have one bit pattern, whatever the operands; `neg` alone keeps the pattern but for the sign.
-/

namespace TypedExpr.Number

/-- A 32-bit floating-point number. -/
structure Single where
  bits : UInt32
  deriving DecidableEq, Repr, Hashable, Inhabited

/-- A 64-bit floating-point number. -/
structure Double where
  bits : UInt64
  deriving DecidableEq, Repr, Hashable, Inhabited

/-- Negative numbers come before positive ones, larger patterns of them first. -/
def orderKey (signBit bits : Nat) : Int :=
  if bits < signBit then bits else (signBit : Int) - 1 - bits

/-- Finite numbers below `10 ^ 16` without a fraction show one zero after the point; all others have their
shortest digits. -/
def Datum.text (shortestFormat : Format) : Datum → String
  | .nan => "NaN"
  | .infinity negative => if negative then "-Infinity" else "Infinity"
  | .finite negative significand exponent =>
    let sign := if negative then "-" else ""
    let (n, d) := scaleFraction significand 1 exponent
    if n % d = 0 ∧ n / d < Nat.pow 10 16 then sign ++ toString (n / d) ++ ".0"
    else sign ++ (shortestFormat.shortest significand exponent).positional

/-- Positional digits, without a fraction where there is none. -/
def Datum.plainText (f : Format) : Datum → String
  | .nan => "NaN"
  | .infinity negative => if negative then "-inf" else "inf"
  | .finite negative significand exponent =>
    (if negative then "-" else "") ++ (f.shortest significand exponent).positional

/-- The spelling in expressions: at least one place after the point, and an exponent below `10 ^ (-4)` and
from `10 ^ 16` on. -/
def Datum.literalText (f : Format) : Datum → String
  | .nan => "NaN"
  | .infinity negative => if negative then "-inf" else "inf"
  | .finite negative significand exponent =>
    let sign := if negative then "-" else ""
    let shortest := f.shortest significand exponent
    if significand ≠ 0 ∧ (shortest.magnitude < -4 ∨ 16 ≤ shortest.magnitude) then sign ++ shortest.scientific
    else if 0 ≤ shortest.exponent then sign ++ shortest.positional ++ ".0"
    else sign ++ shortest.positional

namespace Double

def datum (x : Double) : Datum := Format.double.decode x.bits.toNat

def toFloat (x : Double) : Float := Float.ofBits x.bits

def ofFloat (x : Float) : Double := ⟨x.toBits⟩

def add (a b : Double) : Double := ofFloat (a.toFloat + b.toFloat)
def sub (a b : Double) : Double := ofFloat (a.toFloat - b.toFloat)
def mul (a b : Double) : Double := ofFloat (a.toFloat * b.toFloat)
def div (a b : Double) : Double := ofFloat (a.toFloat / b.toFloat)
def pow (a b : Double) : Double := ofFloat (Float.pow a.toFloat b.toFloat)
def sqrt (a : Double) : Double := ofFloat a.toFloat.sqrt
def floor (a : Double) : Double := ofFloat a.toFloat.floor
def ceil (a : Double) : Double := ofFloat a.toFloat.ceil

def rem (a b : Double) : Double :=
  ⟨(Format.double.remainder 0x7ff8000000000000 a.bits.toNat b.bits.toNat).toUInt64⟩

/-- Flips the sign bit, also of zeros and of what is not a number. -/
def neg (a : Double) : Double := ⟨a.bits ^^^ 0x8000000000000000⟩

def lt (a b : Double) : Bool := a.toFloat < b.toFloat
def le (a b : Double) : Bool := a.toFloat ≤ b.toFloat

def isNaN (a : Double) : Bool := a.datum = .nan

/-- The total order of patterns, in which zeros differ and every pattern has its place. -/
def compare (a b : Double) : Ordering :=
  Ord.compare (orderKey (Nat.pow 2 63) a.bits.toNat) (orderKey (Nat.pow 2 63) b.bits.toNat)

def ofInt64 (n : Int64) : Double := ofFloat n.toFloat
def ofInt32 (n : Int32) : Double := ofFloat n.toFloat

/-- Toward zero, clamped to the range of `Int64`. -/
def toInt64 (a : Double) : Int64 := Int64.ofInt (a.datum.toIntClamped (-Int.pow 2 63) (Int.pow 2 63 - 1))

def text (a : Double) : String := a.datum.text .double
def plainText (a : Double) : String := a.datum.plainText .double
def literalText (a : Double) : String := a.datum.literalText .double

end Double

namespace Single

def datum (x : Single) : Datum := Format.single.decode x.bits.toNat

def toFloat32 (x : Single) : Float32 := Float32.ofBits x.bits

def ofFloat32 (x : Float32) : Single := ⟨x.toBits⟩

def add (a b : Single) : Single := ofFloat32 (a.toFloat32 + b.toFloat32)
def sub (a b : Single) : Single := ofFloat32 (a.toFloat32 - b.toFloat32)
def mul (a b : Single) : Single := ofFloat32 (a.toFloat32 * b.toFloat32)
def div (a b : Single) : Single := ofFloat32 (a.toFloat32 / b.toFloat32)

def rem (a b : Single) : Single :=
  ⟨(Format.single.remainder 0x7fc00000 a.bits.toNat b.bits.toNat).toUInt32⟩

/-- Flips the sign bit, also of zeros and of what is not a number. -/
def neg (a : Single) : Single := ⟨a.bits ^^^ 0x80000000⟩

def lt (a b : Single) : Bool := a.toFloat32 < b.toFloat32
def le (a b : Single) : Bool := a.toFloat32 ≤ b.toFloat32

/-- The total order of patterns, in which zeros differ and every pattern has its place. -/
def compare (a b : Single) : Ordering :=
  Ord.compare (orderKey (Nat.pow 2 31) a.bits.toNat) (orderKey (Nat.pow 2 31) b.bits.toNat)

def ofInt64 (n : Int64) : Single := ofFloat32 n.toFloat32
def ofInt32 (n : Int32) : Single := ofFloat32 n.toFloat32

def toDouble (a : Single) : Double := .ofFloat a.toFloat32.toFloat

def ofDouble (a : Double) : Single := ofFloat32 a.toFloat.toFloat32

/-- Toward zero, clamped to the range of `Int64`. -/
def toInt64 (a : Single) : Int64 := Int64.ofInt (a.datum.toIntClamped (-Int.pow 2 63) (Int.pow 2 63 - 1))

def text (a : Single) : String := a.datum.text .single
def plainText (a : Single) : String := a.datum.plainText .single
def literalText (a : Single) : String := a.datum.literalText .single

end Single
end TypedExpr.Number
