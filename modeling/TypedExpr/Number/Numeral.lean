import TypedExpr.Number.Floating
/-!
# Reading numbers

Whole numbers are an optional sign and decimal digits, read from the left: the first character that is no
digit, or the first digit that leaves the range, decides the error. Decimals may have a point and an
exponent, or be one of the words for infinity and for what is not a number.
-/

namespace TypedExpr.Number

/-- Why a text is not a whole number in range. -/
inductive IntegerFault where
  | empty
  | badDigit
  | tooLarge
  | tooSmall
  deriving DecidableEq, Repr

def IntegerFault.message : IntegerFault → String
  | .empty => "cannot parse integer from empty string"
  | .badDigit => "invalid digit found in string"
  | .tooLarge => "number too large to fit in target type"
  | .tooSmall => "number too small to fit in target type"

/-- The value of a decimal digit. -/
def digit? (c : Char) : Option Nat := if '0' ≤ c ∧ c ≤ '9' then some (c.toNat - '0'.toNat) else none

def readMagnitude (limit : Nat) (fault : IntegerFault) : Nat → List Char → Except IntegerFault Nat
  | acc, [] => .ok acc
  | acc, c :: rest =>
    match digit? c with
    | none => .error .badDigit
    | some d => if 10 * acc + d ≤ limit then readMagnitude limit fault (10 * acc + d) rest else .error fault

/-- Reads a whole number from `-(limit + 1)` to `limit`. -/
def readInteger (limit : Nat) (s : String) : Except IntegerFault Int :=
  match s.toList with
  | [] => .error .empty
  | ['+'] => .error .badDigit
  | ['-'] => .error .badDigit
  | '+' :: digits => (readMagnitude limit .tooLarge 0 digits).map Int.ofNat
  | '-' :: digits => (readMagnitude (limit + 1) .tooSmall 0 digits).map (fun n => -Int.ofNat n)
  | digits => (readMagnitude limit .tooLarge 0 digits).map Int.ofNat

def readInt32 (s : String) : Except IntegerFault Int32 := (readInteger (Nat.pow 2 31 - 1) s).map Int32.ofInt

def readInt64 (s : String) : Except IntegerFault Int64 := (readInteger (Nat.pow 2 63 - 1) s).map Int64.ofInt

/-- Why a text is not a decimal. -/
inductive DecimalFault where
  | empty
  | malformed
  deriving DecidableEq, Repr

def DecimalFault.message : DecimalFault → String
  | .empty => "cannot parse float from empty string"
  | .malformed => "invalid float literal"

/-- A decimal as written. -/
inductive Written where
  | number (negative : Bool) (value : Decimal)
  | infinity (negative : Bool)
  | nan (negative : Bool)
  deriving DecidableEq, Repr

/-- The leading digits and the rest. -/
def spanDigits (cs : List Char) : List Char × List Char := cs.span Char.isDigit

def digitsValue (cs : List Char) : Nat := cs.foldl (fun acc c => 10 * acc + (c.toNat - '0'.toNat)) 0

/-- The exponent after the digits, if the rest of the text is one; no rest means zero. -/
def readExponent : List Char → Option Int
  | [] => some 0
  | c :: rest =>
    if c = 'e' ∨ c = 'E' then
      let (negative, digits) := match rest with
        | '-' :: digits => (true, digits)
        | '+' :: digits => (false, digits)
        | digits => (false, digits)
      if digits = [] ∨ !digits.all Char.isDigit then none
      else some (if negative then -(digitsValue digits : Int) else digitsValue digits)
    else none

def readUnsigned (negative : Bool) (cs : List Char) : Option Written :=
  let lower := String.ofList (cs.map Char.toLower)
  if lower = "inf" ∨ lower = "infinity" then some (.infinity negative)
  else if lower = "nan" then some (.nan negative)
  else
    let (whole, rest) := spanDigits cs
    let (fraction, rest) := match rest with
      | '.' :: rest => spanDigits rest
      | rest => ([], rest)
    if whole = [] ∧ fraction = [] then none
    else (readExponent rest).map fun e =>
      .number negative ⟨digitsValue (whole ++ fraction), e - fraction.length⟩

def readDecimal (s : String) : Except DecimalFault Written :=
  match s.toList with
  | [] => .error .empty
  | '-' :: rest => ((readUnsigned true rest).map Except.ok).getD (.error .malformed)
  | '+' :: rest => ((readUnsigned false rest).map Except.ok).getD (.error .malformed)
  | cs => ((readUnsigned false cs).map Except.ok).getD (.error .malformed)

/-- The pattern nearest to a decimal. Beyond `10 ^ 400` everything is infinite and below `10 ^ (-400)`
everything is zero in the formats used here. -/
def Format.ofDecimal (f : Format) (negative : Bool) (d : Decimal) : Nat :=
  if d.digits = 0 ∨ d.magnitude < -400 then f.nearest negative 0 1
  else if 400 < d.magnitude then f.nearest negative (Nat.pow 2 2000) 1
  else match d.exponent with
    | .ofNat e => f.nearest negative (d.digits * Nat.pow 10 e) 1
    | .negSucc e => f.nearest negative d.digits (Nat.pow 10 (e + 1))

def Format.ofWritten (f : Format) (nanBits : Nat) : Written → Nat
  | .number negative d => f.ofDecimal negative d
  | .infinity negative => (if negative then f.signBit else 0) + f.topExponent * f.unit
  | .nan negative => (if negative then f.signBit else 0) + nanBits

def readDouble (s : String) : Except DecimalFault Double :=
  (readDecimal s).map fun w => ⟨(Format.double.ofWritten 0x7ff8000000000000 w).toUInt64⟩

def readSingle (s : String) : Except DecimalFault Single :=
  (readDecimal s).map fun w => ⟨(Format.single.ofWritten 0x7fc00000 w).toUInt32⟩

end TypedExpr.Number
