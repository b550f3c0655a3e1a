import TypedExpr.Error
import TypedExpr.Value
/-!
# Operands and whole-number arithmetic

Reading operands as what an operation needs. Whole numbers wrap around; only a division by zero fails.
-/

namespace TypedExpr.Operation

open Number

variable {H : Type} [HostObject H]

/-- A null is missing where a value of another type is wrong. -/
def operandError (expected : String) : Value H → RunError
  | .null => .nullValue expected
  | other => .invalidCast expected other.typeName

def asBool (v : Value H) : Except RunError Bool := v.asBool?.elim (.error (operandError "boolean" v)) .ok
def asInt (v : Value H) : Except RunError Int32 := v.asInt?.elim (.error (operandError "int" v)) .ok
def asLong (v : Value H) : Except RunError Int64 := v.asLong?.elim (.error (operandError "long" v)) .ok
def asFloat (v : Value H) : Except RunError Single := v.asFloat?.elim (.error (operandError "float" v)) .ok
def asDouble (v : Value H) : Except RunError Double := v.asDouble?.elim (.error (operandError "double" v)) .ok

/-- A string; `what` names its role. -/
def asString (what : String) (v : Value H) : Except RunError String :=
  v.asString?.elim (.error (operandError what v)) .ok

def divInt (a b : Int32) : Except RunError Int32 := if b = 0 then .error .divisionByZero else .ok (a / b)
def modInt (a b : Int32) : Except RunError Int32 := if b = 0 then .error .divisionByZero else .ok (a % b)
def divLong (a b : Int64) : Except RunError Int64 := if b = 0 then .error .divisionByZero else .ok (a / b)
def modLong (a b : Int64) : Except RunError Int64 := if b = 0 then .error .divisionByZero else .ok (a % b)

/-- A shift by one place halves a number, rounded down. -/
theorem toInt_shiftRight_one (n : Int64) : (n >>> 1).toInt = n.toInt / 2 := by
  rw [← Int64.toInt_toBitVec, Int64.toBitVec_shiftRight, BitVec.toInt_sshiftRight', Int.shiftRight_eq_div_pow,
    Int64.toInt_toBitVec]
  rfl

/-- The product of `result` and `base ^ exponent` by repeated squaring; each round halves the exponent. -/
def powerLoop (result base exponent : Int64) : Int64 :=
  if 0 < exponent then
    powerLoop (if exponent &&& 1 = 1 then result * base else result) (base * base) (exponent >>> 1)
  else result
termination_by exponent.toInt.toNat
decreasing_by
  have positive : (0 : Int64).toInt < exponent.toInt := Int64.lt_iff_toInt_lt.mp ‹_›
  rw [Int64.toInt_zero] at positive
  rw [toInt_shiftRight_one]
  omega

/-- The power of a whole number. A negative exponent gives the quotient cut off toward zero. -/
def powLong (base exponent : Int64) : Except RunError Int64 :=
  if 0 ≤ exponent then .ok (powerLoop 1 base exponent)
  else if base = 0 then .error .divisionByZero
  else if base = 1 then .ok 1
  else if base = -1 then .ok (if exponent % 2 = 0 then 1 else -1)
  else .ok 0

end TypedExpr.Operation
