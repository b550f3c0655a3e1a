import TypedExpr.Opcode
/-!
# Instructions

An operation with its operands, and its bytes. Operands of two bytes have the high byte first.
-/

namespace TypedExpr

inductive Instr where
  | bare (op : Opcode)
  | narrow (op : Opcode) (operand : UInt8)
  | wide (op : Opcode) (operand : UInt16)
  /-- A function number and the number of arguments. -/
  | call (op : Opcode) (function : UInt16) (count : UInt8)
  deriving DecidableEq, Repr, Inhabited

/-- The two bytes of a number, the high one first. -/
def wideBytes (n : UInt16) : List UInt8 := [(n >>> 8).toUInt8, n.toUInt8]

def ofWideBytes (high low : UInt8) : UInt16 := (high.toUInt16 <<< 8) ||| low.toUInt16

namespace Instr

def op : Instr → Opcode
  | .bare op | .narrow op _ | .wide op _ | .call op .. => op

def bytes : Instr → List UInt8
  | .bare op => [op.toByte]
  | .narrow op n => [op.toByte, n]
  | .wide op n => op.toByte :: wideBytes n
  | .call op f n => op.toByte :: wideBytes f ++ [n]

def size : Instr → Nat
  | .bare _ => 1
  | .narrow .. => 2
  | .wide .. => 3
  | .call .. => 4

/-- The operands as they are listed after the name of the operation. -/
def operandText : Instr → String
  | .bare _ => ""
  | .narrow _ n => " " ++ toString n.toNat
  | .wide _ n => " " ++ toString n.toNat
  | .call _ f n => " " ++ toString f.toNat ++ " argc=" ++ toString n.toNat

end Instr
end TypedExpr
