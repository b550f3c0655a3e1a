import TypedExpr.Code.Chunk
import TypedExpr.Code.Constant
import TypedExpr.Declaration
import TypedExpr.Pattern
/-!
# Tables

What the operands of instructions refer to: constants, methods and patterns. Entries are shared, methods
by their digest and patterns by their text.
-/

namespace TypedExpr

/-- A number as a two-byte operand; `what` says what it counts. -/
def operand (what : String) (n : Nat) : Except InternalFault UInt16 :=
  if n ≤ maxOperand then .ok n.toUInt16 else .error (.operandOverflow what n)

def loadConstant (index : Nat) : Except InternalFault Instr :=
  if index < 256 then .ok (.narrow .constant index.toUInt8)
  else match operand "constant" index with
    | .ok n => .ok (.wide .constantWide n)
    | .error fault => .error fault

def typeInstr (op : Opcode) (index : Nat) : Except InternalFault Instr :=
  match operand "constant" index with
  | .ok n => .ok (.wide op n)
  | .error fault => .error fault

def countInstr (op : Opcode) (what : String) (n : Nat) : Except InternalFault Instr :=
  match operand what n with
  | .ok n => .ok (.wide op n)
  | .error fault => .error fault

/-- A call of a function by its number; the number of arguments has one byte. -/
def callInstr (op : Opcode) (function : UInt16) (count : Nat) : Except InternalFault Instr :=
  if count < 256 then .ok (.call op function count.toUInt8) else .error (.callOverflow count)

structure Tables (H : Type) where
  constants : ConstantPool := {}
  functions : Array (Method H) := #[]
  patterns : Array Pattern := #[]

namespace Tables

variable {H : Type}

def empty : Tables H := {}

def constant (t : Tables H) (c : Constant) : Nat × Tables H :=
  let (index, constants) := t.constants.add c
  (index, { t with constants })

def pattern (t : Tables H) (p : Pattern) : Nat × Tables H :=
  match t.patterns.findIdx? fun q => q.source == p.source with
  | some index => (index, t)
  | none => (t.patterns.size, { t with patterns := t.patterns.push p })

/-- The number of a method; a full table takes no new ones. -/
def function (t : Tables H) (m : Method H) : Except InternalFault (UInt16 × Tables H) :=
  match t.functions.findIdx? fun f => f.digest == m.digest with
  | some index => .ok (index.toUInt16, t)
  | none => match operand "function" t.functions.size with
    | .ok index => .ok (index, { t with functions := t.functions.push m })
    | .error fault => .error fault

end Tables
end TypedExpr
