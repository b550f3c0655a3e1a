import TypedExpr.Code.Tables
import TypedExpr.Conversion
/-!
# The assembler

Writes single instructions and fills the tables they refer to. A step that fails writes no code, but what it
added to the tables before stays there.
-/

namespace TypedExpr

structure Assembler (H : Type) where
  chunk : Chunk := {}
  tables : Tables H := {}
  /-- The line of the instructions that are written next. -/
  line : Nat := 1

abbrev Assembly (H : Type) (α : Type) := ExceptT InternalFault (StateM (Assembler H)) α

namespace Assembly

variable {H : Type}

def setLine (line : Nat) : Assembly H Unit := modify fun a => { a with line }

def write (i : Instr) : Assembly H Unit := modify fun a => { a with chunk := a.chunk.write i a.line }

def emit (op : Opcode) : Assembly H Unit := write (.bare op)

/-- Writes an instruction unless its operand does not fit. -/
def writeChecked (i : Except InternalFault Instr) : Assembly H Unit := do write (← liftExcept i)

def constant (c : Constant) : Assembly H Unit := do
  let index ← modifyGet fun a =>
    let (index, tables) := a.tables.constant c
    (index, { a with tables })
  writeChecked (loadConstant index)

/-- Loads an int; zero and one have operations of their own. -/
def int (n : Int32) : Assembly H Unit :=
  if n = 0 then emit .pushZero else if n = 1 then emit .pushOne else constant (.int n)

def long (n : Int64) : Assembly H Unit := constant (.long n)

/-- Loads `count` longs, each one more than the one before. -/
def longs : (count : Nat) → Int64 → Assembly H Unit
  | 0, _ => pure ()
  | count + 1, n => do
    long n
    longs count (n + 1)

def null : Assembly H Unit := emit .pushNull

def bool (b : Bool) : Assembly H Unit := emit (if b then .pushTrue else .pushFalse)

def argument (index : Nat) : Assembly H Unit := writeChecked (countInstr .getArgument "argument" index)

def typeOp (op : Opcode) (t : Ty) : Assembly H Unit := do
  let index ← modifyGet fun a =>
    let (index, tables) := a.tables.constant (.type t)
    (index, { a with tables })
  writeChecked (typeInstr op index)

def call (op : Opcode) (m : Method H) (count : Nat) : Assembly H Unit := do
  let a ← get
  let (index, tables) ← liftExcept (a.tables.function m)
  set { a with tables }
  writeChecked (callInstr op index count)

def callMethod (m : Method H) (count : Nat) : Assembly H Unit := call .callMethod m count

def callStatic (m : Method H) (count : Nat) : Assembly H Unit := call .callStatic m count

def concat (count : Nat) : Assembly H Unit := writeChecked (countInstr .concat "concat operand" count)

def newArray (count : Nat) : Assembly H Unit := writeChecked (countInstr .newArray "array element" count)

def pattern (p : Pattern) : Assembly H Unit := do
  let index ← modifyGet fun a =>
    let (index, tables) := a.tables.pattern p
    (index, { a with tables })
  writeChecked (countInstr .matches "regex" index)

/-- Writes an open jump and returns where its operand is. -/
def jump (op : Opcode) : Assembly H Nat :=
  modifyGet fun a =>
    let (offset, chunk) := a.chunk.writeJump op a.line
    (offset, { a with chunk })

/-- Lets an open jump lead to the present end of the code. -/
def patch (offset : Nat) : Assembly H Unit := do
  let a ← get
  let chunk ← liftExcept (a.chunk.patchJump offset)
  set { a with chunk }

/-- Turns the top value, a number of the source type, into the kind. -/
def coerce (source : Ty) (target : Kind) : Assembly H Unit := (source.coercionCode target).forM emit

end Assembly
end TypedExpr
