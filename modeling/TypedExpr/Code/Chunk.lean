import TypedExpr.Code.Instr
import TypedExpr.Error
/-!
# Chunks of code

The bytes of the instructions of an expression, each with the line it came from.
-/

namespace TypedExpr

structure Chunk where
  code : Array UInt8 := #[]
  /-- One line for each byte. -/
  lines : Array Nat := #[]
  deriving DecidableEq, Repr, Inhabited

/-- The largest two-byte operand. -/
def maxOperand : Nat := 65535

/-- The operand of a jump over a number of bytes. -/
def jumpOperand (distance : Nat) : Except InternalFault UInt16 :=
  if distance ≤ maxOperand then .ok distance.toUInt16 else .error (.jumpOverflow distance)

namespace Chunk

def empty : Chunk := {}

def size (c : Chunk) : Nat := c.code.size

def isEmpty (c : Chunk) : Bool := c.code.isEmpty

def writeByte (c : Chunk) (byte : UInt8) (line : Nat) : Chunk := ⟨c.code.push byte, c.lines.push line⟩

def writeOp (c : Chunk) (op : Opcode) (line : Nat) : Chunk := c.writeByte op.toByte line

def writeBytes (c : Chunk) (bytes : List UInt8) (line : Nat) : Chunk :=
  bytes.foldl (fun c b => c.writeByte b line) c

def writeWide (c : Chunk) (n : UInt16) (line : Nat) : Chunk := c.writeBytes (wideBytes n) line

def write (c : Chunk) (i : Instr) (line : Nat) : Chunk := c.writeBytes i.bytes line

/-- The operand of a jump whose target is not known yet. -/
def openJump : UInt16 := 0xFFFF

/-- Writes a jump that is still open; returns the offset of its operand. -/
def writeJump (c : Chunk) (op : Opcode) (line : Nat) : Nat × Chunk :=
  (c.size + 1, c.write (.wide op openJump) line)

/-- Lets the jump with its operand at the offset lead to the end of the code. -/
def patchJump (c : Chunk) (offset : Nat) : Except InternalFault Chunk :=
  match jumpOperand (c.size - offset - 2) with
  | .error fault => .error fault
  | .ok distance =>
    .ok { c with
      code := (c.code.setIfInBounds offset (distance >>> 8).toUInt8).setIfInBounds (offset + 1) distance.toUInt8 }

def lineAt? (c : Chunk) (offset : Nat) : Option Nat := c.lines[offset]?

def byteAt? (c : Chunk) (offset : Nat) : Option UInt8 := c.code[offset]?

def wideAt? (c : Chunk) (offset : Nat) : Option UInt16 :=
  match c.code[offset]?, c.code[offset + 1]? with
  | some high, some low => some (ofWideBytes high low)
  | _, _ => none

def opAt? (c : Chunk) (offset : Nat) : Option Opcode := (c.byteAt? offset).bind Opcode.ofByte?

/-- The instruction at an offset, with all its operands. -/
def instrAt? (c : Chunk) (offset : Nat) : Option Instr :=
  match c.opAt? offset with
  | none => none
  | some op => match op.operandSize with
    | 0 => some (.bare op)
    | 1 => (c.byteAt? (offset + 1)).map (.narrow op)
    | 2 => (c.wideAt? (offset + 1)).map (.wide op)
    | _ => match c.wideAt? (offset + 1), c.byteAt? (offset + 3) with
      | some function, some count => some (.call op function count)
      | _, _ => none

/-- The operations met when passing over their operands, with their offsets, from an offset on; a byte that
is no operation is passed over alone. -/
def sweepFrom (c : Chunk) : (fuel offset : Nat) → List (Nat × Option Opcode)
  | 0, _ => []
  | fuel + 1, offset =>
    if offset < c.size then
      match c.opAt? offset with
      | some op => (offset, some op) :: c.sweepFrom fuel (offset + 1 + op.operandSize)
      | none => (offset, none) :: c.sweepFrom fuel (offset + 1)
    else []

def sweep (c : Chunk) : List (Nat × Option Opcode) := c.sweepFrom c.size 0

/-- The operations without their operands. -/
def opcodes (c : Chunk) : List Opcode := c.sweep.filterMap Prod.snd

/-- Whether the operations occur in this order, others possibly between them. -/
def containsInOrder (c : Chunk) (ops : List Opcode) : Bool := ops.isSublist c.opcodes

def padded (width : Nat) (digits : String) : String :=
  "".pushn '0' (width - digits.length) ++ digits

/-- The operands of an operation at an offset; missing bytes read as zero. -/
def operandTextAt (c : Chunk) (op : Opcode) (offset : Nat) : String :=
  let wide := (c.wideAt? (offset + 1)).getD 0
  match op.operandSize with
  | 0 => ""
  | 1 => (Instr.narrow op ((c.byteAt? (offset + 1)).getD 0)).operandText
  | 2 => (Instr.wide op wide).operandText
  | _ => (Instr.call op wide ((c.byteAt? (offset + 3)).getD 0)).operandText

/-- One line for each instruction: its offset, its name and its operands. -/
def listing (c : Chunk) : List String :=
  c.sweep.map fun (offset, op) =>
    padded 4 (toString offset) ++ match op with
      | some op => " " ++ op.name ++ c.operandTextAt op offset
      | none =>
        " <invalid 0x" ++ padded 2 (String.ofList (Nat.toDigits 16 ((c.byteAt? offset).getD 0).toNat)) ++ ">"

end Chunk
end TypedExpr
