/-!
# Operation codes

The operations of the stack machine. Each is one byte, its number in the order of declaration, and is
followed by a fixed number of operand bytes.
-/

namespace TypedExpr

inductive Opcode where
  | constant | constantWide | pushNull | pushTrue | pushFalse | pushZero | pushOne
  | pop | dup | swap
  | getArgument | getThis | getBean | getEnv
  | addI32 | subI32 | mulI32 | divI32 | modI32 | negI32
  | addI64 | subI64 | mulI64 | divI64 | modI64 | negI64 | powI64
  | addF32 | subF32 | mulF32 | divF32 | modF32 | negF32
  | addF64 | subF64 | mulF64 | divF64 | modF64 | negF64 | powF64
  | concat
  | eqValue
  | ltI32 | leI32 | gtI32 | geI32
  | ltI64 | leI64 | gtI64 | geI64
  | ltF32 | leF32 | gtF32 | geF32
  | ltF64 | leF64 | gtF64 | geF64
  | not
  | i32ToI64 | i32ToF32 | i32ToF64 | i64ToF32 | i64ToF64 | f32ToF64 | unbox
  | instanceOf | checkCast
  | jump | jumpIfFalse | jumpIfTrue | jumpIfNull | jumpIfNotNull
  | callMethod | callStatic
  | newArray | index | mapGet | arrayLength | isEmpty
  | matches
  | return
  deriving DecidableEq, Repr, Inhabited

namespace Opcode

/-- All operations in the order of their numbers. -/
def all : List Opcode :=
  [.constant, .constantWide, .pushNull, .pushTrue, .pushFalse, .pushZero, .pushOne,
   .pop, .dup, .swap,
   .getArgument, .getThis, .getBean, .getEnv,
   .addI32, .subI32, .mulI32, .divI32, .modI32, .negI32,
   .addI64, .subI64, .mulI64, .divI64, .modI64, .negI64, .powI64,
   .addF32, .subF32, .mulF32, .divF32, .modF32, .negF32,
   .addF64, .subF64, .mulF64, .divF64, .modF64, .negF64, .powF64,
   .concat,
   .eqValue,
   .ltI32, .leI32, .gtI32, .geI32,
   .ltI64, .leI64, .gtI64, .geI64,
   .ltF32, .leF32, .gtF32, .geF32,
   .ltF64, .leF64, .gtF64, .geF64,
   .not,
   .i32ToI64, .i32ToF32, .i32ToF64, .i64ToF32, .i64ToF64, .f32ToF64, .unbox,
   .instanceOf, .checkCast,
   .jump, .jumpIfFalse, .jumpIfTrue, .jumpIfNull, .jumpIfNotNull,
   .callMethod, .callStatic,
   .newArray, .index, .mapGet, .arrayLength, .isEmpty,
   .matches,
   .return]

/-- The byte of an operation. -/
def toByte (op : Opcode) : UInt8 := op.ctorIdx.toUInt8

/-- All operations as an array, for reading bytes. -/
def table : Array Opcode := all.toArray

def ofByte? (b : UInt8) : Option Opcode := table[b.toNat]?

/-- How many operand bytes follow. -/
def operandSize : Opcode → Nat
  | .constant => 1
  | .constantWide | .getArgument | .getBean | .concat | .instanceOf | .checkCast | .jump | .jumpIfFalse
  | .jumpIfTrue | .jumpIfNull | .jumpIfNotNull | .newArray | .matches => 2
  | .callMethod | .callStatic => 3
  | _ => 0

def name : Opcode → String
  | .constant => "CONSTANT"
  | .constantWide => "CONSTANT_WIDE"
  | .pushNull => "PUSH_NULL"
  | .pushTrue => "PUSH_TRUE"
  | .pushFalse => "PUSH_FALSE"
  | .pushZero => "PUSH_ZERO"
  | .pushOne => "PUSH_ONE"
  | .pop => "POP"
  | .dup => "DUP"
  | .swap => "SWAP"
  | .getArgument => "GET_ARGUMENT"
  | .getThis => "GET_THIS"
  | .getBean => "GET_BEAN"
  | .getEnv => "GET_ENV"
  | .addI32 => "ADD_I32"
  | .subI32 => "SUB_I32"
  | .mulI32 => "MUL_I32"
  | .divI32 => "DIV_I32"
  | .modI32 => "MOD_I32"
  | .negI32 => "NEG_I32"
  | .addI64 => "ADD_I64"
  | .subI64 => "SUB_I64"
  | .mulI64 => "MUL_I64"
  | .divI64 => "DIV_I64"
  | .modI64 => "MOD_I64"
  | .negI64 => "NEG_I64"
  | .powI64 => "POW_I64"
  | .addF32 => "ADD_F32"
  | .subF32 => "SUB_F32"
  | .mulF32 => "MUL_F32"
  | .divF32 => "DIV_F32"
  | .modF32 => "MOD_F32"
  | .negF32 => "NEG_F32"
  | .addF64 => "ADD_F64"
  | .subF64 => "SUB_F64"
  | .mulF64 => "MUL_F64"
  | .divF64 => "DIV_F64"
  | .modF64 => "MOD_F64"
  | .negF64 => "NEG_F64"
  | .powF64 => "POW_F64"
  | .concat => "CONCAT"
  | .eqValue => "EQ_VALUE"
  | .ltI32 => "LT_I32"
  | .leI32 => "LE_I32"
  | .gtI32 => "GT_I32"
  | .geI32 => "GE_I32"
  | .ltI64 => "LT_I64"
  | .leI64 => "LE_I64"
  | .gtI64 => "GT_I64"
  | .geI64 => "GE_I64"
  | .ltF32 => "LT_F32"
  | .leF32 => "LE_F32"
  | .gtF32 => "GT_F32"
  | .geF32 => "GE_F32"
  | .ltF64 => "LT_F64"
  | .leF64 => "LE_F64"
  | .gtF64 => "GT_F64"
  | .geF64 => "GE_F64"
  | .not => "NOT"
  | .i32ToI64 => "I32_TO_I64"
  | .i32ToF32 => "I32_TO_F32"
  | .i32ToF64 => "I32_TO_F64"
  | .i64ToF32 => "I64_TO_F32"
  | .i64ToF64 => "I64_TO_F64"
  | .f32ToF64 => "F32_TO_F64"
  | .unbox => "UNBOX"
  | .instanceOf => "INSTANCE_OF"
  | .checkCast => "CHECK_CAST"
  | .jump => "JUMP"
  | .jumpIfFalse => "JUMP_IF_FALSE"
  | .jumpIfTrue => "JUMP_IF_TRUE"
  | .jumpIfNull => "JUMP_IF_NULL"
  | .jumpIfNotNull => "JUMP_IF_NOT_NULL"
  | .callMethod => "CALL_METHOD"
  | .callStatic => "CALL_STATIC"
  | .newArray => "NEW_ARRAY"
  | .index => "INDEX"
  | .mapGet => "MAP_GET"
  | .arrayLength => "ARRAY_LENGTH"
  | .isEmpty => "IS_EMPTY"
  | .matches => "MATCHES"
  | .return => "RETURN"

def ofName? (s : String) : Option Opcode := all.find? (·.name == s)

end Opcode
end TypedExpr
