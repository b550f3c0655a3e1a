import TypedExpr.Environment
import TypedExpr.Operation.Access
import TypedExpr.Program
import TypedExpr.Value.Order
import TypedExpr.Value.Text
/-!
# The stack machine

Runs a program from its first byte with one stack of values. Jumps only lead forward, so a run executes no
more instructions than the program has bytes.
-/

namespace TypedExpr

namespace Machine

open Number Operation

variable {H : Type} [HostObject H]

/-- The stack, the top first, and the offset of the next instruction. -/
structure State (H : Type) where
  stack : List (Value H) := []
  offset : Nat := 0

omit [HostObject H] in
def underflow {α : Type} : Except RunError α := .error (.invalidBytecode "stack underflow")

omit [HostObject H] in
/-- An instruction with operands that its operation does not take. -/
def misread {α : Type} : Except RunError α := .error (.invalidBytecode "operands of another operation")

omit [HostObject H] in
/-- Takes the top values off a stack; the deepest of them comes first. -/
def takeTop : (count : Nat) → (taken stack : List (Value H)) → Except RunError (List (Value H) × List (Value H))
  | 0, taken, stack => .ok (taken, stack)
  | count + 1, taken, v :: stack => takeTop count (v :: taken) stack
  | _ + 1, _, [] => underflow

omit [HostObject H] in
def unary {α : Type} (read : Value H → Except RunError α) (f : α → Value H) :
    List (Value H) → Except RunError (List (Value H))
  | v :: stack => do
    let a ← read v
    return f a :: stack
  | [] => underflow

omit [HostObject H] in
/-- Replaces the two top values by a result computed from them, which may fail. -/
def binaryM {α : Type} (read : Value H → Except RunError α) (f : α → α → Except RunError (Value H)) :
    List (Value H) → Except RunError (List (Value H))
  | right :: left :: stack => do
    let a ← read left
    let b ← read right
    return (← f a b) :: stack
  | _ => underflow

omit [HostObject H] in
def binary {α : Type} (read : Value H → Except RunError α) (f : α → α → Value H) :
    List (Value H) → Except RunError (List (Value H)) :=
  binaryM read fun a b => .ok (f a b)

def runBare (env : Environment H) (op : Opcode) (stack : List (Value H)) :
    Except RunError (List (Value H)) :=
  match op with
  | .pushNull => .ok (.null :: stack)
  | .pushTrue => .ok (.bool true :: stack)
  | .pushFalse => .ok (.bool false :: stack)
  | .pushZero => .ok (.int 0 :: stack)
  | .pushOne => .ok (.int 1 :: stack)
  | .pop => match stack with
    | _ :: rest => .ok rest
    | [] => underflow
  | .dup => match stack with
    | v :: rest => .ok (v :: v :: rest)
    | [] => underflow
  | .swap => match stack with
    | a :: b :: rest => .ok (b :: a :: rest)
    | _ => .error (.invalidBytecode "stack underflow on swap")
  | .getThis => match env.this with
    | some v => .ok (v :: stack)
    | none => .error .missingThis
  | .getEnv => unary (asString "environment key") (fun key => (env.property key).elim .null .string) stack
  | .addI32 => binary asInt (fun a b => .int (a + b)) stack
  | .subI32 => binary asInt (fun a b => .int (a - b)) stack
  | .mulI32 => binary asInt (fun a b => .int (a * b)) stack
  | .divI32 => binaryM asInt (fun a b => (divInt a b).map .int) stack
  | .modI32 => binaryM asInt (fun a b => (modInt a b).map .int) stack
  | .negI32 => unary asInt (fun a => .int (-a)) stack
  | .addI64 => binary asLong (fun a b => .long (a + b)) stack
  | .subI64 => binary asLong (fun a b => .long (a - b)) stack
  | .mulI64 => binary asLong (fun a b => .long (a * b)) stack
  | .divI64 => binaryM asLong (fun a b => (divLong a b).map .long) stack
  | .modI64 => binaryM asLong (fun a b => (modLong a b).map .long) stack
  | .negI64 => unary asLong (fun a => .long (-a)) stack
  | .powI64 => binaryM asLong (fun a b => (powLong a b).map .long) stack
  | .addF32 => binary asFloat (fun a b => .float (a.add b)) stack
  | .subF32 => binary asFloat (fun a b => .float (a.sub b)) stack
  | .mulF32 => binary asFloat (fun a b => .float (a.mul b)) stack
  | .divF32 => binary asFloat (fun a b => .float (a.div b)) stack
  | .modF32 => binary asFloat (fun a b => .float (a.rem b)) stack
  | .negF32 => unary asFloat (fun a => .float a.neg) stack
  | .addF64 => binary asDouble (fun a b => .double (a.add b)) stack
  | .subF64 => binary asDouble (fun a b => .double (a.sub b)) stack
  | .mulF64 => binary asDouble (fun a b => .double (a.mul b)) stack
  | .divF64 => binary asDouble (fun a b => .double (a.div b)) stack
  | .modF64 => binary asDouble (fun a b => .double (a.rem b)) stack
  | .negF64 => unary asDouble (fun a => .double a.neg) stack
  | .powF64 => binary asDouble (fun a b => .double (a.pow b)) stack
  | .eqValue => binary Except.ok (fun a b => .bool (a.equals b)) stack
  | .ltI32 => binary asInt (fun a b => .bool (a < b)) stack
  | .leI32 => binary asInt (fun a b => .bool (a ≤ b)) stack
  | .gtI32 => binary asInt (fun a b => .bool (b < a)) stack
  | .geI32 => binary asInt (fun a b => .bool (b ≤ a)) stack
  | .ltI64 => binary asLong (fun a b => .bool (a < b)) stack
  | .leI64 => binary asLong (fun a b => .bool (a ≤ b)) stack
  | .gtI64 => binary asLong (fun a b => .bool (b < a)) stack
  | .geI64 => binary asLong (fun a b => .bool (b ≤ a)) stack
  | .ltF32 => binary asFloat (fun a b => .bool (a.lt b)) stack
  | .leF32 => binary asFloat (fun a b => .bool (a.le b)) stack
  | .gtF32 => binary asFloat (fun a b => .bool (b.lt a)) stack
  | .geF32 => binary asFloat (fun a b => .bool (b.le a)) stack
  | .ltF64 => binary asDouble (fun a b => .bool (a.lt b)) stack
  | .leF64 => binary asDouble (fun a b => .bool (a.le b)) stack
  | .gtF64 => binary asDouble (fun a b => .bool (b.lt a)) stack
  | .geF64 => binary asDouble (fun a b => .bool (b.le a)) stack
  | .not => unary asBool (fun a => .bool !a) stack
  | .i32ToI64 => unary asInt (fun a => .long a.toInt64) stack
  | .i32ToF32 => unary asInt (fun a => .float (.ofInt32 a)) stack
  | .i32ToF64 => unary asInt (fun a => .double (.ofInt32 a)) stack
  | .i64ToF32 => unary asLong (fun a => .float (.ofInt64 a)) stack
  | .i64ToF64 => unary asLong (fun a => .double (.ofInt64 a)) stack
  | .f32ToF64 => unary asFloat (fun a => .double a.toDouble) stack
  | .unbox => match stack with
    | .null :: _ => .error (.nullValue "primitive value")
    | v :: rest => .ok (v :: rest)
    | [] => underflow
  | .index => match stack with
    | position :: target :: rest => do
      let index ← asInt position
      return (← item target index) :: rest
    | _ => underflow
  | .mapGet => match stack with
    | key :: target :: rest => do return (← entry target key) :: rest
    | _ => underflow
  | .arrayLength => match stack with
    | v :: rest => do return (← arrayLength v) :: rest
    | [] => underflow
  | .isEmpty => unary Except.ok (fun v => .bool (isEmpty v)) stack
  | .return => .error (.invalidBytecode "return inside instruction")
  | _ => misread

omit [HostObject H] in
def constantValue (p : Program H) (index : Nat) : Except RunError (Value H) :=
  match (p.tables.constants.get? index).bind Constant.value? with
  | some v => .ok v
  | none => .error (.invalidBytecode ("constant " ++ toString index ++ " is not a value"))

omit [HostObject H] in
def constantType (p : Program H) (index : Nat) : Except RunError Ty :=
  match (p.tables.constants.get? index).bind Constant.type? with
  | some t => .ok t
  | none => .error (.invalidBytecode ("constant " ++ toString index ++ " is not a type"))

omit [HostObject H] in
def function (p : Program H) (index : Nat) : Except RunError (Method H) :=
  match p.tables.functions[index]? with
  | some m => .ok m
  | none => .error (.invalidBytecode ("no function " ++ toString index))

omit [HostObject H] in
def patternAt (p : Program H) (index : Nat) : Except RunError Pattern :=
  match p.tables.patterns[index]? with
  | some pattern => .ok pattern
  | none => .error (.invalidBytecode ("no regex " ++ toString index))

omit [HostObject H] in
def top : List (Value H) → Except RunError (Value H)
  | v :: _ => .ok v
  | [] => underflow

omit [HostObject H] in
def runNarrow (p : Program H) (op : Opcode) (n : Nat) (stack : List (Value H)) : Except RunError (List (Value H)) :=
  match op with
  | .constant => do return (← constantValue p n) :: stack
  | _ => misread

/-- Whether a conditional jump is taken, by the value on top of the stack. -/
def jumps (op : Opcode) (stack : List (Value H)) : Except RunError Bool :=
  match op with
  | .jumpIfFalse => do return !(← asBool (← top stack))
  | .jumpIfTrue => do asBool (← top stack)
  | .jumpIfNull => do return (← top stack).isNull
  | .jumpIfNotNull => do return !(← top stack).isNull
  | _ => .ok true

/-- The result of an operation with a two-byte operand that is no jump. -/
def runWide (p : Program H) (env : Environment H) (op : Opcode) (n : Nat) (stack : List (Value H)) :
    Except RunError (List (Value H)) :=
  match op with
  | .constantWide => do return (← constantValue p n) :: stack
  | .getArgument => match env.argument n with
    | some v => .ok (v :: stack)
    | none => .error (.missingArgument n)
  | .getBean => do
    let t ← constantType p n
    match env.bean t with
    | some v => return v :: stack
    | none => throw (.noSuchBean t.text)
  | .concat => do
    let (parts, rest) ← takeTop n [] stack
    return .string (String.join (parts.map Value.text)) :: rest
  | .instanceOf => do
    let t ← constantType p n
    match stack with
    | v :: rest => return .bool (p.catalog.isInstance v t) :: rest
    | [] => underflow
  | .checkCast => do
    let t ← constantType p n
    let v ← top stack
    checkCast p.catalog t v
    return stack
  | .newArray => do
    let (items, rest) ← takeTop n [] stack
    return .array items :: rest
  | .matches => do
    match stack with
    | v :: rest =>
      let pattern ← patternAt p n
      return .bool (← matchesPattern pattern v) :: rest
    | [] => underflow
  | _ => misread

omit [HostObject H] in
/-- The result of a call with the top `count` values as its arguments; the receiver is below them. -/
def runCall (p : Program H) (op : Opcode) (index count : Nat) (stack : List (Value H)) :
    Except RunError (List (Value H)) :=
  match op with
  | .callMethod => do
    let (args, rest) ← takeTop count [] stack
    match rest with
    | receiver :: rest =>
      let m ← function p index
      return (← invoke m receiver args) :: rest
    | [] => underflow
  | .callStatic => do
    let (args, rest) ← takeTop count [] stack
    let m ← function p index
    return (← m.native .null args) :: rest
  | _ => misread

/-- Whether the operation moves to another offset. -/
def isJump : Opcode → Bool
  | .jump | .jumpIfFalse | .jumpIfTrue | .jumpIfNull | .jumpIfNotNull => true
  | _ => false

def step (p : Program H) (env : Environment H) (i : Instr) (s : State H) : Except RunError (State H) :=
  let next := s.offset + i.size
  match i with
  | .bare op => do return { stack := ← runBare env op s.stack, offset := next }
  | .narrow op n => do return { stack := ← runNarrow p op n.toNat s.stack, offset := next }
  | .wide op n =>
    if isJump op then do
      let taken ← jumps op s.stack
      return { stack := s.stack, offset := if taken then next + n.toNat else next }
    else do return { stack := ← runWide p env op n.toNat s.stack, offset := next }
  | .call op f n => do return { stack := ← runCall p op f.toNat n.toNat s.stack, offset := next }

omit [HostObject H] in
/-- Why no instruction can be read: none starts at the offset, or the code ends within its operands. -/
def unreadable (p : Program H) (offset : Nat) : RunError :=
  match p.chunk.opAt? offset with
  | some _ => .invalidBytecode "truncated operand"
  | none => .invalidBytecode ("no instruction at offset " ++ toString offset)

/-- Runs until the return instruction, for at most `fuel` instructions. -/
def runFrom (p : Program H) (env : Environment H) : (fuel : Nat) → State H → Except RunError (Value H)
  | 0, s => .error (unreadable p s.offset)
  | fuel + 1, s =>
    match p.chunk.instrAt? s.offset with
    | none => .error (unreadable p s.offset)
    | some (.bare .return) => top s.stack
    | some i => match step p env i s with
      | .error e => .error e
      | .ok s => runFrom p env fuel s

end Machine

def Program.run {H : Type} [HostObject H] (p : Program H) (env : Environment H) : Except RunError (Value H) :=
  Machine.runFrom p env (p.chunk.size + 1) {}

end TypedExpr
