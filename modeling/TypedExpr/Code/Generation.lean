import TypedExpr.Code.Tables
import TypedExpr.Typed
/-!
# Code generation

The code of a resolved expression leaves its value on the stack. A chain of one logical operator is laid
out flat: every operand but the last is followed by a jump to the end of the chain. A chain of joined
texts becomes one instruction over all its operands.
-/

namespace TypedExpr

/-- Instructions, each with its line. -/
abbrev Code := List (Nat × Instr)

namespace Code

def size (code : Code) : Nat := code.foldl (fun n i => n + i.2.size) 0

def ofOps (line : Nat) (ops : List Opcode) : Code := ops.map fun op => (line, .bare op)

def chunk (code : Code) : Chunk where
  code := (code.flatMap fun i => i.2.bytes).toArray
  lines := (code.flatMap fun i => List.replicate i.2.size i.1).toArray

end Code

/-- A part of code generation: it may add to the tables, or fail because something does not fit. -/
abbrev Generate (H : Type) (α : Type) := StateT (Tables H) (Except InternalFault) α

/-- The code of a node before it is known what stands around it. -/
inductive Draft where
  | closed (code : Code)
  /-- The operands of a chain of one logical operator, each with whether it is boxed. -/
  | chain (op : LogicalOp) (operands : List (Code × Bool))
  /-- Operands whose texts are joined: their number and their code. -/
  | concat (count : Nat) (code : Code)

namespace Generation

variable {H : Type}

def exitOp : LogicalOp → Opcode
  | .and => .jumpIfFalse
  | .or => .jumpIfTrue

def condition (line : Nat) (code : Code) (isBoxed : Bool) : Code :=
  if isBoxed then code ++ Code.ofOps line [.unbox] else code

/-- The size of a chain: a jump and a pop follow each operand but the last. -/
def chainSize : List Code → Nat
  | [] => 0
  | [last] => last.size
  | operand :: rest => operand.size + 4 + chainSize rest

/-- Lays out a chain; `size` is its size. Every jump leads to its end. -/
def layChain (line : Nat) (exit : Opcode) : (size : Nat) → List Code → Except InternalFault Code
  | _, [] => .ok []
  | _, [last] => .ok last
  | size, operand :: rest => do
    let distance ← jumpOperand (size - (operand.size + 3))
    let code ← layChain line exit (size - (operand.size + 4)) rest
    return operand ++ [(line, .wide exit distance), (line, .bare .pop)] ++ code

def finish (line : Nat) : Draft → Except InternalFault Code
  | .closed code => .ok code
  | .chain op operands =>
    let codes := operands.map fun (code, isBoxed) => condition line code isBoxed
    layChain line (exitOp op) (chainSize codes) codes
  | .concat count code =>
    (countInstr .concat "concat operand" count).map fun i => code ++ [(line, i)]

def chainOperands (op : LogicalOp) (t : Typed H) : Draft → Except InternalFault (List (Code × Bool))
  | .chain inner operands =>
    if inner = op then .ok operands
    else (finish t.line (.chain inner operands)).map fun code => [(code, t.type.isBoxed)]
  | draft => (finish t.line draft).map fun code => [(code, t.type.isBoxed)]

def concatOperands (t : Typed H) : Draft → Except InternalFault (Nat × Code)
  | .concat count code => .ok (count, code)
  | draft => (finish t.line draft).map fun code => (1, code)

def load (line : Nat) (c : Constant) : Generate H Code := do
  let index ← modifyGet fun tables => tables.constant c
  let i ← liftExcept (loadConstant index)
  return [(line, i)]

def literal (line : Nat) : Literal → Generate H Code
  | .bool b => return Code.ofOps line [if b then .pushTrue else .pushFalse]
  | .int n =>
    if n = 0 then return Code.ofOps line [.pushZero]
    else if n = 1 then return Code.ofOps line [.pushOne]
    else load line (.int n)
  | .long n => load line (.long n)
  | .float x => load line (.float x)
  | .double x => load line (.double x)
  | .string s => load line (.string s)
  | .null => return Code.ofOps line [.pushNull]

def typeOp (line : Nat) (op : Opcode) (t : Ty) : Generate H Code := do
  let index ← modifyGet fun tables => tables.constant (.type t)
  let i ← liftExcept (typeInstr op index)
  return [(line, i)]

/-- A check of a value that comes from the host; every value is an `Object`. -/
def check (line : Nat) (t : Ty) : Generate H Code :=
  if t.isObject then return [] else typeOp line .checkCast t

def call (line : Nat) (op : Opcode) (m : Method H) (count : Nat) : Generate H Code := do
  let index ← fun tables => tables.function m
  let i ← liftExcept (callInstr op index count)
  return [(line, i)]

def pattern (line : Nat) (p : Pattern) : Generate H Code := do
  let index ← modifyGet fun tables => tables.pattern p
  let i ← liftExcept (countInstr .matches "regex" index)
  return [(line, i)]

def arithmeticOp? : ArithmeticOp → Kind → Option Opcode
  | .add, .int => some .addI32
  | .sub, .int => some .subI32
  | .mul, .int => some .mulI32
  | .div, .int => some .divI32
  | .mod, .int => some .modI32
  | .add, .long => some .addI64
  | .sub, .long => some .subI64
  | .mul, .long => some .mulI64
  | .div, .long => some .divI64
  | .mod, .long => some .modI64
  | .pow, .long => some .powI64
  | .add, .float => some .addF32
  | .sub, .float => some .subF32
  | .mul, .float => some .mulF32
  | .div, .float => some .divF32
  | .mod, .float => some .modF32
  | .add, .double => some .addF64
  | .sub, .double => some .subF64
  | .mul, .double => some .mulF64
  | .div, .double => some .divF64
  | .mod, .double => some .modF64
  | .pow, .double => some .powF64
  | _, _ => none

def negationOp? : Kind → Option Opcode
  | .int => some .negI32
  | .long => some .negI64
  | .float => some .negF32
  | .double => some .negF64
  | .bool => none

def relationalOp? : RelationalOp → Kind → Option Opcode
  | .lt, .int => some .ltI32
  | .le, .int => some .leI32
  | .gt, .int => some .gtI32
  | .ge, .int => some .geI32
  | .lt, .long => some .ltI64
  | .le, .long => some .leI64
  | .gt, .long => some .gtI64
  | .ge, .long => some .geI64
  | .lt, .float => some .ltF32
  | .le, .float => some .leF32
  | .gt, .float => some .gtF32
  | .ge, .float => some .geF32
  | .lt, .double => some .ltF64
  | .le, .double => some .leF64
  | .gt, .double => some .gtF64
  | .ge, .double => some .geF64
  | _, .bool => none

def kindOp (line : Nat) (symbol : String) (kind : Kind) : Option Opcode → Except InternalFault Code
  | some op => .ok (Code.ofOps line [op])
  | none => .error (.noInstruction symbol kind)

/-- The operations that convert a branch to the type of the whole. -/
def convert (c : Catalog H) (line : Nat) (source target : Ty) : Except InternalFault Code :=
  match c.conversion? source target with
  | some conversion => .ok (Code.ofOps line conversion.code)
  | none => .error (.noConversion source target)

/-- Code that is jumped over, with the jump in front. -/
def skipping (line : Nat) (op : Opcode) (body : Code) : Except InternalFault Code :=
  (jumpOperand body.size).map fun distance => (line, .wide op distance) :: body

/-- A member access; a null-safe one keeps a null receiver and does nothing else. -/
def guarded (line : Nat) (nullSafe : Bool) (body : Code) : Except InternalFault Code :=
  if nullSafe then skipping line .jumpIfNull body else .ok body

def convertEach (line : Nat) (codes : List Code) (conversions : List Conversion) : Code :=
  (codes.zipWith (fun code conversion => code ++ Code.ofOps line conversion.code) conversions).flatten

/-- The arguments as the selected method takes them; trailing ones may be collected in an array. -/
def passArguments (line : Nat) (s : Selection H) (codes : List Code) : Except InternalFault Code :=
  match s.varargsStart with
  | none => .ok (convertEach line codes s.conversions)
  | some start =>
    let items := codes.drop start
    let conversions := s.conversions.drop start
    if items.length ≠ conversions.length then .error (.varargsMismatch items.length conversions.length)
    else (countInstr .newArray "array element" items.length).map fun i =>
      convertEach line (codes.take start) s.conversions ++ convertEach line items conversions ++ [(line, i)]

def part (t : Typed H) (draft : Generate H Draft) : Generate H Code := do
  let d ← draft
  liftExcept (finish t.line d)

end Generation

open Generation

variable {H : Type}

mutual
/-- The code of a resolved expression, still open for chains around it. -/
def Typed.draft (c : Catalog H) : Typed H → Generate H Draft
  | .literal line v => return .closed (← Generation.literal line v)
  | .numeric line op kind l r => do
    let left ← part l (l.draft c)
    let right ← part r (r.draft c)
    let operation ← liftExcept (kindOp line op.symbol kind (arithmeticOp? op kind))
    return .closed (left ++ Code.ofOps line (l.type.coercionCode kind)
      ++ right ++ Code.ofOps line (r.type.coercionCode kind) ++ operation)
  | .concat _ l r => do
    let left ← l.draft c
    let (leftCount, leftCode) ← liftExcept (concatOperands l left)
    let right ← r.draft c
    let (rightCount, rightCode) ← liftExcept (concatOperands r right)
    return .concat (leftCount + rightCount) (leftCode ++ rightCode)
  | .negate line kind e => do
    let operand ← part e (e.draft c)
    let operation ← liftExcept (kindOp line "-" kind (negationOp? kind))
    return .closed (operand ++ Code.ofOps line (e.type.coercionCode kind) ++ operation)
  | .logical _ op l r => do
    let left ← l.draft c
    let leftOperands ← liftExcept (chainOperands op l left)
    let right ← r.draft c
    let rightOperands ← liftExcept (chainOperands op r right)
    return .chain op (leftOperands ++ rightOperands)
  | .not line e => do
    let operand ← part e (e.draft c)
    return .closed (condition line operand e.type.isBoxed ++ Code.ofOps line [.not])
  | .empty line e => do
    let operand ← part e (e.draft c)
    return .closed (operand ++ Code.ofOps line [.isEmpty])
  | .equality line negated l r => do
    let left ← part l (l.draft c)
    let right ← part r (r.draft c)
    return .closed (left ++ right ++ Code.ofOps line (if negated then [.eqValue, .not] else [.eqValue]))
  | .ordering line op kind l r => do
    let left ← part l (l.draft c)
    let right ← part r (r.draft c)
    let operation ← liftExcept (kindOp line op.symbol kind (relationalOp? op kind))
    return .closed (left ++ Code.ofOps line (l.type.coercionCode kind)
      ++ right ++ Code.ofOps line (r.type.coercionCode kind) ++ operation)
  | .comparison line op s isLeft l r => do
    let left ← part l (l.draft c)
    let right ← part r (r.draft c)
    let conversion ← match s.conversions.head? with
      | some conversion => pure conversion
      | none => throw .comparisonWithoutArgument
    let comparison ← Generation.call line .callMethod s.method 1
    let relation := if isLeft then op else op.invert
    let operation ← liftExcept (kindOp line relation.symbol .int (relationalOp? relation .int))
    return .closed (left ++ right ++ Code.ofOps line (if isLeft then [] else [.swap])
      ++ Code.ofOps line conversion.code ++ comparison ++ Code.ofOps line [.pushZero] ++ operation)
  | .instanceOf line t e => do
    let operand ← part e (e.draft c)
    let test ← typeOp line .instanceOf t
    return .closed (operand ++ test)
  | .matches line p e => do
    let operand ← part e (e.draft c)
    let test ← Generation.pattern line p
    return .closed (operand ++ test)
  | .ternary line t cond yes no => do
    let test ← part cond (cond.draft c)
    let thenCode ← part yes (yes.draft c)
    let thenConversion ← liftExcept (convert c line yes.type t)
    let toElse ← liftExcept (jumpOperand ((thenCode ++ thenConversion).size + 4))
    let elseCode ← part no (no.draft c)
    let elseConversion ← liftExcept (convert c line no.type t)
    let otherwise ← liftExcept
      (skipping line .jump (Code.ofOps line [.pop] ++ elseCode ++ elseConversion))
    return .closed (condition line test cond.type.isBoxed
      ++ [(line, .wide .jumpIfFalse toElse), (line, .bare .pop)] ++ thenCode ++ thenConversion ++ otherwise)
  | .elvis line t l r => do
    let left ← part l (l.draft c)
    let right ← part r (r.draft c)
    let rightConversion ← liftExcept (convert c line r.type t)
    let present ← liftExcept (jumpOperand ((right ++ rightConversion).size + 4))
    let leftConversion ← liftExcept (convert c line l.type t)
    let otherwise ← liftExcept (skipping line .jump leftConversion)
    return .closed (left ++ [(line, .wide .jumpIfNotNull present), (line, .bare .pop)] ++ right
      ++ rightConversion ++ otherwise)
  | .index line form t e i => do
    let target ← part e (e.draft c)
    let position ← part i (i.draft c)
    match form with
    | .array => return .closed (target ++ condition line position i.type.isBoxed ++ Code.ofOps line [.index])
    | .list =>
      let checked ← check line t
      return .closed (target ++ condition line position i.type.isBoxed ++ Code.ofOps line [.index] ++ checked)
    | .map =>
      let checked ← check line t
      return .closed (target ++ position ++ Code.ofOps line [.mapGet] ++ checked)
  | .arrayLength line nullSafe e => do
    let receiver ← part e (e.draft c)
    let access ← liftExcept (guarded line nullSafe (Code.ofOps line [.arrayLength]))
    return .closed (receiver ++ access)
  | .property line nullSafe p e => do
    let receiver ← part e (e.draft c)
    let body ← Generation.call line .callMethod p.getter 0
    let access ← liftExcept (guarded line nullSafe body)
    return .closed (receiver ++ access)
  | .call line nullSafe s e args => do
    let receiver ← part e (e.draft c)
    let codes ← Typed.codes c args
    let arguments ← liftExcept (passArguments line s codes)
    let body ← if s.method.isStatic then do
        let invocation ← Generation.call line .callStatic s.method s.arity
        pure (Code.ofOps line [.pop] ++ arguments ++ invocation)
      else do
        let invocation ← Generation.call line .callMethod s.method s.arity
        pure (arguments ++ invocation)
    let access ← liftExcept (guarded line nullSafe body)
    return .closed (receiver ++ access)
  | .staticCall line s args => do
    let codes ← Typed.codes c args
    let arguments ← liftExcept (passArguments line s codes)
    let invocation ← Generation.call line .callStatic s.method s.arity
    return .closed (arguments ++ invocation)
  | .parameter line position t => do
    let i ← liftExcept (countInstr .getArgument "argument" position)
    let checked ← check line t
    return .closed ((line, i) :: checked)
  | .contextProperty line owner p => do
    let bean ← typeOp line .getBean owner
    let invocation ← Generation.call line .callMethod p.getter 0
    return .closed (bean ++ invocation)
  | .contextCall line s args => do
    let receiver ← if s.method.isStatic then pure [] else typeOp line .getBean s.method.owner
    let codes ← Typed.codes c args
    let arguments ← liftExcept (passArguments line s codes)
    let invocation ← Generation.call line (if s.method.isStatic then .callStatic else .callMethod) s.method s.arity
    return .closed (receiver ++ arguments ++ invocation)
  | .this line t => do
    let checked ← check line t
    return .closed (Code.ofOps line [.getThis] ++ checked)
  | .bean line t => return .closed (← typeOp line .getBean t)
  | .environment line k => do
    let key ← part k (k.draft c)
    return .closed (key ++ Code.ofOps line [.getEnv])

def Typed.codes (c : Catalog H) : List (Typed H) → Generate H (List Code)
  | [] => return []
  | t :: ts => do
    let code ← part t (t.draft c)
    let rest ← Typed.codes c ts
    return code :: rest
end

def Typed.generate (c : Catalog H) (t : Typed H) : Except InternalFault (Code × Tables H) :=
  (part t (t.draft c)).run .empty

end TypedExpr
