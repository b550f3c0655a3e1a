import TypedExpr.Program
/-!
# Emission

Generates code node by node from what the nodes of an expression remember. A node is resolved before its code is
generated, unless it remembers its outcome. All that generation takes from a resolved node is its type and its
plan; what it needs of the nodes below is asked from them.
-/

namespace TypedExpr

inductive Plan (H : Type) where
  | direct
  | numeric (kind : Kind)
  | concat
  | comparison (selection : Selection H) (receiverIsLeft : Bool)
  | instanceOf (type : Ty)
  | matches (pattern : Pattern)
  | index (form : IndexForm)
  | arrayLength
  | property (property : Property H)
  /-- A call of the selected method; a name that stands for a method is called without arguments. -/
  | call (selection : Selection H)
  | parameter (index : Nat)
  | contextProperty (owner : Ty) (property : Property H)
  | checked (type : Ty)

structure Resolved (H : Type) where
  type : Ty
  plan : Plan H

namespace Typed

variable {H : Type}

def plan : Typed H → Plan H
  | .literal .. | .logical .. | .not .. | .empty .. | .equality .. | .ternary .. | .elvis .. | .environment .. =>
    .direct
  | .numeric _ _ kind _ _ | .negate _ kind _ | .ordering _ _ kind _ _ => .numeric kind
  | .concat .. => .concat
  | .comparison _ _ s receiverIsLeft _ _ => .comparison s receiverIsLeft
  | .instanceOf _ t _ => .instanceOf t
  | .matches _ p _ => .matches p
  | .index _ form .. => .index form
  | .arrayLength .. => .arrayLength
  | .property _ _ p _ => .property p
  | .call _ _ s _ _ | .staticCall _ s _ | .contextCall _ s _ => .call s
  | .parameter _ position _ => .parameter position
  | .contextProperty _ owner p => .contextProperty owner p
  | .this _ t | .bean _ t => .checked t

def resolved (t : Typed H) : Resolved H := ⟨t.type, t.plan⟩

end Typed

inductive EmissionFault where
  | compile (error : CompileError)
  /-- The node has a plan that does not go with its form. -/
  | unexpectedPlan
  /-- The type of a node is needed that remembers none. -/
  | unresolved (source : String)
  | emptyChain
  | outOfRange (position length : Nat)
  deriving DecidableEq, Repr

/-- Emission of a node with the memories of the nodes below it. -/
abbrev Emission (H : Type) (α : Type) := StateT (Tables H) (ExceptT EmissionFault (StateM (Visited H))) α

/-- Emission of a node with its own memory. -/
abbrev NodeEmission (H : Type) (α : Type) :=
  Memo H → Tables H → Except EmissionFault (α × Tables H) × Memo H

namespace Emission

open Generation

variable {H α : Type}

/-- A part of code generation that visits no node. -/
def ofGenerate (work : Generate H α) : Emission H α := fun tables v =>
  ((work tables).mapError fun fault => .compile (.internal fault), v)

def lift (x : Except InternalFault α) : Emission H α := ofGenerate (liftExcept x)

def below (work : NodeEmission H α) : Emission H α := fun tables v =>
  match v.rest with
  | [] => let (result, m) := work .blank tables; (result, ⟨m :: v.done, []⟩)
  | m :: rest => let (result, m) := work m tables; (result, ⟨m :: v.done, rest⟩)

/-- Emits the nodes below one that keeps what it remembers itself. -/
def inside (work : Emission H α) : NodeEmission H α := fun m tables =>
  let (result, v) := work tables ⟨[], m.children⟩
  (result, .node m.outcome v.all)

def node (line : Nat) (attempt : Attempt H) (emit : Resolved H → Emission H Draft) : NodeEmission H Code :=
  fun m tables => match attempt m with
    | (.error err, m) => (.error (.compile err), m)
    | (.ok t, m) => inside (do lift (finish line (← emit t.resolved))) m tables

/-- The code of a node, with the type that the node remembers then. -/
def typed (e : Expr) (work : NodeEmission H Code) : NodeEmission H (Code × Ty) := fun m tables =>
  match work m tables with
  | (.error fault, m) => (.error fault, m)
  | (.ok (code, tables), m) => match m.type? with
    | some t => (.ok ((code, t), tables), m)
    | none => (.error (.unresolved e.text), m)

def code (e : Expr) (attempt : Attempt H) (emit : Resolved H → Emission H Draft) : Emission H Code :=
  below (node e.span.line attempt emit)

def typedCode (e : Expr) (attempt : Attempt H) (emit : Resolved H → Emission H Draft) : Emission H (Code × Ty) :=
  below (typed e (node e.span.line attempt emit))

def codeAs (c : Catalog H) (line : Nat) (target : Ty) (e : Expr) (attempt : Attempt H)
    (emit : Resolved H → Emission H Draft) : Emission H (Code × Code) := do
  let (code, source) ← typedCode e attempt emit
  let conversion ← lift (convert c line source target)
  return (code, conversion)

/-- The operands that the next node below adds to a chain. -/
def chainOperands (op : LogicalOp) (e : Expr) (attempt : Attempt H) (emit : Resolved H → Emission H Draft) :
    Emission H (List (Code × Bool)) :=
  match e with
  | .logical _ inner _ _ =>
    -- A node of the same operator is passed through: it is neither resolved nor asked for its type.
    if inner = op then do
      match ← below (inside (emit ⟨.boolean, .direct⟩)) with
      | .chain _ operands => return operands
      | _ => throw .emptyChain
    else do
      let (code, t) ← typedCode e attempt emit
      return [(code, t.isBoxed)]
  | _ => do
    let (code, t) ← typedCode e attempt emit
    return [(code, t.isBoxed)]

/-- Whether a node is a sum that is known to join texts. -/
def joinsTexts (e : Expr) (m : Memo H) : Bool :=
  match e, m.outcome.map Typed.plan with
  | .arithmetic _ .add _ _, some .concat => true
  | _, _ => false

def concatOperands (e : Expr) (attempt : Attempt H) (emit : Resolved H → Emission H Draft) :
    Emission H (Nat × Code) :=
  below fun m tables =>
    -- What the node remembers decides, before it is resolved: a sum that does not know yet stands alone.
    if joinsTexts e m then
      inside (do
        match ← emit ⟨.string, .concat⟩ with
        | .concat count code => return (count, code)
        | _ => throw .unexpectedPlan) m tables
    else
      let (result, m) := node e.span.line attempt emit m tables
      (result.map fun (code, tables) => ((1, code), tables), m)

/-- The code of arguments, each followed by its conversion, as long as there are both. -/
def convertEach (line : Nat) : List (NodeEmission H Code) → List Conversion → Emission H Code
  | work :: works, conversion :: conversions => do
    let code ← below work
    let rest ← convertEach line works conversions
    return code ++ Code.ofOps line conversion.code ++ rest
  | _, _ => return []

def arguments (line : Nat) (s : Selection H) (works : List (NodeEmission H Code)) : Emission H Code := do
  let fixed := s.varargsStart.getD works.length
  if works.length < fixed then throw (.outOfRange fixed works.length)
  let before ← convertEach line (works.take fixed) s.conversions
  if s.isVarargs then
    if s.conversions.length < fixed then throw (.outOfRange fixed s.conversions.length)
    let items := works.drop fixed
    let conversions := s.conversions.drop fixed
    if items.length ≠ conversions.length then
      throw (.compile (.internal (.varargsMismatch items.length conversions.length)))
    let after ← convertEach line items conversions
    let i ← lift (countInstr .newArray "array element" items.length)
    return before ++ after ++ [(line, i)]
  else return before

def contextCall (line : Nat) (s : Selection H) (works : List (NodeEmission H Code)) : Emission H Draft := do
  let receiver ← if s.method.isStatic then pure [] else ofGenerate (typeOp line .getBean s.method.owner)
  let args ← arguments line s works
  let invocation ← ofGenerate
    (Generation.call line (if s.method.isStatic then .callStatic else .callMethod) s.method s.arity)
  return .closed (receiver ++ args ++ invocation)

end Emission

open Generation
open Emission hiding convertEach chainOperands concatOperands

variable {H : Type}

mutual
/-- Generates the code of a node from its type and plan. -/
def Expr.emit (ctx : Context H) : Expr → Resolved H → Emission H Draft
  | .literal span v, _ => do
    let code ← ofGenerate (Generation.literal span.line v)
    return .closed code
  | .arithmetic span op l r, ⟨_, plan⟩ =>
    match plan with
    | .numeric kind => do
      let (left, leftType) ← typedCode l (l.resolve ctx) (l.emit ctx)
      let (right, rightType) ← typedCode r (r.resolve ctx) (r.emit ctx)
      let operation ← lift (kindOp span.line op.symbol kind (arithmeticOp? op kind))
      return .closed (left ++ Code.ofOps span.line (leftType.coercionCode kind)
        ++ right ++ Code.ofOps span.line (rightType.coercionCode kind) ++ operation)
    | .concat => do
      let (leftCount, leftCode) ← Emission.concatOperands l (l.resolve ctx) (l.emit ctx)
      let (rightCount, rightCode) ← Emission.concatOperands r (r.resolve ctx) (r.emit ctx)
      return .concat (leftCount + rightCount) (leftCode ++ rightCode)
    | _ => throw .unexpectedPlan
  | .negate span e, ⟨_, plan⟩ =>
    match plan with
    | .numeric kind => do
      let (operand, type) ← typedCode e (e.resolve ctx) (e.emit ctx)
      match negationOp? kind with
      | some op =>
        return .closed (operand ++ Code.ofOps span.line (type.coercionCode kind) ++ Code.ofOps span.line [op])
      | none => throw .unexpectedPlan
    | _ => throw .unexpectedPlan
  | .logical _ op l r, _ => do
    let leftOperands ← Emission.chainOperands op l (l.resolve ctx) (l.emit ctx)
    let rightOperands ← Emission.chainOperands op r (r.resolve ctx) (r.emit ctx)
    return .chain op (leftOperands ++ rightOperands)
  | .not span e, _ => do
    let (operand, type) ← typedCode e (e.resolve ctx) (e.emit ctx)
    return .closed (condition span.line operand type.isBoxed ++ Code.ofOps span.line [.not])
  | .empty span e, _ => do
    let operand ← code e (e.resolve ctx) (e.emit ctx)
    return .closed (operand ++ Code.ofOps span.line [.isEmpty])
  | .equality span negated l r, _ => do
    let left ← code l (l.resolve ctx) (l.emit ctx)
    let right ← code r (r.resolve ctx) (r.emit ctx)
    return .closed (left ++ right ++ Code.ofOps span.line (if negated then [.eqValue, .not] else [.eqValue]))
  | .relational span op l r, ⟨_, plan⟩ =>
    match plan with
    | .numeric kind => do
      let (left, leftType) ← typedCode l (l.resolve ctx) (l.emit ctx)
      let (right, rightType) ← typedCode r (r.resolve ctx) (r.emit ctx)
      let operation ← lift (kindOp span.line op.symbol kind (relationalOp? op kind))
      return .closed (left ++ Code.ofOps span.line (leftType.coercionCode kind)
        ++ right ++ Code.ofOps span.line (rightType.coercionCode kind) ++ operation)
    | .comparison s isLeft => do
      let left ← code l (l.resolve ctx) (l.emit ctx)
      let right ← code r (r.resolve ctx) (r.emit ctx)
      match s.conversions.head? with
      | some conversion => do
        let comparison ← ofGenerate (Generation.call span.line .callMethod s.method 1)
        let relation := if isLeft then op else op.invert
        let operation ← lift (kindOp span.line relation.symbol .int (relationalOp? relation .int))
        return .closed (left ++ right ++ Code.ofOps span.line (if isLeft then [] else [.swap])
          ++ Code.ofOps span.line conversion.code ++ comparison ++ Code.ofOps span.line [.pushZero] ++ operation)
      | none => throw (.compile (.internal .comparisonWithoutArgument))
    | _ => throw .unexpectedPlan
  | .instanceOf span e _, ⟨_, plan⟩ =>
    match plan with
    | .instanceOf t => do
      let operand ← code e (e.resolve ctx) (e.emit ctx)
      let test ← ofGenerate (typeOp span.line .instanceOf t)
      return .closed (operand ++ test)
    | _ => throw .unexpectedPlan
  | .matches span e _, ⟨_, plan⟩ =>
    match plan with
    | .matches p => do
      let operand ← code e (e.resolve ctx) (e.emit ctx)
      let test ← ofGenerate (Generation.pattern span.line p)
      return .closed (operand ++ test)
    | _ => throw .unexpectedPlan
  | .ternary span c t e, ⟨type, _⟩ => do
    let (test, testType) ← typedCode c (c.resolve ctx) (c.emit ctx)
    let (thenCode, thenConversion) ← codeAs ctx.catalog span.line type t (t.resolve ctx) (t.emit ctx)
    let toElse ← lift (jumpOperand ((thenCode ++ thenConversion).size + 4))
    let (elseCode, elseConversion) ← codeAs ctx.catalog span.line type e (e.resolve ctx) (e.emit ctx)
    let otherwise ← lift
      (skipping span.line .jump (Code.ofOps span.line [.pop] ++ elseCode ++ elseConversion))
    return .closed (condition span.line test testType.isBoxed
      ++ [(span.line, .wide .jumpIfFalse toElse), (span.line, .bare .pop)] ++ thenCode ++ thenConversion
      ++ otherwise)
  | .elvis span l r, ⟨type, _⟩ => do
    let (left, leftType) ← typedCode l (l.resolve ctx) (l.emit ctx)
    let (right, rightConversion) ← codeAs ctx.catalog span.line type r (r.resolve ctx) (r.emit ctx)
    let present ← lift (jumpOperand ((right ++ rightConversion).size + 4))
    let leftConversion ← lift (convert ctx.catalog span.line leftType type)
    let otherwise ← lift (skipping span.line .jump leftConversion)
    return .closed (left ++ [(span.line, .wide .jumpIfNotNull present), (span.line, .bare .pop)] ++ right
      ++ rightConversion ++ otherwise)
  | .index span t i, ⟨type, plan⟩ =>
    match plan with
    | .index .array => do
      let target ← code t (t.resolve ctx) (t.emit ctx)
      let (position, positionType) ← typedCode i (i.resolve ctx) (i.emit ctx)
      return .closed (target ++ condition span.line position positionType.isBoxed
        ++ Code.ofOps span.line [.index])
    | .index .list => do
      let target ← code t (t.resolve ctx) (t.emit ctx)
      let (position, positionType) ← typedCode i (i.resolve ctx) (i.emit ctx)
      let checked ← ofGenerate (check span.line type)
      return .closed (target ++ condition span.line position positionType.isBoxed
        ++ Code.ofOps span.line [.index] ++ checked)
    | .index .map => do
      let target ← code t (t.resolve ctx) (t.emit ctx)
      let position ← code i (i.resolve ctx) (i.emit ctx)
      let checked ← ofGenerate (check span.line type)
      return .closed (target ++ position ++ Code.ofOps span.line [.mapGet] ++ checked)
    | _ => throw .unexpectedPlan
  | .property span e _ nullSafe, ⟨_, plan⟩ => do
    let receiver ← code e (e.resolve ctx) (e.emit ctx)
    match plan with
    | .arrayLength => do
      let access ← lift (guarded span.line nullSafe (Code.ofOps span.line [.arrayLength]))
      return .closed (receiver ++ access)
    | .property p => do
      let body ← ofGenerate (Generation.call span.line .callMethod p.getter 0)
      let access ← lift (guarded span.line nullSafe body)
      return .closed (receiver ++ access)
    | _ => throw .unexpectedPlan
  | .call span e _ args nullSafe, ⟨_, plan⟩ =>
    match plan with
    | .call s => do
      let receiver ← code e (e.resolve ctx) (e.emit ctx)
      let passed ← arguments span.line s (Expr.emitters ctx args)
      let body ← if s.method.isStatic then do
          let invocation ← ofGenerate (Generation.call span.line .callStatic s.method s.arity)
          pure (Code.ofOps span.line [.pop] ++ passed ++ invocation)
        else do
          let invocation ← ofGenerate (Generation.call span.line .callMethod s.method s.arity)
          pure (passed ++ invocation)
      let access ← lift (guarded span.line nullSafe body)
      return .closed (receiver ++ access)
    | _ => throw .unexpectedPlan
  | .staticCall span _ _ args, ⟨_, plan⟩ =>
    match plan with
    | .call s => do
      let passed ← arguments span.line s (Expr.emitters ctx args)
      let invocation ← ofGenerate (Generation.call span.line .callStatic s.method s.arity)
      return .closed (passed ++ invocation)
    | _ => throw .unexpectedPlan
  | .name span _, ⟨type, plan⟩ =>
    match plan with
    | .parameter position => do
      let i ← lift (countInstr .getArgument "argument" position)
      let checked ← ofGenerate (check span.line type)
      return .closed ((span.line, i) :: checked)
    | .contextProperty owner p => do
      let bean ← ofGenerate (typeOp span.line .getBean owner)
      let invocation ← ofGenerate (Generation.call span.line .callMethod p.getter 0)
      return .closed (bean ++ invocation)
    | .call s => Emission.contextCall span.line s []
    | _ => throw .unexpectedPlan
  | .contextCall span _ args, ⟨_, plan⟩ =>
    match plan with
    | .call s => Emission.contextCall span.line s (Expr.emitters ctx args)
    | _ => throw .unexpectedPlan
  | .this span, ⟨_, plan⟩ =>
    match plan with
    | .checked t => do
      let checked ← ofGenerate (check span.line t)
      return .closed (Code.ofOps span.line [.getThis] ++ checked)
    | _ => throw .unexpectedPlan
  | .bean span _, ⟨_, plan⟩ =>
    match plan with
    | .checked t => do
      let bean ← ofGenerate (typeOp span.line .getBean t)
      return .closed bean
    | _ => throw .unexpectedPlan
  | .environment span k, _ => do
    let key ← code k (k.resolve ctx) (k.emit ctx)
    return .closed (key ++ Code.ofOps span.line [.getEnv])

def Expr.emitters (ctx : Context H) : List Expr → List (NodeEmission H Code)
  | [] => []
  | e :: es => node e.span.line (e.resolve ctx) (e.emit ctx) :: Expr.emitters ctx es
end

namespace Expr

/-- Generates the code of a node, which is resolved first unless it remembers its outcome. -/
def emitCode (ctx : Context H) (e : Expr) : NodeEmission H Code := node e.span.line (e.resolve ctx) (e.emit ctx)

def emitProgram (ctx : Context H) (e : Expr) (m : Memo H) : Except EmissionFault (Program H) × Memo H :=
  match e.resolve ctx m with
  | (.error err, m) => (.error (.compile err), m)
  | (.ok t, m) => match e.emitCode ctx m .empty with
    | (.error fault, m) => (.error fault, m)
    | (.ok (code, tables), m) =>
      let chunk := Code.chunk (code ++ Code.ofOps e.span.line [.return])
      (.ok { chunk, tables, type := t.type, catalog := ctx.catalog }, m)

end Expr
end TypedExpr
