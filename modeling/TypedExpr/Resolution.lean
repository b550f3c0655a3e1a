import TypedExpr.Typed
/-!
# Resolution

Settles the types of an expression and the methods it calls. Every node remembers its first success; a
failed node remembers nothing, but those below it that were settled before the failure do.
-/

namespace TypedExpr

/-- What the nodes of an expression remember: the outcome of this node, and the memories of the nodes below
it. Nodes that were never visited may be missing. -/
inductive Memo (H : Type) where
  | node (outcome : Option (Typed H)) (children : List (Memo H))

namespace Memo

variable {H : Type}

def blank : Memo H := .node none []

def outcome : Memo H → Option (Typed H)
  | .node t _ => t

def children : Memo H → List (Memo H)
  | .node _ cs => cs

def type? (m : Memo H) : Option Ty := m.outcome.map Typed.type

end Memo

/-- What an attempt yields, and what is remembered after it. -/
abbrev Attempt (H : Type) := Memo H → Except CompileError (Typed H) × Memo H

/-- The memories of the nodes below one: of those that were visited, the latest first, and of the others. -/
structure Visited (H : Type) where
  done : List (Memo H)
  rest : List (Memo H)

def Visited.all {H : Type} (v : Visited H) : List (Memo H) := v.done.reverseAux v.rest

/-- Work on one node that visits the nodes below it from left to right. -/
abbrev Visit (H : Type) (α : Type) := ExceptT CompileError (StateM (Visited H)) α

namespace Resolution

variable {H : Type}

def visit (attempt : Attempt H) : Visit H (Typed H) := fun v =>
  match v.rest with
  | [] => let (result, m) := attempt .blank; (result, ⟨m :: v.done, []⟩)
  | m :: rest => let (result, m) := attempt m; (result, ⟨m :: v.done, rest⟩)

/-- Visits the next node below, which has to yield a value. -/
def visitValue (e : Expr) (attempt : Attempt H) : Visit H (Typed H) := do
  let t ← visit attempt
  if t.type.isVoid then throw (.mismatch (.noValue e.text) e.span) else return t

/-- Works on a node unless it remembers its outcome. -/
def settle (work : Visit H (Typed H)) : Attempt H := fun m =>
  match m.outcome with
  | some t => (.ok t, m)
  | none =>
    let (result, visited) := work.run ⟨[], m.children⟩
    (result, .node result.toOption visited.all)

def mismatch {α : Type} (span : Span) (cause : Mismatch) : Visit H α := throw (.mismatch cause span)

/-- The node for an arithmetic operator; an operand that is a string makes the sum a text. -/
def arithmetic (span : Span) (op : ArithmeticOp) (left right : Typed H) : Except CompileError (Typed H) :=
  if op = .add && (left.type.isStringLike || right.type.isStringLike) then .ok (.concat span.line left right)
  else match left.type.commonKind? right.type with
    | none => .error (.mismatch (.binaryOperator op.symbol left.type right.type) span)
    | some kind =>
      let kind := if op = .pow then (if kind.isIntegral then .long else .double) else kind
      .ok (.numeric span.line op kind left right)

/-- The type as which values of `t` are compared, if `other` is accepted there. -/
def comparisonTarget? (c : Catalog H) (t other : Ty) : Option Ty :=
  match c.findSupertype? t.box (.ofName "Comparable") with
  | none => none
  | some comparable =>
    let target := comparable.args.head?.getD .object
    if c.isAssignable other target then some target else none

def receiverIsLeft (c : Catalog H) (span : Span) (op : RelationalOp) (left right : Ty) :
    Except CompileError Bool :=
  match comparisonTarget? c left right, comparisonTarget? c right left with
  | some a, some b =>
    if a = b then .ok true else .error (.mismatch (.ambiguousOrdering left right a b) span)
  | some _, none => .ok true
  | none, some _ => .ok false
  | none, none => .error (.mismatch (.binaryOperator op.symbol left right) span)

def relational (c : Catalog H) (span : Span) (op : RelationalOp) (left right : Typed H) :
    Except CompileError (Typed H) :=
  match left.type.commonKind? right.type with
  | some kind => .ok (.ordering span.line op kind left right)
  | none => do
    let isLeft ← receiverIsLeft c span op left.type right.type
    let (receiver, argument) := if isLeft then (left.type, right.type) else (right.type, left.type)
    let selection ← c.selectMethod "compareTo" (c.methods receiver.box "compareTo") [argument] span
    if selection.returns.numericKind? ≠ some .int || selection.isVarargs then
      .error (.mismatch (.unusableOrdering receiver selection.method.signature) span)
    else .ok (.comparison span.line op selection isLeft left right)

/-- The type in which two branches meet. -/
def commonType (c : Catalog H) (a b : Ty) : Ty :=
  if a = b then a
  else match a.commonKind? b, a.isPrimitive || b.isPrimitive with
    | some kind, true => .primitive kind
    | _, _ =>
      if a.isNull then b.box
      else if b.isNull then a.box
      else if c.isAssignable b a then a
      else if c.isAssignable a b then b
      else .object

/-- The argument of a generic type in the hierarchy of another. -/
def typeArgument (c : Catalog H) (t : Ty) (generic : String) (position : Nat) : Ty :=
  ((c.findSupertype? t (.ofName generic)).bind fun s => s.args[position]?).getD .object

def index (c : Catalog H) (span : Span) (target position : Typed H) : Except CompileError (Typed H) :=
  let isInt := position.type.numericKind? = some .int
  let indexError : Except CompileError (Typed H) :=
    .error (.mismatch (.indexType target.type position.type) span)
  match target.type.component? with
  | some component => if isInt then .ok (.index span.line .array component target position) else indexError
  | none =>
    if c.isSubtype target.type (.ofName "List") then
      if isInt then .ok (.index span.line .list (typeArgument c target.type "List" 0) target position)
      else indexError
    else if c.isSubtype target.type (.ofName "Map") then
      if position.type.isStringLike then
        .ok (.index span.line .map (typeArgument c target.type "Map" 1) target position)
      else .error (.mismatch (.keyType target.type position.type) span)
    else .error (.mismatch (.notIndexable target.type) span)

def property (c : Catalog H) (span : Span) (receiver : Typed H) (name : String) (nullSafe : Bool) :
    Except CompileError (Typed H) :=
  if receiver.type.isArray && name = "length" then .ok (.arrayLength span.line nullSafe receiver)
  else
    let qualified := receiver.type.text ++ "." ++ name
    match c.properties receiver.type.box name with
    | [] => .error (.unknownName qualified span)
    | [p] => .ok (.property span.line nullSafe p receiver)
    | several =>
      .error (.ambiguousName qualified (", ".intercalate (several.map (·.getter.qualifiedSignature))) span)

def name (ctx : Context H) (span : Span) (name : String) : Except CompileError (Typed H) :=
  match ctx.scope.elements name with
  | [] => .error (.unknownName name span)
  | [.parameter _ index type] => .ok (.parameter span.line index type)
  | [.property owner p] => .ok (.contextProperty span.line owner p)
  | [.method m] => (ctx.catalog.selectMethod name [m] [] span).map fun s => .contextCall span.line s []
  | several => .error (.ambiguousName name (", ".intercalate (several.map (·.description))) span)

def this (ctx : Context H) (span : Span) : Except CompileError (Typed H) :=
  match ctx.scope.thisType with
  | some t => .ok (.this span.line t)
  | none => .error (.unresolvedThis span)

def bean (ctx : Context H) (span : Span) (typeName : String) : Except CompileError (Typed H) := do
  let t ← ctx.lookupType typeName span
  if t.isPrimitive then .error (.mismatch (.primitiveBean t) span) else .ok (.bean span.line t)

def instanceOf (ctx : Context H) (span : Span) (operand : Typed H) (typeName : String) :
    Except CompileError (Typed H) := do
  let t ← ctx.lookupType typeName span
  if !t.isReference || t.isNull then .error (.mismatch (.instanceType t) span)
  else .ok (.instanceOf span.line t operand)

def «matches» (ctx : Context H) (span : Span) (operand : Typed H) (pattern : String) :
    Except CompileError (Typed H) :=
  if !operand.type.isStringLike then .error (.mismatch (.matchOperand operand.type) span)
  else match Pattern.compileWhole? ctx.options.patternSizeLimit pattern with
    | some p => .ok (.matches span.line p operand)
    | none => .error (.mismatch (.invalidPattern pattern) span)

def booleanOperand (span : Span) (symbol : String) (t : Typed H) : Except CompileError Unit :=
  if t.type.isBoolean then .ok () else .error (.mismatch (.booleanOperand symbol t.type) span)

/-- The number of arguments of a call is limited. -/
def argumentLimit (ctx : Context H) (span : Span) (args : List Expr) : Except CompileError Unit :=
  let limit := ctx.options.maxArguments
  if limit < args.length then .error (.mismatch (.argumentLimit args.length limit) span) else .ok ()

end Resolution

open Resolution (visitValue settle mismatch booleanOperand argumentLimit commonType)

variable {H : Type}

mutual
/-- Resolves an expression with what its nodes remember. -/
def Expr.resolve (ctx : Context H) : Expr → Attempt H
  | .literal span v => settle (pure (.literal span.line v))
  | .arithmetic span op l r => settle do
    let left ← visitValue l (l.resolve ctx)
    let right ← visitValue r (r.resolve ctx)
    liftExcept (Resolution.arithmetic span op left right)
  | .negate span e => settle do
    let operand ← visitValue e (e.resolve ctx)
    match operand.type.numericKind? with
    | some kind => return .negate span.line kind operand
    | none => mismatch span (.negation operand.type)
  | .logical span op l r => settle do
    let left ← visitValue l (l.resolve ctx)
    liftExcept (booleanOperand span "&&/||" left)
    let right ← visitValue r (r.resolve ctx)
    liftExcept (booleanOperand span "&&/||" right)
    return .logical span.line op left right
  | .not span e => settle do
    let operand ← visitValue e (e.resolve ctx)
    liftExcept (booleanOperand span "!" operand)
    return .not span.line operand
  | .empty span e => settle do
    let operand ← visitValue e (e.resolve ctx)
    return .empty span.line operand
  | .equality span negated l r => settle do
    let left ← visitValue l (l.resolve ctx)
    let right ← visitValue r (r.resolve ctx)
    return .equality span.line negated left right
  | .relational span op l r => settle do
    let left ← visitValue l (l.resolve ctx)
    let right ← visitValue r (r.resolve ctx)
    liftExcept (Resolution.relational ctx.catalog span op left right)
  | .instanceOf span e typeName => settle do
    let operand ← visitValue e (e.resolve ctx)
    liftExcept (Resolution.instanceOf ctx span operand typeName)
  | .matches span e pattern => settle do
    let operand ← visitValue e (e.resolve ctx)
    liftExcept (Resolution.matches ctx span operand pattern)
  | .ternary span c t e => settle do
    let condition ← visitValue c (c.resolve ctx)
    if !condition.type.isBoolean then mismatch span (.condition condition.type)
    let thenBranch ← visitValue t (t.resolve ctx)
    let elseBranch ← visitValue e (e.resolve ctx)
    return .ternary span.line (commonType ctx.catalog thenBranch.type elseBranch.type) condition thenBranch
      elseBranch
  | .elvis span l r => settle do
    let left ← visitValue l (l.resolve ctx)
    if !left.type.isReference then mismatch span (.elvisOperand left.type)
    let right ← visitValue r (r.resolve ctx)
    return .elvis span.line (commonType ctx.catalog left.type right.type) left right
  | .index span t i => settle do
    let target ← visitValue t (t.resolve ctx)
    let position ← visitValue i (i.resolve ctx)
    liftExcept (Resolution.index ctx.catalog span target position)
  | .property span e member nullSafe => settle do
    let receiver ← visitValue e (e.resolve ctx)
    liftExcept (Resolution.property ctx.catalog span receiver member nullSafe)
  | .call span e member args nullSafe => settle do
    let receiver ← visitValue e (e.resolve ctx)
    liftExcept (argumentLimit ctx span args)
    let arguments ← Expr.resolveArguments ctx args
    let selection ← liftExcept (ctx.catalog.selectMethod member (ctx.catalog.methods receiver.type.box member)
      (arguments.map Typed.type) span)
    return .call span.line nullSafe selection receiver arguments
  | .staticCall span typeName member args => settle do
    let owner ← liftExcept (ctx.lookupType typeName span)
    liftExcept (argumentLimit ctx span args)
    let arguments ← Expr.resolveArguments ctx args
    let selection ← liftExcept (ctx.catalog.selectMethod (typeName ++ "." ++ member)
      ((ctx.catalog.methods owner.box member).filter (·.isStatic)) (arguments.map Typed.type) span)
    return .staticCall span.line selection arguments
  | .name span n => settle (liftExcept (Resolution.name ctx span n))
  | .contextCall span member args => settle do
    liftExcept (argumentLimit ctx span args)
    let arguments ← Expr.resolveArguments ctx args
    let selection ← liftExcept (ctx.catalog.selectMethod member (ctx.scope.methods member)
      (arguments.map Typed.type) span)
    return .contextCall span.line selection arguments
  | .this span => settle (liftExcept (Resolution.this ctx span))
  | .bean span typeName => settle (liftExcept (Resolution.bean ctx span typeName))
  | .environment span k => settle do
    let key ← visitValue k (k.resolve ctx)
    if key.type.isStringLike then return .environment span.line key
    else mismatch span (.environmentKey key.type)

def Expr.resolveArguments (ctx : Context H) : List Expr → Visit H (List (Typed H))
  | [] => pure []
  | e :: es => do
    let first ← visitValue e (e.resolve ctx)
    let rest ← Expr.resolveArguments ctx es
    return first :: rest
end

end TypedExpr
