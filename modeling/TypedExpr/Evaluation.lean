import TypedExpr.Environment
import TypedExpr.Operation.Access
import TypedExpr.Operation.Conversion
import TypedExpr.Typed
import TypedExpr.Value.Order
import TypedExpr.Value.Text
/-!
# Evaluation

The value of a resolved expression, computed on the tree without any code: operands from left to right,
logical operators and conditionals only as far as needed.
-/

namespace TypedExpr

variable {H : Type} [HostObject H]

omit [HostObject H] in
def Literal.value : Literal → Value H
  | .bool b => .bool b
  | .int n => .int n
  | .long n => .long n
  | .float x => .float x
  | .double x => .double x
  | .string s => .string s
  | .null => .null

namespace Evaluation

open Operation

omit [HostObject H] in
def condition (t : Ty) (v : Value H) : Except RunError (Value H) := if t.isBoxed then unboxed v else .ok v

/-- Whether the left operand of a logical operator decides alone. -/
def decides (op : LogicalOp) (v : Value H) : Except RunError Bool :=
  match op with
  | .and => (asBool v).map not
  | .or => asBool v

/-- A value of the host, checked against its static type; every value is an `Object`. -/
def checked (c : Catalog H) (t : Ty) (v : Value H) : Except RunError (Value H) :=
  if t.isObject then .ok v else (checkCast c t v).map fun _ => v

/-- A branch of a conditional as a value of the whole; where no conversion exists there is no code either. -/
def branch (c : Catalog H) (source target : Ty) (v : Value H) : Except RunError (Value H) :=
  match c.conversion? source target with
  | some conversion => convert conversion v
  | none => .ok v

def bean (env : Environment H) (t : Ty) : Except RunError (Value H) :=
  match env.bean t with
  | some v => .ok v
  | none => .error (.noSuchBean t.text)

omit [HostObject H] in
/-- The converted arguments as the method takes them; trailing ones may be collected in an array. -/
def collect (s : Selection H) (values : List (Value H)) : List (Value H) :=
  match s.varargsStart with
  | none => values
  | some start => values.take start ++ [.array (values.drop start)]

/-- The result of `compareTo` in a relation to zero. -/
def relation (op : RelationalOp) (result : Value H) : Except RunError (Value H) := order op .int result (.int 0)

end Evaluation

open Evaluation Operation

mutual
def Typed.eval (c : Catalog H) (env : Environment H) : Typed H → Except RunError (Value H)
  | .literal _ v => .ok v.value
  | .numeric _ op kind l r => do
    let a ← coerce l.type kind (← l.eval c env)
    let b ← coerce r.type kind (← r.eval c env)
    Operation.arithmetic op kind a b
  | .concat _ l r => do
    let a ← l.eval c env
    let b ← r.eval c env
    return .string (a.text ++ b.text)
  | .negate _ kind e => do
    let a ← coerce e.type kind (← e.eval c env)
    Operation.negate kind a
  | .logical _ op l r => do
    let a ← Evaluation.condition l.type (← l.eval c env)
    if ← decides op a then return a
    else Evaluation.condition r.type (← r.eval c env)
  | .not _ e => do
    let a ← Evaluation.condition e.type (← e.eval c env)
    return .bool (!(← asBool a))
  | .empty _ e => do return .bool (Operation.isEmpty (← e.eval c env))
  | .equality _ negated l r => do
    let a ← l.eval c env
    let b ← r.eval c env
    return .bool (a.equals b != negated)
  | .ordering _ op kind l r => do
    let a ← coerce l.type kind (← l.eval c env)
    let b ← coerce r.type kind (← r.eval c env)
    Operation.order op kind a b
  | .comparison _ op s isLeft l r => do
    let a ← l.eval c env
    let b ← r.eval c env
    let (receiver, argument) := if isLeft then (a, b) else (b, a)
    let argument ← convert (s.conversions.headD .identity) argument
    Evaluation.relation (if isLeft then op else op.invert) (← invoke s.method receiver [argument])
  | .instanceOf _ t e => do return .bool (c.isInstance (← e.eval c env) t)
  | .matches _ p e => do return .bool (← matchesPattern p (← e.eval c env))
  | .ternary _ t cond yes no => do
    let a ← Evaluation.condition cond.type (← cond.eval c env)
    if ← asBool a then branch c yes.type t (← yes.eval c env)
    else branch c no.type t (← no.eval c env)
  | .elvis _ t l r => do
    let a ← l.eval c env
    if a.isNull then branch c r.type t (← r.eval c env) else branch c l.type t a
  | .index _ form t e i => do
    let target ← e.eval c env
    let position ← i.eval c env
    match form with
    | .array => item target (← asInt (← Evaluation.condition i.type position))
    | .list => checked c t (← item target (← asInt (← Evaluation.condition i.type position)))
    | .map => checked c t (← entry target position)
  | .arrayLength _ nullSafe e => do
    let receiver ← e.eval c env
    if nullSafe && receiver.isNull then return .null else Operation.arrayLength receiver
  | .property _ nullSafe p e => do
    let receiver ← e.eval c env
    if nullSafe && receiver.isNull then return .null else invoke p.getter receiver []
  | .call _ nullSafe s e args => do
    let receiver ← e.eval c env
    if nullSafe && receiver.isNull then return .null
    else do
      let values ← Typed.evalArguments c env args s.conversions
      if s.method.isStatic then s.method.native .null (collect s values)
      else invoke s.method receiver (collect s values)
  | .staticCall _ s args => do
    let values ← Typed.evalArguments c env args s.conversions
    s.method.native .null (collect s values)
  | .parameter _ position t =>
    match env.argument position with
    | some v => checked c t v
    | none => .error (.missingArgument position)
  | .contextProperty _ owner p => do invoke p.getter (← Evaluation.bean env owner) []
  | .contextCall _ s args =>
    if s.method.isStatic then do
      let values ← Typed.evalArguments c env args s.conversions
      s.method.native .null (collect s values)
    else do
      let receiver ← Evaluation.bean env s.method.owner
      let values ← Typed.evalArguments c env args s.conversions
      invoke s.method receiver (collect s values)
  | .this _ t =>
    match env.this with
    | some v => checked c t v
    | none => .error .missingThis
  | .bean _ t => Evaluation.bean env t
  | .environment _ k => do
    let key ← asString "environment key" (← k.eval c env)
    return (env.property key).elim .null .string

def Typed.evalArguments (c : Catalog H) (env : Environment H) :
    List (Typed H) → List Conversion → Except RunError (List (Value H))
  | t :: ts, conversion :: conversions => do
    let v ← convert conversion (← t.eval c env)
    let vs ← Typed.evalArguments c env ts conversions
    return v :: vs
  | _, _ => .ok []
end

end TypedExpr
