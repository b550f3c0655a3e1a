import TypedExpr.Catalog
import TypedExpr.Operation.Arithmetic
import TypedExpr.Pattern
/-!
# Access and tests

What the operations on collections, texts, types and methods do with their operands.
-/

namespace TypedExpr.Operation

variable {H : Type} [HostObject H]

def item (target : Value H) (index : Int32) : Except RunError (Value H) :=
  match target.items? with
  | some items =>
    match (if 0 ≤ index then items[index.toInt.toNat]? else none) with
    | some v => .ok v
    | none => .error (.indexOutOfBounds index.toInt items.length)
  | none =>
    if target.isNull then .error (.nullValue "indexed collection")
    else .error (.invalidCast "List" target.typeName)

def entry (target key : Value H) : Except RunError (Value H) :=
  match target with
  | .map entries => .ok ((key.asString?.bind fun k => entries.lookup k).getD .null)
  | .null => .error (.nullValue "indexed map")
  | other => .error (.invalidCast "Map" other.typeName)

def arrayLength : Value H → Except RunError (Value H)
  | .array items => .ok (.int (.ofNat items.length))
  | .null => .error (.nullValue "array")
  | other => .error (.invalidCast "array" other.typeName)

omit [HostObject H] in
/-- Whether a value is null, or a text or a collection without content. -/
def isEmpty : Value H → Bool
  | .null => true
  | .string s => s.isEmpty
  | .array items | .list items => items.isEmpty
  | .map entries => entries.isEmpty
  | _ => false

/-- Whether a value matches a pattern; null matches none. -/
def matchesPattern (p : Pattern) : Value H → Except RunError Bool
  | .null => .ok false
  | v => (asString "String" v).map p.isMatch

/-- Lets a value pass that belongs to the type, and null where the type has it. -/
def checkCast (c : Catalog H) (t : Ty) (v : Value H) : Except RunError Unit :=
  if v.isNull then
    if t.isPrimitive then .error (.nullValue ("value of type " ++ t.text)) else .ok ()
  else if c.isInstance v t then .ok ()
  else .error (.invalidCast t.text v.typeName)

def invoke (m : Method H) (receiver : Value H) (args : List (Value H)) : Except RunError (Value H) :=
  if receiver.isNull then .error (.nullValue ("receiver of " ++ m.signature)) else m.native receiver args

end TypedExpr.Operation
