import TypedExpr.Number.Floating
import TypedExpr.Ty
/-!
# Values

The values that expressions compute with. A primitive and its box share one representation. Values that
the language does not know come from the host as objects of a type `H`.
-/

namespace TypedExpr

open Number

/-- What the language asks of the objects of a host. -/
class HostObject (H : Type) where
  typeOf : H → Ty
  text : H → String
  /-- The text in a listing of a value's structure. -/
  inspect : H → String
  equals : H → H → Bool
  compare? : H → H → Option Ordering

/-- A runtime value. -/
inductive Value (H : Type) where
  | null
  | bool (b : Bool)
  | int (n : Int32)
  | long (n : Int64)
  | float (x : Single)
  | double (x : Double)
  | string (s : String)
  | array (items : List (Value H))
  | list (items : List (Value H))
  | map (entries : List (String × Value H))
  | object (o : H)
  deriving Inhabited

namespace Value

variable {H : Type}

/-- Replaces the entry of a key, or adds one at the end. -/
def insertEntry (key : String) (value : Value H) : List (String × Value H) → List (String × Value H)
  | [] => [(key, value)]
  | (k, v) :: rest => if k = key then (key, value) :: rest else (k, v) :: insertEntry key value rest

/-- The map built by inserting entries in order; a later entry replaces an earlier one of its key. -/
def ofEntries (entries : List (String × Value H)) : Value H :=
  .map (entries.foldl (fun acc (k, v) => insertEntry k v acc) [])

def isNull : Value H → Bool
  | .null => true
  | _ => false

def asBool? : Value H → Option Bool
  | .bool b => some b
  | _ => none

def asInt? : Value H → Option Int32
  | .int n => some n
  | _ => none

def asLong? : Value H → Option Int64
  | .long n => some n
  | _ => none

def asFloat? : Value H → Option Single
  | .float x => some x
  | _ => none

def asDouble? : Value H → Option Double
  | .double x => some x
  | _ => none

def asString? : Value H → Option String
  | .string s => some s
  | _ => none

/-- The items of an array or a list. -/
def items? : Value H → Option (List (Value H))
  | .array items | .list items => some items
  | _ => none

def entries? : Value H → Option (List (String × Value H))
  | .map entries => some entries
  | _ => none

/-- The primitive kind of the value. -/
def kind? : Value H → Option Kind
  | .bool _ => some .bool
  | .int _ => some .int
  | .long _ => some .long
  | .float _ => some .float
  | .double _ => some .double
  | _ => none

/-- The type the value shows at run time: boxes for primitives, collections without arguments. -/
def runtimeType [HostObject H] : Value H → Ty
  | .null => .null
  | .bool _ => .boxed .bool
  | .int _ => .boxed .int
  | .long _ => .boxed .long
  | .float _ => .boxed .float
  | .double _ => .boxed .double
  | .string _ => .string
  | .array _ => .array .object
  | .list _ => .ofName "List"
  | .map _ => .ofName "Map"
  | .object o => HostObject.typeOf o

def typeName [HostObject H] (v : Value H) : String := v.runtimeType.text

end Value
end TypedExpr
