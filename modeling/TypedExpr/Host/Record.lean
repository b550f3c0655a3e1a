import TypedExpr.Value.Order
import TypedExpr.Value.Text
/-!
# Records

Host objects with named fields. A plain record is equal only to itself and has no order; a keyed record is
equal to those with an equal key and is ordered by its key.
-/

namespace TypedExpr

/-- A host object: its type, its identity, its fields and possibly a key. -/
inductive Record where
  | mk (type : Ty) (identity : Nat) (fields : List (String × Value Record)) (key : Option (Value Record))

namespace Record

def type : Record → Ty
  | .mk t _ _ _ => t

def identity : Record → Nat
  | .mk _ i _ _ => i

def fields : Record → List (String × Value Record)
  | .mk _ _ fs _ => fs

def key? : Record → Option (Value Record)
  | .mk _ _ _ k => k

def field? (r : Record) (name : String) : Option (Value Record) := r.fields.lookup name

mutual
/-- How deep keys of records stand in each other. -/
def depth : Record → Nat
  | .mk _ _ _ none => 0
  | .mk _ _ _ (some k) => depthValue k + 1

def depthValue : Value Record → Nat
  | .array items => depthItems items
  | .list items => depthItems items
  | .map entries => depthEntries entries
  | .object r => depth r + 1
  | _ => 0

def depthItems : List (Value Record) → Nat
  | [] => 0
  | v :: vs => max (depthValue v) (depthItems vs)

def depthEntries : List (String × Value Record) → Nat
  | [] => 0
  | (_, v) :: rest => max (depthValue v) (depthEntries rest)
end

/-- The behaviour of records whose keys hold records up to a depth. -/
@[reducible]
def behaviourUpTo : Nat → HostObject Record
  | 0 =>
    { typeOf := type, text := fun r => "<" ++ r.type.text ++ ">", inspect := fun r => "<" ++ r.type.text ++ ">",
      equals := fun _ _ => false, compare? := fun _ _ => none }
  | depth + 1 =>
    let inner := behaviourUpTo depth
    { typeOf := type
      text := fun r => match r.key? with
        | none => "<" ++ r.type.text ++ ">"
        | some k => r.type.text ++ "#" ++ @Value.text Record inner k
      inspect := fun r => match r.key? with
        | none => "<" ++ r.type.text ++ ">"
        | some _ => "<" ++ r.type.text ++ " keyed>"
      equals := fun a b => match a.key?, b.key? with
        | none, none => a.identity == b.identity
        | some k, some l => @Value.equals Record inner k l
        | _, _ => false
      compare? := fun a b => match a.key?, b.key? with
        | some k, some l => @Value.compare? Record inner k l
        | _, _ => none }

instance : HostObject Record where
  typeOf := type
  text r := (behaviourUpTo (r.depth + 1)).text r
  inspect r := (behaviourUpTo (r.depth + 1)).inspect r
  equals a b := (behaviourUpTo (a.depth + 1)).equals a b
  compare? a b := (behaviourUpTo (a.depth + 1)).compare? a b

end Record
end TypedExpr
