import TypedExpr.Declaration
import TypedExpr.Text.Blank
import TypedExpr.Text.Case
/-!
# The type catalog

The declared types of a host, in the order of their registration. A type is registered after its
supertypes, so the supertypes of a type are found in finitely many rounds.
-/

namespace TypedExpr

/-- The registered types, the earliest first. -/
structure Catalog (H : Type) where
  types : List (TypeDef H) := []

namespace Catalog

variable {H : Type}

def empty : Catalog H := {}

def find? (c : Catalog H) (d : Digest) : Option (TypeDef H) := c.types.find? (·.digest == d)

def get? (c : Catalog H) (name : String) : Option (TypeDef H) := c.types.find? (·.name == name)

def contains (c : Catalog H) (name : String) : Bool := (c.get? name).isSome

def size (c : Catalog H) : Nat := c.types.length

def knows (c : Catalog H) (t : Ty) : Bool := ((t.digest?).bind c.find?).isSome

/-- Registers a type whose supertypes are registered and whose methods are its own. -/
def addType (c : Catalog H) (d : TypeDef H) : Except RegistrationError (Catalog H) :=
  if (c.find? d.digest).isSome then .error (.duplicateType d.name)
  else match d.supertypes.find? fun s => !c.knows s with
    | some missing => .error (.typeNotFound missing.text)
    | none => match d.methods.find? fun m => m.owner.digest? != some d.digest with
      | some m => .error (.foreignMethod m.signature m.owner d.name)
      | none => .ok ⟨c.types ++ [d]⟩

def updateFirst (digest : Digest) (f : TypeDef H → TypeDef H) : List (TypeDef H) → List (TypeDef H)
  | [] => []
  | d :: rest => if d.digest == digest then f d :: rest else d :: updateFirst digest f rest

/-- Registers a method on its type, unless the type has one of the same name and parameters. -/
def addMethod (c : Catalog H) (m : Method H) : Except RegistrationError (Catalog H) :=
  match m.owner.digest? with
  | none => .error (.typeNotFound m.owner.text)
  | some digest => match c.find? digest with
    | none => .error (.typeNotFound m.owner.text)
    | some owner =>
      if owner.methods.any fun other => other.name == m.name && decide (other.parameters = m.parameters) then
        .error (.duplicateMethod owner.name m.signature)
      else .ok ⟨updateFirst digest (fun d => { d with methods := d.methods ++ [m] }) c.types⟩

def simpleType? (c : Catalog H) (name : String) : Option Ty :=
  match Kind.ofName? name with
  | some k => some (.primitive k)
  | none => match Kind.ofBoxName? name with
    | some k => some (.boxed k)
    | none => if c.contains name then some (.ofName name) else none

/-- Reads a type name from the end: blanks and pairs of brackets, then a simple name. The characters are
given in reverse order. -/
def readReversed (c : Catalog H) : List Char → Option Ty
  | ']' :: '[' :: rest => (readReversed c rest).map .array
  | ch :: rest =>
    if Text.isBlank ch then readReversed c rest
    else c.simpleType? (Text.trim (String.ofList (ch :: rest).reverse))
  | [] => c.simpleType? ""

/-- The type a name stands for: a keyword, a box, a declared type without arguments, or an array of these. -/
def lookup? (c : Catalog H) (name : String) : Option Ty := c.readReversed name.toList.reverse

/-- The direct supertypes. Every reference type but `Object` and the type of `null` has at least `Object`. -/
def supertypes (c : Catalog H) (t : Ty) : List Ty :=
  if t.isObject || !t.isReference || t.isNull then []
  else match (t.digest?.bind c.find?).map fun d => d.supertypes.map (·.substitute t.args) with
    | some (s :: rest) => s :: rest
    | _ => [.object]

def appendNew (seen : List Ty) : List Ty → List Ty
  | [] => seen
  | t :: rest => if t ∈ seen then appendNew seen rest else appendNew (seen ++ [t]) rest

/-- Extends `seen` with the supertypes of the last level, level by level. -/
def closure (c : Catalog H) : (rounds : Nat) → (seen level : List Ty) → List Ty
  | 0, seen, _ => seen
  | rounds + 1, seen, level =>
    let next := appendNew seen (level.flatMap c.supertypes)
    let added := next.drop seen.length
    if added.isEmpty then seen else closure c rounds next added

/-- The type and all its supertypes, the nearest first. A supertype is registered earlier than the types
below it, so there are no more levels than registered types, besides the type itself and `Object`. -/
def hierarchy (c : Catalog H) (t : Ty) : List Ty := c.closure (c.size + 2) [t] [t]

def findSupertype? (c : Catalog H) (t : Ty) (digest : Digest) : Option Ty :=
  (c.hierarchy t).find? fun s => s.digest? == some digest && !s.isPrimitive

/-- Whether a type stands without arguments for a generic declaration. -/
def isRaw (c : Catalog H) (t : Ty) : Bool :=
  t.args.isEmpty && match t.digest?.bind c.find? with
    | some d => !d.parameters.isEmpty
    | none => false

/-- Subtyping of types that are neither arrays nor equal nor settled by `Object` and `null`: the supertype
is found in the hierarchy with the same arguments, or one side has none. -/
def isDeclaredSubtype (c : Catalog H) (sub sup : Ty) : Bool :=
  match sup.digest? with
  | none => false
  | some digest => match c.findSupertype? sub digest with
    | none => false
    | some found => c.isRaw sub || sup.args.isEmpty || found.args.isEmpty || decide (found.args = sup.args)

def isSubtype (c : Catalog H) : (sub sup : Ty) → Bool
  | .array a, .array b => decide (a = b) || (a.isReference && c.isSubtype a b)
  | sub, sup =>
    if sub = sup then true
    else if !sub.isReference || !sup.isReference then false
    else if sup.isObject || sub.isNull then true
    else if sub.isArray || sup.isArray then false
    else c.isDeclaredSubtype sub sup

def appendVisible (found : List (Method H)) : List (Method H) → List (Method H)
  | [] => found
  | m :: rest =>
    if found.any fun other => decide (other.parameters = m.parameters) then appendVisible found rest
    else appendVisible (found ++ [m]) rest

def declaredMethods (c : Catalog H) (t : Ty) (name : String) : List (Method H) :=
  match t.digest?.bind c.find? with
  | some d => (d.methods.filter (·.name == name)).map (·.instantiate t.args)
  | none => []

/-- The methods of this name visible on a type, the nearest first; a method hides those further up with the
same parameters. -/
def methods (c : Catalog H) (owner : Ty) (name : String) : List (Method H) :=
  appendVisible [] ((c.hierarchy owner).flatMap fun t => c.declaredMethods t name)

/-- The properties of this name: read by `getName`, by `isName` if the result is boolean, or by `name`. -/
def properties (c : Catalog H) (owner : Ty) (name : String) : List (Property H) :=
  let capitalized := Text.capitalize name
  let accessors := c.methods owner ("get" ++ capitalized)
    ++ (c.methods owner ("is" ++ capitalized)).filter (·.returns.isBoolean) ++ c.methods owner name
  (accessors.filter fun m => m.parameters.isEmpty && !m.isStatic && !m.returns.isVoid).map fun getter =>
    { name, type := getter.returns, getter }

variable [HostObject H]

mutual
/-- Whether a value belongs to a type at run time. Null belongs to none; arrays are checked item by item,
where null items pass. -/
def isInstance (c : Catalog H) : Value H → Ty → Bool
  | .null, _ => false
  | v, .primitive k => v.kind? = some k
  | v, .boxed k => v.kind? = some k
  | .array items, .array component => allInstances c items component
  | v, t => t.isObject || (!t.isArray && c.isSubtype v.runtimeType t)

def allInstances (c : Catalog H) : List (Value H) → Ty → Bool
  | [], _ => true
  | v :: rest, t => (v.isNull || isInstance c v t) && allInstances c rest t
end

end Catalog
end TypedExpr
