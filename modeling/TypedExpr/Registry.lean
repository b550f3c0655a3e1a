import TypedExpr.Builtin
/-!
# The registry

The types of a host while they are set up: a table of the types by their digests, and an index of the digests by
name. A registration that fails leaves both as they were.
-/

namespace TypedExpr

/-- Puts a type under its digest; one that stands there is replaced. -/
def Catalog.put {H : Type} (c : Catalog H) (d : TypeDef H) : Catalog H :=
  if (c.find? d.digest).isSome then ⟨updateFirst d.digest (fun _ => d) c.types⟩ else ⟨c.types ++ [d]⟩

structure Registry (H : Type) where
  catalog : Catalog H := {}
  /-- The digests by name. The latest entry of a name counts. -/
  names : List (String × Digest) := []

abbrev Registering (H : Type) (α : Type) := ExceptT RegistrationError (StateM (Registry H)) α

inductive Registration (H : Type) where
  | type (d : TypeDef H)
  | method (m : Method H)

namespace Registry

variable {H : Type}

def empty : Registry H := {}

def digest? (r : Registry H) (name : String) : Option Digest := r.names.lookup name

def get? (r : Registry H) (name : String) : Option (TypeDef H) := (r.digest? name).bind r.catalog.find?

def contains (r : Registry H) (name : String) : Bool := (r.digest? name).isSome

def size (r : Registry H) : Nat := r.catalog.size

/-- Puts a type into both tables without a check. -/
def insert (r : Registry H) (d : TypeDef H) : Registry H :=
  { catalog := r.catalog.put d, names := (d.name, d.digest) :: r.names }

def builtin [HostObject H] : Registry H := builtinTypes.foldl insert empty

/-- What a host starts from. -/
def start [HostObject H] (builtins : Bool) : Registry H := if builtins then builtin else empty

def registerType (d : TypeDef H) : Registering H Unit := do
  let r ← get
  let _ ← liftExcept (r.catalog.addType d)
  set (r.insert d)

def registerMethod (m : Method H) : Registering H Unit := do
  let r ← get
  let catalog ← liftExcept (r.catalog.addMethod m)
  set { r with catalog }

def register : Registration H → Registering H Unit
  | .type d => registerType d
  | .method m => registerMethod m

/-- The outcome of a call and the registry after it. -/
def call (r : Registry H) (c : Registration H) : Except RegistrationError Unit × Registry H :=
  ((register c).run.run r).run

/-- The registry after calls, of which some may fail. -/
def after (r : Registry H) (calls : List (Registration H)) : Registry H :=
  calls.foldl (fun r c => (r.call c).2) r

end Registry
end TypedExpr
