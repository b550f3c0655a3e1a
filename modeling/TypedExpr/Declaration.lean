import TypedExpr.Error
import TypedExpr.Value
/-!
# Declarations

Methods, properties and types as a host declares them. A generic declaration uses type variables for its
own parameters; `Method.instantiate` binds them.
-/

namespace TypedExpr

/-- What a method does with its receiver (null for a static method) and its arguments. A variable number of
arguments arrives as one trailing array. Natives and environments are functions, so a host whose answers change
with a state of its own is left out. -/
abbrev Native (H : Type) := Value H → List (Value H) → Except RunError (Value H)

structure Method (H : Type) where
  /-- The identity given by the declaration; binding type variables does not change it. -/
  digest : Digest
  owner : Ty
  name : String
  parameters : List Ty
  returns : Ty
  isVarargs : Bool
  isStatic : Bool
  native : Native H

namespace Method

variable {H : Type}

def digestOf (owner : Ty) (name : String) (parameters : List Ty) : Digest :=
  .ofMethod (owner.digest?.getD .empty) name (parameters.map fun p => .ofName p.text)

/-- Declares an instance method; its digest comes from owner, name and parameters. -/
def declare (owner : Ty) (name : String) (parameters : List Ty) (returns : Ty) (native : Native H) : Method H :=
  { digest := digestOf owner name parameters, owner, name, parameters, returns, isVarargs := false,
    isStatic := false, native }

def declareStatic (owner : Ty) (name : String) (parameters : List Ty) (returns : Ty) (native : Native H) :
    Method H :=
  { declare owner name parameters returns native with isStatic := true }

/-- The texts of the parameters; the last one of a variadic method shows its element type. -/
def parameterTexts (isVarargs : Bool) : List Ty → List String
  | [] => []
  | [p] =>
    match isVarargs, p.component? with
    | true, some element => [element.text ++ "..."]
    | _, _ => [p.text]
  | p :: rest => p.text :: parameterTexts isVarargs rest

/-- The name with the parameter types, such as `format(String, Object...)`. -/
def signature (m : Method H) : String :=
  m.name ++ "(" ++ ", ".intercalate (parameterTexts m.isVarargs m.parameters) ++ ")"

def qualifiedSignature (m : Method H) : String := m.owner.text ++ "." ++ m.signature

def instantiate (m : Method H) (args : List Ty) : Method H :=
  { m with
    owner := m.owner.substitute args
    parameters := m.parameters.map (·.substitute args)
    returns := m.returns.substitute args }

end Method

/-- A property that is read through a method without parameters. -/
structure Property (H : Type) where
  name : String
  type : Ty
  getter : Method H

structure TypeDef (H : Type) where
  name : String
  isInterface : Bool := false
  parameters : List String := []
  /-- The direct supertypes, which may mention the type's own variables. -/
  supertypes : List Ty := []
  methods : List (Method H) := []

namespace TypeDef

variable {H : Type}

def digest (d : TypeDef H) : Digest := .ofName d.name

/-- The type applied to its own variables, which are numbered by one byte. -/
def selfType (d : TypeDef H) : Ty :=
  .declared d.name ((List.range d.parameters.length).map fun i => .var (i % 256))

end TypeDef
end TypedExpr
