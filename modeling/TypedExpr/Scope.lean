import TypedExpr.Overload
/-!
# Scopes

The names that an expression may use and the limits of its compilation.
-/

namespace TypedExpr

inductive Element (H : Type) where
  | property (owner : Ty) (property : Property H)
  /-- A positional argument of the evaluation. -/
  | parameter (name : String) (index : Nat) (type : Ty)
  /-- A method that needs no receiver expression; an instance method runs on the bean of its owner. -/
  | method (method : Method H)

def Element.description {H : Type} : Element H → String
  | .property owner p => "property " ++ owner.text ++ "." ++ p.name ++ ": " ++ p.type.text
  | .parameter name index type => "parameter #" ++ toString index ++ " " ++ name ++ ": " ++ type.text
  | .method m => "method " ++ m.qualifiedSignature

structure Scope (H : Type) where
  elements : String → List (Element H)
  thisType : Option Ty
  methods : String → List (Method H)

structure Declarations (H : Type) where
  elements : List (String × Element H) := []
  thisType : Option Ty := none

namespace Declarations

variable {H : Type}

def parameter (d : Declarations H) (name : String) (type : Ty) : Declarations H :=
  let index := d.elements.countP fun (_, e) => match e with
    | .parameter .. => true
    | _ => false
  { d with elements := d.elements ++ [(name, .parameter name index type)] }

def property (d : Declarations H) (owner : Ty) (p : Property H) : Declarations H :=
  { d with elements := d.elements ++ [(p.name, .property owner p)] }

def method (d : Declarations H) (m : Method H) : Declarations H :=
  { d with elements := d.elements ++ [(m.name, .method m)] }

def elementsNamed (d : Declarations H) (name : String) : List (Element H) :=
  d.elements.filterMap fun (n, e) => if n = name then some e else none

def methodsNamed (d : Declarations H) (name : String) : List (Method H) :=
  (d.elementsNamed name).filterMap fun e => match e with
    | .method m => some m
    | _ => none

def scope (d : Declarations H) : Scope H where
  elements := d.elementsNamed
  thisType := d.thisType
  methods := d.methodsNamed

end Declarations

structure Options where
  /-- The largest compiled size of a pattern, in bytes. -/
  patternSizeLimit : Nat := Nat.pow 2 20
  maxArguments : Nat := 255
  deriving DecidableEq, Repr

namespace Options

def withPatternSizeLimit (o : Options) (limit : Nat) : Options := { o with patternSizeLimit := limit }

/-- A call has one byte for the number of its arguments, so larger limits are cut down to that. -/
def withMaxArguments (o : Options) (limit : Nat) : Options := { o with maxArguments := min limit 255 }

end Options

/-- All that the resolution of an expression consults. -/
structure Context (H : Type) where
  catalog : Catalog H
  scope : Scope H
  options : Options := {}

def Context.lookupType {H : Type} (ctx : Context H) (name : String) (span : Span) : Except CompileError Ty :=
  match ctx.catalog.lookup? name with
  | some t => .ok t
  | none => .error (.unknownType name span)

end TypedExpr
