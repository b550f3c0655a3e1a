import TypedExpr.Catalog
import TypedExpr.Opcode
/-!
# Conversions

When a value of one static type may be used where another is expected, and which operations make it so.
Nothing narrows.
-/

namespace TypedExpr

inductive Conversion where
  | identity
  | nullToReference
  | upcast
  | boxing (kind : Kind)
  | unboxing (kind : Kind)
  | widening (source target : Kind)
  | unboxAndWiden (source target : Kind)
  deriving DecidableEq, Repr, Inhabited

/-- The operation that widens one kind to another; none where no work is needed. -/
def Kind.wideningOp? : Kind → Kind → Option Opcode
  | .int, .long => some .i32ToI64
  | .int, .float => some .i32ToF32
  | .int, .double => some .i32ToF64
  | .long, .float => some .i64ToF32
  | .long, .double => some .i64ToF64
  | .float, .double => some .f32ToF64
  | _, _ => none

namespace Conversion

/-- Lower costs mean closer types. -/
def cost : Conversion → Nat
  | .identity => 0
  | .nullToReference => 1
  | .upcast => 2
  | .boxing _ | .unboxing _ => 3
  | .widening .. => 4
  | .unboxAndWiden .. => 5

def isExact (c : Conversion) : Bool := c = .identity

/-- The operations that carry out the conversion. Boxing keeps the representation and needs none. -/
def code : Conversion → List Opcode
  | .unboxing _ => [.unbox]
  | .widening source target => (source.wideningOp? target).toList
  | .unboxAndWiden source target => .unbox :: (source.wideningOp? target).toList
  | _ => []

def needsCode : Conversion → Bool
  | .unboxing _ | .widening .. | .unboxAndWiden .. => true
  | _ => false

def text : Conversion → String
  | .identity => "Identity"
  | .nullToReference => "NullToReference"
  | .upcast => "ReferenceUpcast"
  | .boxing k => "Boxing " ++ k.name
  | .unboxing k => "Unboxing " ++ k.name
  | .widening source target => "Widening " ++ source.name ++ " " ++ target.name
  | .unboxAndWiden source target => "UnboxAndWiden " ++ source.name ++ " " ++ target.name

end Conversion

namespace Catalog

variable {H : Type}

def conversionOfDistinct? (c : Catalog H) : (source target : Ty) → Option Conversion
  | .void, _ | _, .void => none
  | .null, target => if target.isReference then some .nullToReference else none
  | .primitive k, .primitive l => if k.isNumeric && k.widensTo l then some (.widening k l) else none
  | .primitive k, target => if c.isSubtype (.boxed k) target then some (.boxing k) else none
  | .boxed k, .primitive l =>
    if k = l then some (.unboxing k)
    else if k.isNumeric && k.widensTo l then some (.unboxAndWiden k l) else none
  | _, .primitive _ => none
  | source, target => if c.isSubtype source target then some .upcast else none

def conversion? (c : Catalog H) (source target : Ty) : Option Conversion :=
  if source = target then some .identity else c.conversionOfDistinct? source target

def isAssignable (c : Catalog H) (source target : Ty) : Bool := (c.conversion? source target).isSome

end Catalog

def Kind.wider (a b : Kind) : Kind := if a.widensTo b then b else a

/-- The kind in which two numeric operands meet. -/
def Ty.commonKind? (left right : Ty) : Option Kind :=
  match left.numericKind?, right.numericKind? with
  | some a, some b => some (a.wider b)
  | _, _ => none

/-- The operations that turn a numeric value, boxed or not, into one of the kind. -/
def Ty.coercionCode (source : Ty) (target : Kind) : List Opcode :=
  (if source.isBoxed then [.unbox] else [])
    ++ (source.numericKind?.bind fun k => k.wideningOp? target).toList

end TypedExpr
