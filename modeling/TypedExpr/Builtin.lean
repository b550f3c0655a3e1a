import TypedExpr.Builtin.Collections
import TypedExpr.Builtin.Numbers
import TypedExpr.Builtin.Strings
import TypedExpr.Catalog
/-!
# Builtin types

The types every host starts with, supertypes first.
-/

namespace TypedExpr

variable {H : Type} [HostObject H]

def builtinTypes : List (TypeDef H) :=
  [Builtin.objectType, Builtin.charSequenceType, Builtin.comparableType, Builtin.stringType,
   Builtin.numberType, Builtin.booleanType, Builtin.boxType .int, Builtin.boxType .long,
   Builtin.boxType .float, Builtin.boxType .double, Builtin.collectionType, Builtin.listType,
   Builtin.mapType, Builtin.mathType]

/-- The catalog of the builtin types. -/
def Catalog.builtin : Catalog H := ⟨builtinTypes⟩

end TypedExpr
