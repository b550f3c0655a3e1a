import TypedExpr.Value
/-!
# Equality and order of values

Equality looks at structure and never mixes types: an int is not equal to a long, and floating-point
numbers are equal when their bits are. The natural order relates values of one type only.
-/

namespace TypedExpr.Value

variable {H : Type} [HostObject H]

mutual
/-- Structural equality. A map equals another of the same size that has an equal value under each key. -/
def equals : Value H → Value H → Bool
  | .null, .null => true
  | .bool a, .bool b => a = b
  | .int a, .int b => a = b
  | .long a, .long b => a = b
  | .float a, .float b => a = b
  | .double a, .double b => a = b
  | .string a, .string b => a = b
  | .array a, .array b => equalItems a b
  | .list a, .list b => equalItems a b
  | .map a, .map b => a.length = b.length && equalEntries a b
  | .object a, .object b => HostObject.equals a b
  | _, _ => false

def equalItems : List (Value H) → List (Value H) → Bool
  | [], [] => true
  | a :: as, b :: bs => equals a b && equalItems as bs
  | _, _ => false

/-- Whether each entry has an equal counterpart under its key among the others. -/
def equalEntries : List (String × Value H) → List (String × Value H) → Bool
  | [], _ => true
  | (k, v) :: rest, others =>
    (match others.lookup k with
      | some w => equals v w
      | none => false) && equalEntries rest others
end

/-- The natural order of two values of one type; floating-point numbers follow the total order. -/
def compare? : Value H → Value H → Option Ordering
  | .bool a, .bool b => some (compare a.toNat b.toNat)
  | .int a, .int b => some (compare a.toInt b.toInt)
  | .long a, .long b => some (compare a.toInt b.toInt)
  | .float a, .float b => some (a.compare b)
  | .double a, .double b => some (a.compare b)
  | .string a, .string b => some (compare a b)
  | .object a, .object b => HostObject.compare? a b
  | _, _ => none

end TypedExpr.Value
