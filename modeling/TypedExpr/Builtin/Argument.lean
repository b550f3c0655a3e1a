import TypedExpr.Declaration
import TypedExpr.Value.Order
import TypedExpr.Value.Text
/-!
# Arguments of native methods

Reading the receiver and the arguments of a native call as what the method needs. A null and a value of
another type fail differently.
-/

namespace TypedExpr.Builtin

open Number

variable {H : Type} [HostObject H]

omit [HostObject H] in
def argument (args : List (Value H)) (index : Nat) : Except RunError (Value H) :=
  match args[index]? with
  | some v => .ok v
  | none => .error (.invalidBytecode ("native call missing argument " ++ toString index))

def castError (expected : String) (found : Value H) : RunError := .invalidCast expected found.typeName

/-- A string; `what` names its role if it is null. -/
def expectString (what : String) : Value H → Except RunError String
  | .null => .error (.nullValue what)
  | .string s => .ok s
  | other => .error (castError "String" other)

def expectInt : Value H → Except RunError Int32
  | .null => .error (.nullValue "int argument")
  | .int n => .ok n
  | other => .error (castError "int" other)

def expectDouble : Value H → Except RunError Double
  | .int n => .ok (.ofInt32 n)
  | .long n => .ok (.ofInt64 n)
  | .float x => .ok x.toDouble
  | .double x => .ok x
  | .null => .error (.nullValue "number")
  | other => .error (castError "Number" other)

/-- A number of any kind as a long; fractions are cut off. -/
def expectLong : Value H → Except RunError Int64
  | .int n => .ok n.toInt64
  | .long n => .ok n
  | .float x => .ok x.toInt64
  | .double x => .ok x.toInt64
  | .null => .error (.nullValue "number")
  | other => .error (castError "Number" other)

def expectItems (this : Value H) : Except RunError (List (Value H)) :=
  match this.items? with
  | some items => .ok items
  | none => .error (castError "Collection" this)

def expectEntries (this : Value H) : Except RunError (List (String × Value H)) :=
  match this.entries? with
  | some entries => .ok entries
  | none => .error (castError "Map" this)

/-- The natural order as a number below, at or above zero. -/
def orderValue : Ordering → Value H
  | .lt => .int (-1)
  | .eq => .int 0
  | .gt => .int 1

/-- Compares the receiver with the first argument in the natural order. -/
def compareTo : Native H := fun this args => do
  let other ← argument args 0
  if other.isNull then .error (.nullValue "compareTo argument")
  else match this.compare? other with
    | some o => .ok (orderValue o)
    | none =>
      .error (.nativeCall "compareTo" (this.typeName ++ " is not comparable to " ++ other.typeName))

end TypedExpr.Builtin
