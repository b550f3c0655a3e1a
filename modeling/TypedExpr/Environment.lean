import TypedExpr.Value
/-!
# Environments

What an expression reads from its host while it runs.
-/

namespace TypedExpr

structure Environment (H : Type) where
  argument : Nat → Option (Value H)
  bean : Ty → Option (Value H) := fun _ => none
  /-- Named texts; a missing one reads as null. -/
  property : String → Option String := fun _ => none
  this : Option (Value H) := none

/-- Values that are supplied before the run. A later bean or property replaces an earlier one. -/
structure Supply (H : Type) where
  arguments : List (Value H) := []
  beans : List (Ty × Value H) := []
  properties : List (String × String) := []
  this : Option (Value H) := none

namespace Supply

variable {H : Type}

def environment (s : Supply H) : Environment H where
  argument index := s.arguments[index]?
  bean t := s.beans.reverse.lookup t
  property key := s.properties.reverse.lookup key
  this := s.this

def argumentsOnly (s : Supply H) : Environment H where
  argument index := s.arguments[index]?

end Supply
end TypedExpr
