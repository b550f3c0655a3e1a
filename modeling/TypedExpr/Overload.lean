import TypedExpr.Conversion
/-!
# Overloads

A call selects the one method that accepts its arguments. There is no ranking: two applicable methods make
the call ambiguous. A method whose last parameter is an array may take its trailing arguments one by one.
-/

namespace TypedExpr

/-- The method selected for a call and how each argument is passed. -/
structure Selection (H : Type) where
  method : Method H
  arguments : List Ty
  /-- The first argument that is collected into the trailing array, if the arguments are collected. -/
  varargsStart : Option Nat
  conversions : List Conversion

namespace Selection

variable {H : Type}

def isVarargs (s : Selection H) : Bool := s.varargsStart.isSome

def returns (s : Selection H) : Ty := s.method.returns

def element? (s : Selection H) : Option Ty :=
  if s.isVarargs then s.method.parameters.getLast?.bind Ty.component? else none

/-- How many values the call consumes besides a receiver. -/
def arity (s : Selection H) : Nat := s.method.parameters.length

def cost (s : Selection H) : Nat := s.conversions.foldr (fun conversion total => conversion.cost + total) 0

end Selection

namespace Catalog

variable {H : Type}

def conversions? (c : Catalog H) : (arguments parameters : List Ty) → Option (List Conversion)
  | a :: as, p :: ps => do
    let first ← c.conversion? a p
    let rest ← c.conversions? as ps
    return first :: rest
  | _, _ => some []

def conversionsTo? (c : Catalog H) (target : Ty) : List Ty → Option (List Conversion)
  | [] => some []
  | a :: as => do
    let first ← c.conversion? a target
    let rest ← c.conversionsTo? target as
    return first :: rest

/-- Arguments that fit the parameters one by one. -/
def selectExact? (c : Catalog H) (m : Method H) (arguments : List Ty) : Option (Selection H) :=
  if arguments.length = m.parameters.length then
    (c.conversions? arguments m.parameters).map fun cs => ⟨m, arguments, none, cs⟩
  else none

/-- Arguments of which the trailing ones, possibly none, are collected into the last parameter's array. -/
def selectExpanded? (c : Catalog H) (m : Method H) (arguments : List Ty) : Option (Selection H) :=
  match m.parameters.getLast? with
  | some (.array element) =>
    let fixed := m.parameters.length - 1
    if (m.isVarargs || !element.isArray) && fixed ≤ arguments.length then do
      let before ← c.conversions? (arguments.take fixed) (m.parameters.take fixed)
      let after ← c.conversionsTo? element (arguments.drop fixed)
      return ⟨m, arguments, some fixed, before ++ after⟩
    else none
  | _ => none

/-- How a method accepts the arguments; as they stand, if it can. -/
def select? (c : Catalog H) (m : Method H) (arguments : List Ty) : Option (Selection H) :=
  (c.selectExact? m arguments).or (c.selectExpanded? m arguments)

/-- The signatures in alphabetical order, so that the order of declaration does not show. -/
def candidateText (methods : List (Method H)) : String :=
  if methods.isEmpty then "none"
  else "; ".intercalate ((methods.map Method.qualifiedSignature).mergeSort fun a b => decide (a ≤ b))

def selectMethod (c : Catalog H) (name : String) (candidates : List (Method H)) (arguments : List Ty)
    (span : Span) : Except CompileError (Selection H) :=
  match candidates.filterMap fun m => c.select? m arguments with
  | [selected] => .ok selected
  | [] => .error (.noMatchingMethod name (Ty.listText arguments) (candidateText candidates) span)
  | several =>
    .error (.ambiguousMethod name (Ty.listText arguments) (candidateText (several.map (·.method))) span)

end Catalog
end TypedExpr
