import TypedExpr.Digest
/-!
# Types

The static types of expressions: primitive kinds and their boxes, arrays, declared types with arguments,
the type of `null`, and variables that stand for the arguments of a generic declaration.
-/

namespace TypedExpr

/-- The primitive kinds; the numeric ones from the narrowest to the widest. -/
inductive Kind where
  | bool
  | int
  | long
  | float
  | double
  deriving DecidableEq, Repr, Inhabited

namespace Kind

def all : List Kind := [.bool, .int, .long, .float, .double]

/-- The keyword. -/
def name : Kind → String
  | .bool => "boolean"
  | .int => "int"
  | .long => "long"
  | .float => "float"
  | .double => "double"

/-- The name of the boxed counterpart. -/
def boxName : Kind → String
  | .bool => "Boolean"
  | .int => "Integer"
  | .long => "Long"
  | .float => "Float"
  | .double => "Double"

def ofName? (s : String) : Option Kind := all.find? (·.name == s)

def ofBoxName? (s : String) : Option Kind := all.find? (·.boxName == s)

def isNumeric (k : Kind) : Bool := k ≠ .bool

def isIntegral : Kind → Bool
  | .int | .long => true
  | _ => false

/-- The place among the numeric kinds. -/
def rank? : Kind → Option Nat
  | .bool => none
  | .int => some 0
  | .long => some 1
  | .float => some 2
  | .double => some 3

/-- Whether values of one kind may stand for the other; every kind widens to itself. -/
def widensTo (k target : Kind) : Bool :=
  match k.rank?, target.rank? with
  | some a, some b => a ≤ b
  | _, _ => k = target

end Kind

/-- A static type. -/
inductive Ty where
  | void
  | null
  | primitive (kind : Kind)
  | boxed (kind : Kind)
  | array (component : Ty)
  | declared (name : String) (args : List Ty)
  | var (index : Nat)
  deriving Repr, Inhabited

namespace Ty

mutual
/-- Whether two types are the same. -/
def same : Ty → Ty → Bool
  | .void, .void => true
  | .null, .null => true
  | .primitive k, .primitive l => k = l
  | .boxed k, .boxed l => k = l
  | .array a, .array b => same a b
  | .declared n as, .declared m bs => n = m && sameAll as bs
  | .var i, .var j => i = j
  | _, _ => false

def sameAll : List Ty → List Ty → Bool
  | [], [] => true
  | a :: as, b :: bs => same a b && sameAll as bs
  | _, _ => false
end

mutual
theorem same_self (a : Ty) : same a a = true := by
  cases a with
  | void | null | primitive _ | boxed _ | var _ => simp [same]
  | array c => simpa [same] using same_self c
  | declared n as => simpa [same] using sameAll_self as

theorem sameAll_self (as : List Ty) : sameAll as as = true := by
  cases as with
  | nil => simp [sameAll]
  | cons a as => simp [sameAll, same_self a, sameAll_self as]
end

mutual
theorem eq_of_same {a b : Ty} (h : same a b = true) : a = b := by
  cases a with
  | void | null | primitive _ | boxed _ | var _ => cases b <;> simp_all [same]
  | array c =>
    cases b with
    | array d => exact congrArg Ty.array (eq_of_same (by simpa [same] using h))
    | _ => simp [same] at h
  | declared n as =>
    cases b with
    | declared m bs =>
      simp only [same, Bool.and_eq_true, decide_eq_true_eq] at h
      rw [h.1, eq_of_sameAll h.2]
    | _ => simp [same] at h

theorem eq_of_sameAll {as bs : List Ty} (h : sameAll as bs = true) : as = bs := by
  cases as with
  | nil => cases bs <;> simp_all [sameAll]
  | cons a as =>
    cases bs with
    | nil => simp [sameAll] at h
    | cons b bs =>
      simp only [sameAll, Bool.and_eq_true] at h
      rw [eq_of_same h.1, eq_of_sameAll h.2]
end

instance : DecidableEq Ty := fun a b =>
  if h : same a b = true then isTrue (eq_of_same h) else isFalse fun e => h (e ▸ same_self a)

def ofName (name : String) : Ty := .declared name []

def object : Ty := .ofName "Object"
def string : Ty := .ofName "String"
def charSequence : Ty := .ofName "CharSequence"
def number : Ty := .ofName "Number"
def listOf (element : Ty) : Ty := .declared "List" [element]
def mapOf (key value : Ty) : Ty := .declared "Map" [key, value]
def comparableTo (target : Ty) : Ty := .declared "Comparable" [target]

abbrev boolean : Ty := .primitive .bool
abbrev int : Ty := .primitive .int
abbrev long : Ty := .primitive .long
abbrev float : Ty := .primitive .float
abbrev double : Ty := .primitive .double

def isVoid : Ty → Bool
  | .void => true
  | _ => false

def isNull : Ty → Bool
  | .null => true
  | _ => false

def isPrimitive : Ty → Bool
  | .primitive _ => true
  | _ => false

def isBoxed : Ty → Bool
  | .boxed _ => true
  | _ => false

def isArray : Ty → Bool
  | .array _ => true
  | _ => false

/-- Whether `null` is a value of the type. -/
def isReference : Ty → Bool
  | .void | .primitive _ => false
  | _ => true

/-- The kind of a primitive or of a box. -/
def kind? : Ty → Option Kind
  | .primitive k | .boxed k => some k
  | _ => none

def numericKind? (t : Ty) : Option Kind := t.kind?.filter Kind.isNumeric

def isNumeric (t : Ty) : Bool := t.numericKind?.isSome

def isBoolean (t : Ty) : Bool := t.kind? = some .bool

/-- Whether this is the declared type of that name, with whatever arguments. -/
def isNamed (t : Ty) (name : String) : Bool :=
  match t with
  | .declared n _ => n == name
  | _ => false

def isString (t : Ty) : Bool := t.isNamed "String"

def isStringLike (t : Ty) : Bool := t.isNamed "String" || t.isNamed "CharSequence"

def isObject (t : Ty) : Bool := t.isNamed "Object"

/-- The box of a primitive; other types stay. -/
def box : Ty → Ty
  | .primitive k => .boxed k
  | t => t

/-- The primitive in a box; other types stay. -/
def unbox : Ty → Ty
  | .boxed k => .primitive k
  | t => t

def component? : Ty → Option Ty
  | .array c => some c
  | _ => none

def dimensions : Ty → Nat
  | .array c => c.dimensions + 1
  | _ => 0

def args : Ty → List Ty
  | .declared _ as => as
  | _ => []

/-- The identity under which a catalog knows the type; a primitive or a box goes by its name. -/
def digest? : Ty → Option Digest
  | .declared n _ => some (.ofName n)
  | .boxed k => some (.ofName k.boxName)
  | .primitive k => some (.ofName k.name)
  | _ => none

mutual
/-- Replaces variables by the given types; a variable out of range becomes `Object`. -/
def substitute (bindings : List Ty) : Ty → Ty
  | .var i => bindings.getD i .object
  | .array c => .array (substitute bindings c)
  | .declared n as => .declared n (substituteAll bindings as)
  | t => t

def substituteAll (bindings : List Ty) : List Ty → List Ty
  | [] => []
  | t :: ts => substitute bindings t :: substituteAll bindings ts
end

mutual
def text : Ty → String
  | .void => "void"
  | .null => "null"
  | .primitive k => k.name
  | .boxed k => k.boxName
  | .array c => text c ++ "[]"
  | .declared n [] => n
  | .declared n (a :: as) => n ++ "<" ++ text a ++ textMore as ++ ">"
  | .var i => "T" ++ toString i

/-- Each type after a comma. -/
def textMore : List Ty → String
  | [] => ""
  | t :: ts => ", " ++ text t ++ textMore ts
end

/-- Types separated by commas. -/
def listText (ts : List Ty) : String := ", ".intercalate (ts.map text)

end Ty
end TypedExpr
