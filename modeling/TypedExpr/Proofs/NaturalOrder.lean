import Mathlib.Logic.Function.Basic
import TypedExpr.Builtin
import TypedExpr.Proofs.Sequencing
import TypedExpr.Proofs.ValueEquality
/-!
# The natural order of values

Values are compared within one form only: truth values, numbers of one kind, strings, objects of the host. Each form
but the last is ordered by a key that tells its values apart (`Orders.ofKey`); for floating-point numbers the key is
a whole number that all patterns have, zeros with a sign and what is not a number included (`orderKey_injective`).
So the natural order is a total order on each form and goes with equality (`Value.compare?_orders`).
-/

namespace TypedExpr

/-- A comparison, defined for some pairs, that orders what it compares and goes with an equality. -/
structure Orders {α : Type} (compare? : α → α → Option Ordering) (equals : α → α → Bool) : Prop where
  /-- It is defined for both orders of a pair or for none, with opposite results. -/
  swap : ∀ a b, compare? b a = (compare? a b).map Ordering.swap
  /-- Below or equal is transitive; the result is strict if one of the two steps is. -/
  trans : ∀ a b c o o', compare? a b = some o → compare? b c = some o' → o.isLE = true → o'.isLE = true →
    ∃ o'', compare? a c = some o'' ∧ o''.isLE = true ∧ (o = .lt ∨ o' = .lt → o'' = .lt)
  eq_iff : ∀ a b o, compare? a b = some o → (o = .eq ↔ equals a b = true)

/-- Comparing keys that tell values apart. -/
theorem Orders.ofKey {α κ : Type} [DecidableEq α] [Ord κ] [Std.TransOrd κ] [Std.LawfulEqOrd κ] {key : α → κ}
    (injective : Function.Injective key) :
    Orders (fun a b => some (compare (key a) (key b))) fun a b => decide (a = b) where
  swap a b := congrArg some Std.OrientedOrd.eq_swap
  trans a b c o o' first second below below' := by
    cases first
    cases second
    refine ⟨_, rfl, Std.TransOrd.isLE_trans below below', ?_⟩
    rintro (strict | strict)
    · exact Std.TransCmp.lt_of_lt_of_isLE strict below'
    · exact Std.TransCmp.lt_of_isLE_of_lt below strict
  eq_iff a b o compared := by
    cases compared
    rw [Std.compare_eq_iff_eq, decide_eq_true_iff]
    exact injective.eq_iff

namespace Number

theorem orderKey_injective (signBit : Nat) : Function.Injective (orderKey signBit) := by
  intro a b same
  unfold orderKey at same
  split at same <;> split at same <;> omega

theorem Single.orders : Orders (fun a b : Single => some (a.compare b)) fun a b => decide (a = b) := by
  refine Orders.ofKey fun a b same => ?_
  have bits : a.bits = b.bits := UInt32.toNat_inj.mp (orderKey_injective _ same)
  cases a
  cases b
  exact congrArg Single.mk bits

theorem Double.orders : Orders (fun a b : Double => some (a.compare b)) fun a b => decide (a = b) := by
  refine Orders.ofKey fun a b same => ?_
  have bits : a.bits = b.bits := UInt64.toNat_inj.mp (orderKey_injective _ same)
  cases a
  cases b
  exact congrArg Double.mk bits

end Number

namespace Value

variable {H : Type} [HostObject H]

/-- Values of one form are compared with each other and with no others, by what they hold. -/
structure Form {α : Type} (form : α → Value H) (order : α → α → Option Ordering) (equality : α → α → Bool) : Prop where
  compared : ∀ x b o, (form x).compare? b = some o ↔ ∃ y, b = form y ∧ order x y = some o
  equals : ∀ x y, (form x).equals (form y) = equality x y
  orders : Orders order equality

theorem Form.compared_of {α : Type} {form : α → Value H} {order : α → α → Option Ordering}
    (same : ∀ x y, (form x).compare? (form y) = order x y)
    (other : ∀ x b, (form x).compare? b = none ∨ ∃ y, b = form y) (x : α) (b : Value H) (o : Ordering) :
    (form x).compare? b = some o ↔ ∃ y, b = form y ∧ order x y = some o := by
  constructor
  · intro compared
    rcases other x b with none | ⟨y, rfl⟩
    · cases none.symm.trans compared
    · exact ⟨y, rfl, (same x y).symm.trans compared⟩
  · rintro ⟨y, rfl, ordered⟩
    exact (same x y).trans ordered

theorem bool_form : Form (H := H) .bool (fun x y => some (compare x.toNat y.toNat)) fun x y => decide (x = y) where
  compared := Form.compared_of (fun _ _ => rfl) fun _ b => by
    cases b with
    | bool y => exact .inr ⟨y, rfl⟩
    | _ => exact .inl rfl
  equals x y := rfl
  orders := .ofKey fun x y => by cases x <;> cases y <;> decide

theorem int_form : Form (H := H) .int (fun x y => some (compare x.toInt y.toInt)) fun x y => decide (x = y) where
  compared := Form.compared_of (fun _ _ => rfl) fun _ b => by
    cases b with
    | int y => exact .inr ⟨y, rfl⟩
    | _ => exact .inl rfl
  equals x y := rfl
  orders := .ofKey fun _ _ => Int32.toInt_inj.mp

theorem long_form : Form (H := H) .long (fun x y => some (compare x.toInt y.toInt)) fun x y => decide (x = y) where
  compared := Form.compared_of (fun _ _ => rfl) fun _ b => by
    cases b with
    | long y => exact .inr ⟨y, rfl⟩
    | _ => exact .inl rfl
  equals x y := rfl
  orders := .ofKey fun _ _ => Int64.toInt_inj.mp

theorem float_form : Form (H := H) .float (fun x y => some (x.compare y)) fun x y => decide (x = y) where
  compared := Form.compared_of (fun _ _ => rfl) fun _ b => by
    cases b with
    | float y => exact .inr ⟨y, rfl⟩
    | _ => exact .inl rfl
  equals x y := rfl
  orders := Number.Single.orders

theorem double_form : Form (H := H) .double (fun x y => some (x.compare y)) fun x y => decide (x = y) where
  compared := Form.compared_of (fun _ _ => rfl) fun _ b => by
    cases b with
    | double y => exact .inr ⟨y, rfl⟩
    | _ => exact .inl rfl
  equals x y := rfl
  orders := Number.Double.orders

theorem string_form : Form (H := H) .string (fun x y => some (compare x y)) fun x y => decide (x = y) where
  compared := Form.compared_of (fun _ _ => rfl) fun _ b => by
    cases b with
    | string y => exact .inr ⟨y, rfl⟩
    | _ => exact .inl rfl
  equals x y := rfl
  orders := .ofKey Function.injective_id

variable (host : Orders (HostObject.compare? : H → H → Option Ordering) HostObject.equals)

include host

theorem object_form : Form (H := H) .object HostObject.compare? HostObject.equals where
  compared := Form.compared_of (fun _ _ => rfl) fun _ b => by
    cases b with
    | object y => exact .inr ⟨y, rfl⟩
    | _ => exact .inl rfl
  equals x y := rfl
  orders := host

/-- What is compared has a form. -/
theorem exists_form {a b : Value H} {o : Ordering} (compared : a.compare? b = some o) :
    ∃ (α : Type) (form : α → Value H) (order : α → α → Option Ordering) (equality : α → α → Bool) (x : α),
      Form form order equality ∧ a = form x := by
  cases a with
  | null | array | list | map => cases b <;> cases compared
  | bool x => exact ⟨_, _, _, _, x, bool_form, rfl⟩
  | int x => exact ⟨_, _, _, _, x, int_form, rfl⟩
  | long x => exact ⟨_, _, _, _, x, long_form, rfl⟩
  | float x => exact ⟨_, _, _, _, x, float_form, rfl⟩
  | double x => exact ⟨_, _, _, _, x, double_form, rfl⟩
  | string x => exact ⟨_, _, _, _, x, string_form, rfl⟩
  | object x => exact ⟨_, _, _, _, x, object_form host, rfl⟩

theorem compare?_swap {a b : Value H} {o : Ordering} (compared : a.compare? b = some o) :
    b.compare? a = some o.swap := by
  obtain ⟨α, form, order, equality, x, isForm, rfl⟩ := exists_form host compared
  obtain ⟨y, rfl, ordered⟩ := (isForm.compared x b o).mp compared
  refine (isForm.compared y _ _).mpr ⟨x, rfl, ?_⟩
  rw [isForm.orders.swap x y, ordered, Option.map_some]

theorem orders : Orders (Value.compare? (H := H)) Value.equals where
  swap a b := by
    cases compared : a.compare? b with
    | some o => exact compare?_swap host compared
    | none =>
      cases compared' : b.compare? a with
      | none => rfl
      | some o => cases compared.symm.trans (compare?_swap host compared')
  trans a b c o o' first second below below' := by
    obtain ⟨α, form, order, equality, x, isForm, rfl⟩ := exists_form host first
    obtain ⟨y, rfl, ordered⟩ := (isForm.compared x b o).mp first
    obtain ⟨z, rfl, ordered'⟩ := (isForm.compared y c o').mp second
    obtain ⟨o'', third, below'', strict⟩ := isForm.orders.trans x y z o o' ordered ordered' below below'
    exact ⟨o'', (isForm.compared x _ o'').mpr ⟨z, rfl, third⟩, below'', strict⟩
  eq_iff a b o compared := by
    obtain ⟨α, form, order, equality, x, isForm, rfl⟩ := exists_form host compared
    obtain ⟨y, rfl, ordered⟩ := (isForm.compared x b o).mp compared
    rw [isForm.equals]
    exact isForm.orders.eq_iff x y o ordered

omit host

/-- Both are truth values, numbers of one kind, or strings. -/
def Matched (a b : Value H) : Prop :=
  (∃ kind, a.kind? = some kind ∧ b.kind? = some kind) ∨ ∃ s t, a = .string s ∧ b = .string t

theorem Matched.compared {a b : Value H} (matched : Matched a b) : ∃ o, a.compare? b = some o := by
  rcases matched with ⟨kind, first, second⟩ | ⟨s, t, rfl, rfl⟩
  · cases a <;> cases first <;> cases b <;> cases second <;> exact ⟨_, rfl⟩
  · exact ⟨_, rfl⟩

end Value

/-- The methods `compareTo` of the builtin types. -/
def comparisonMethods {H : Type} [HostObject H] : List (Method H) :=
  (builtinTypes.flatMap TypeDef.methods).filter (·.name = "compareTo")

section Methods

variable {H : Type} [HostObject H]

theorem native_of_comparison {m : Method H} (isComparison : m ∈ comparisonMethods) : m.native = Builtin.compareTo := by
  have natives : (comparisonMethods : List (Method H)).map Method.native = List.replicate 7 Builtin.compareTo := by
    simp [comparisonMethods, builtinTypes, Builtin.objectType, Builtin.charSequenceType, Builtin.comparableType,
      Builtin.stringType, Builtin.numberType, Builtin.booleanType, Builtin.boxType, Builtin.collectionType,
      Builtin.listType, Builtin.mapType, Builtin.mathType, Method.declare, Method.declareStatic, Builtin.parseName,
      Kind.isIntegral]
  have isNative : m.native ∈ (comparisonMethods : List (Method H)).map Method.native :=
    List.mem_map_of_mem isComparison
  rw [natives] at isNative
  exact List.eq_of_mem_replicate isNative

theorem compareTo_ok {a b v : Value H} :
    Builtin.compareTo a [b] = .ok v ↔ ∃ o, a.compare? b = some o ∧ v = Builtin.orderValue o := by
  simp only [Builtin.compareTo, Builtin.argument, List.getElem?_cons_zero, ok_bind]
  cases isNull : b.isNull with
  | true =>
    have uncompared : a.compare? b = none := by cases b <;> cases isNull; cases a <;> rfl
    simp [uncompared]
  | false => cases a.compare? b <;> simp [eq_comm]

theorem orderValue_equals_zero (o : Ordering) :
    (Builtin.orderValue o : Value H).equals (.int 0) = true ↔ o = .eq := by
  cases o <;> simp [Builtin.orderValue, Value.equals]

/-- The natural order is an order wherever it is defined, if that of the host's objects is one, and goes with equality.
It is defined for any two values of a builtin form, so that `compareTo` gives zero there just for equal values. -/
theorem Value.compare?_orders (host : Orders (HostObject.compare? : H → H → Option Ordering) HostObject.equals) :
    Orders (Value.compare? (H := H)) Value.equals ∧
      (∀ a b : Value H, a.Matched b → (a.compare? b).isSome = true) ∧
      ∀ m ∈ comparisonMethods, ∀ a b : Value H, (a.Matched b → ∃ v, m.native a [b] = .ok v) ∧
        ∀ v, m.native a [b] = .ok v → (v.equals (.int 0) = true ↔ a.equals b = true) := by
  refine ⟨orders host, fun a b matched => ?_, fun m isComparison a b => ?_⟩
  · obtain ⟨o, compared⟩ := matched.compared
    rw [compared, Option.isSome_some]
  · rw [native_of_comparison isComparison]
    refine ⟨fun matched => ?_, fun v returned => ?_⟩
    · obtain ⟨o, compared⟩ := matched.compared
      exact ⟨_, compareTo_ok.mpr ⟨o, compared, rfl⟩⟩
    · obtain ⟨o, compared, rfl⟩ := compareTo_ok.mp returned
      rw [orderValue_equals_zero]
      exact (orders host).eq_iff a b o compared

end Methods

/-- Badges are ordered by their numbers, so `compareTo` tells the two zeros apart, as equality does. -/
theorem badge_compare?_orders :
    Orders (HostObject.compare? : Badge → Badge → Option Ordering) HostObject.equals ∧
      (comparisonMethods : List (Method Badge)).length = 7 ∧
      ∀ m ∈ (comparisonMethods : List (Method Badge)), ∃ v,
        m.native (.double ⟨0x8000000000000000⟩) [.double ⟨0⟩] = .ok v ∧ v.equals (.int 0) = false := by
  have host : Orders (HostObject.compare? : Badge → Badge → Option Ordering) HostObject.equals := by
    refine Orders.ofKey fun a b same => ?_
    cases a
    cases b
    exact congrArg Badge.mk same
  refine ⟨host, by decide +kernel, fun m isComparison => ?_⟩
  obtain ⟨returns, zero_iff⟩ := (Value.compare?_orders host).2.2 m isComparison (.double ⟨0x8000000000000000⟩)
    (.double ⟨0⟩)
  obtain ⟨v, returned⟩ := returns (.inl ⟨.double, rfl, rfl⟩)
  refine ⟨v, returned, Bool.eq_false_iff.mpr fun isZero => ?_⟩
  exact absurd ((zero_iff v returned).mp isZero) (by decide)

end TypedExpr
