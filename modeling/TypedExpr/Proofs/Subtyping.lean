import Mathlib.Data.List.Nodup
import TypedExpr.Host.Record
import TypedExpr.Proofs.Inhabitation
/-!
# Subtyping

A type is below another one whose digest is found in its hierarchy with the same arguments; missing arguments
fit all. So subtyping is transitive only where arguments are missing by declaration and not by omission, and
where a hierarchy does not hold one generic type twice. Instances are closed under subtyping as far as the type
that a value shows has such a hierarchy too, with no foreign box in it (`isSubtype_preorder`).
-/

namespace TypedExpr

namespace Ty

/-- The type and, inside an array, its components. -/
def layers : Ty → List Ty
  | .array component => .array component :: component.layers
  | t => [t]

/-- The name of the type, or of the component of an array, is one of these. -/
def Named (names : Set String) : Ty → Prop
  | .declared n _ => n ∈ names
  | .boxed k => k.boxName ∈ names
  | .array component => component.Named names
  | _ => True

/-- The box of the kind, or a type declared under its name. -/
def isBoxOf (k : Kind) : Ty → Bool
  | .boxed l => l = k
  | .declared n _ => n == k.boxName
  | _ => false

/-- A declared type or a box. -/
def isNominal : Ty → Bool
  | .declared .. | .boxed _ => true
  | _ => false

instance decidableNamed (names : List String) : (t : Ty) → Decidable (t.Named {n | n ∈ names})
  | .declared n _ => inferInstanceAs (Decidable (n ∈ names))
  | .boxed k => inferInstanceAs (Decidable (k.boxName ∈ names))
  | .array component => decidableNamed names component
  | .void | .null | .primitive _ | .var _ => .isTrue trivial

theorem isNominal_iff {t : Ty} : t.isNominal = true ↔ t.digest?.isSome = true ∧ t.isPrimitive = false := by
  cases t <;> simp [isNominal, digest?, isPrimitive]

theorem isNominal_spec {t : Ty} (nominal : t.isNominal = true) :
    t.isReference = true ∧ t.isNull = false ∧ t.isArray = false := by
  cases t <;> first | exact ⟨rfl, rfl, rfl⟩ | cases nominal

theorem isNominal_of_isObject {t : Ty} (isObject : t.isObject = true) : t.isNominal = true := by
  cases t <;> first | rfl | cases isObject

theorem boxName_ne_object (k : Kind) : k.boxName ≠ "Object" := by cases k <;> decide

/-- Names tell types apart by their digests. -/
theorem isObject_of_digest {names : Set String} (injective : Set.InjOn Digest.ofName names) {t u : Ty}
    (named : t.Named names) (named' : u.Named names) (nominal : t.isNominal = true) (nominal' : u.isNominal = true)
    (same : t.digest? = u.digest?) : t.isObject = u.isObject := by
  cases t with
  | declared n args =>
    cases u with
    | declared m args' =>
      cases injective named named' (Option.some.inj same)
      rfl
    | boxed k =>
      cases injective named named' (Option.some.inj same)
      simp [isObject, isNamed, boxName_ne_object k]
    | _ => cases nominal'
  | boxed k =>
    cases u with
    | declared m args =>
      cases injective named named' (Option.some.inj same)
      simp [isObject, isNamed, boxName_ne_object k]
    | boxed l => rfl
    | _ => cases nominal'
  | _ => cases nominal

theorem erase_of_digest {names : Set String} (injective : Set.InjOn Digest.ofName names) {t u : Ty}
    (named : t.Named names) (named' : u.Named names) (applied : t.args ≠ []) (applied' : u.args ≠ [])
    (same : t.digest? = u.digest?) : t.erase = u.erase := by
  cases t with
  | declared n args =>
    cases u with
    | declared m args' =>
      cases injective named named' (Option.some.inj same)
      rfl
    | _ => exact absurd rfl applied'
  | _ => exact absurd rfl applied

theorem isBoxOf_of_digest {names : Set String} (injective : Set.InjOn Digest.ofName names) {t : Ty} {k : Kind}
    (named : t.Named names) (isName : k.boxName ∈ names) (nominal : t.isNominal = true)
    (same : t.digest? = some (.ofName k.boxName)) : t.isBoxOf k = true := by
  cases t with
  | declared n args =>
    have sameName := injective named isName (Option.some.inj same)
    simp [isBoxOf, sameName]
  | boxed l =>
    have sameName := injective named isName (Option.some.inj same)
    cases k <;> cases l <;> first | rfl | exact absurd sameName (by decide)
  | _ => cases nominal

@[simp] theorem erase_named {names : Set String} (t : Ty) : t.erase.Named names ↔ t.Named names := by
  induction t using Ty.layers.induct with
  | case1 component ih => exact ih
  | case2 t notArray =>
    cases t with
    | array component => exact absurd rfl (notArray component)
    | _ => rfl

end Ty

variable {H : Type}

namespace Catalog

variable {c : Catalog H} {names : Set String}

/-- The type is declared with parameters. -/
def isGeneric (c : Catalog H) (t : Ty) : Bool :=
  match t.digest?.bind c.find? with
  | some d => !d.parameters.isEmpty
  | none => false

theorem isRaw_eq (t : Ty) : c.isRaw t = (t.args.isEmpty && c.isGeneric t) := rfl

theorem isGeneric_of_digest {t u : Ty} (same : t.digest? = u.digest?) : c.isGeneric t = c.isGeneric u := by
  unfold isGeneric
  rw [same]

/-- Above the type no generic type stands without arguments or with two different lists of them. -/
structure Uniform (c : Catalog H) (t : Ty) : Prop where
  notRaw : ∀ s ∈ c.hierarchy t, c.isRaw s = false
  single : ∀ s ∈ c.hierarchy t, ∀ s' ∈ c.hierarchy t, s.erase = s'.erase → c.isGeneric s = true → s.args = s'.args

/-- Besides, only generic types have arguments. -/
structure Regular (c : Catalog H) (t : Ty) : Prop extends c.Uniform t where
  applied : ∀ s ∈ c.hierarchy t, s.args ≠ [] → c.isGeneric s = true

instance (t : Ty) : Decidable (c.Uniform t) :=
  decidable_of_iff ((∀ s ∈ c.hierarchy t, c.isRaw s = false) ∧ ∀ s ∈ c.hierarchy t, ∀ s' ∈ c.hierarchy t,
      s.erase = s'.erase → c.isGeneric s = true → s.args = s'.args)
    ⟨fun h => ⟨h.1, h.2⟩, fun h => ⟨h.notRaw, h.single⟩⟩

instance (t : Ty) : Decidable (c.Regular t) :=
  decidable_of_iff (c.Uniform t ∧ ∀ s ∈ c.hierarchy t, s.args ≠ [] → c.isGeneric s = true)
    ⟨fun h => ⟨h.1, h.2⟩, fun h => ⟨h.toUniform, h.applied⟩⟩

/-- The names tell the types of the catalog apart by their digests. -/
structure Separates (c : Catalog H) (names : Set String) : Prop where
  injective : Set.InjOn Digest.ofName names
  object : "Object" ∈ names
  registered : ∀ x ∈ c.shape, ∀ s ∈ x.2, s.Named names

theorem Separates.hierarchy_named (separates : c.Separates names) (ordered : c.Ordered) {t : Ty}
    (named : t.Named names) : ∀ s ∈ c.hierarchy t, s.Named names := by
  refine hierarchy_induction named ?_
  intro t _ u above
  obtain ⟨_, rfl | ⟨d, s, found, member, rfl⟩⟩ := mem_supertypes above
  · exact separates.object
  · obtain ⟨_, _, found⟩ := Option.bind_eq_some_iff.mp found
    have entry := mem_shape (find?_mem found).1
    obtain ⟨_, _, _, digest⟩ := ordered.supertype entry member
    rw [← Ty.erase_named, Ty.substitute_erase t.args digest, Ty.erase_named]
    exact separates.registered _ entry s member

/-- Types of one digest have types of the same digests above them, with the same arguments if they have so
themselves. -/
theorem above_of_digest (ordered : c.Ordered) {t u s : Ty} (nominal : t.isNominal = true)
    (nominal' : u.isNominal = true) (same : t.digest? = u.digest?) (sameObject : t.isObject = u.isObject)
    (member : s ∈ c.hierarchy u) (proper : s.isNominal = true) :
    ∃ s' ∈ c.hierarchy t, s'.isNominal = true ∧ s'.digest? = s.digest? ∧ (t.args = u.args → s'.args = s.args) := by
  obtain ⟨reference, notNull, _⟩ := Ty.isNominal_spec nominal
  obtain ⟨reference', notNull', _⟩ := Ty.isNominal_spec nominal'
  rcases ((mem_hierarchy ordered).mp member).cases_head with rfl | ⟨b, above, reached⟩
  · exact ⟨t, mem_hierarchy_self ordered t, nominal, same, id⟩
  · have onward {b' : Ty} (above' : b' ∈ c.supertypes t) {s' : Ty} (reached' : s' ∈ c.hierarchy b') :
        s' ∈ c.hierarchy t := by
      have higher := (mem_hierarchy ordered).mp reached'
      exact (mem_hierarchy ordered).mpr (.head above' higher)
    have reached := (mem_hierarchy ordered).mpr reached
    by_cases sameArgs : t.args = u.args
    · have sameSupertypes : c.supertypes t = c.supertypes u := by
        unfold supertypes
        rw [same, sameObject, reference, reference', notNull, notNull', sameArgs]
      exact ⟨s, onward (sameSupertypes ▸ above) reached, proper, rfl, fun _ => rfl⟩
    · have erased : b.erase ∈ (c.supertypes t).map Ty.erase := by
        rw [supertypes_of_digest ordered same sameObject (reference.trans reference'.symm)
          (notNull.trans notNull'.symm)]
        exact List.mem_map_of_mem above
      obtain ⟨b', above', sameName⟩ := List.mem_map.mp erased
      obtain ⟨s', reached', sameName'⟩ := hierarchy_erase ordered sameName.symm reached
      have digest : s'.digest? = s.digest? := by rw [← s'.erase_digest?, sameName', s.erase_digest?]
      refine ⟨s', onward above' reached', ?_, digest, fun h => absurd h sameArgs⟩
      rw [Ty.isNominal_iff] at proper ⊢
      rw [digest, ← s'.erase_isPrimitive, sameName', s.erase_isPrimitive]
      exact proper

section Regular

variable {t u s : Ty}

theorem Regular.args_eq_nil (regular : c.Regular t) (member : s ∈ c.hierarchy t) :
    s.args = [] ↔ c.isGeneric s = false := by
  constructor
  · intro none
    have notRaw := regular.notRaw s member
    simpa [isRaw_eq, none] using notRaw
  · intro plain
    by_cases applied : s.args = []
    · exact applied
    · rw [regular.applied s member applied] at plain
      cases plain

/-- One digest occurs with one list of arguments. -/
theorem Regular.args_eq (regular : c.Regular t) (separates : c.Separates names) (ordered : c.Ordered)
    (named : t.Named names) (member : s ∈ c.hierarchy t) {s' : Ty} (member' : s' ∈ c.hierarchy t)
    (same : s.digest? = s'.digest?) : s.args = s'.args := by
  have sameGeneric := isGeneric_of_digest (c := c) same
  have first := regular.args_eq_nil member
  have second := regular.args_eq_nil member'
  cases generic : c.isGeneric s with
  | false => rw [first.mpr generic, second.mpr (sameGeneric ▸ generic)]
  | true =>
    have applied : s.args ≠ [] := fun none => by simp [first.mp none] at generic
    have applied' : s'.args ≠ [] := fun none => by simp [sameGeneric, second.mp none] at generic
    have above := separates.hierarchy_named ordered named s member
    have above' := separates.hierarchy_named ordered named s' member'
    have erased := Ty.erase_of_digest separates.injective above above' applied applied' same
    exact regular.single s member s' member' erased generic

/-- Arguments that fit each other are the same, as none are left out. -/
theorem Regular.args_of_fit (regular : c.Regular t) (regular' : c.Regular u) (ordered : c.Ordered)
    (member : s ∈ c.hierarchy t) (same : s.digest? = u.digest?)
    (fit : u.args = [] ∨ s.args = [] ∨ s.args = u.args) : s.args = u.args := by
  have sameGeneric := isGeneric_of_digest (c := c) same
  have first := regular.args_eq_nil member
  have second := regular'.args_eq_nil (mem_hierarchy_self ordered u)
  rcases fit with none | none | equal
  · rw [none, first, sameGeneric]
    exact second.mp none
  · rw [none, eq_comm, second, ← sameGeneric]
    exact first.mp none
  · exact equal

end Regular

/-- Why one type is below another, where they are not both arrays. -/
theorem isSubtype_elim {t u : Ty} (notArrays : (t.isArray && u.isArray) = false) (sub : c.isSubtype t u = true) :
    t = u ∨ t.isReference = true ∧ u.isReference = true ∧ (u.isObject = true ∨ t.isNull = true ∨
      t.isArray = false ∧ u.isNominal = true ∧ ∃ s ∈ c.hierarchy t, s.isNominal = true ∧ s.digest? = u.digest? ∧
        (c.isRaw t = true ∨ u.args = [] ∨ s.args = [] ∨ s.args = u.args)) := by
  rw [isSubtype_of_not_array notArrays] at sub
  split at sub
  next same => exact .inl same
  · split at sub
    · cases sub
    next references =>
      simp only [Bool.or_eq_true, Bool.not_eq_true', not_or, Bool.not_eq_false] at references
      refine .inr ⟨references.1, references.2, ?_⟩
      split at sub
      next top => exact (Bool.or_eq_true_iff.mp top).imp_right .inl
      · split at sub
        · cases sub
        next noArray =>
          simp only [Bool.or_eq_true, not_or, Bool.not_eq_true] at noArray
          unfold isDeclaredSubtype at sub
          split at sub
          · cases sub
          next digest isDigest =>
            split at sub
            · cases sub
            next s found =>
              obtain ⟨member, sameDigest, proper⟩ := findSupertype?_spec found
              have nominal : s.isNominal = true := Ty.isNominal_iff.mpr ⟨by simp [sameDigest], proper⟩
              have nominal' : u.isNominal = true := by
                refine Ty.isNominal_iff.mpr ⟨by simp [isDigest], ?_⟩
                cases u <;> first | rfl | cases references.2
              refine .inr (.inr ⟨noArray.1, nominal', s, member, nominal, sameDigest.trans isDigest.symm, ?_⟩)
              simpa [or_assoc] using sub

theorem isSubtype_object {t u : Ty} (reference : t.isReference = true) (isObject : u.isObject = true) :
    c.isSubtype t u = true := by
  obtain ⟨reference', _, notArray⟩ := Ty.isNominal_spec (Ty.isNominal_of_isObject isObject)
  rw [isSubtype_of_not_array (by simp [notArray])]
  simp [reference, reference', isObject]

theorem isSubtype_null {u : Ty} (reference : u.isReference = true) : c.isSubtype .null u = true := by
  have nullReference : Ty.null.isReference = true := rfl
  have isNull : Ty.null.isNull = true := rfl
  rw [isSubtype_of_not_array rfl]
  simp [reference, nullReference, isNull]

/-- A type is below those of the digests in its hierarchy whose arguments fit, if one digest occurs there with
one list of arguments only. -/
theorem isSubtype_of_above {t u s : Ty} (reference : t.isReference = true) (notArray : t.isArray = false)
    (nominal : u.isNominal = true) (member : s ∈ c.hierarchy t) (proper : s.isNominal = true)
    (same : s.digest? = u.digest?)
    (fit : c.isRaw t = true ∨ (∀ s' ∈ c.hierarchy t, s'.digest? = s.digest? → s'.args = s.args) ∧
      (u.args = [] ∨ s.args = [] ∨ s.args = u.args)) : c.isSubtype t u = true := by
  obtain ⟨reference', _, notArray'⟩ := Ty.isNominal_spec nominal
  obtain ⟨known, notPrimitive⟩ := Ty.isNominal_iff.mp proper
  obtain ⟨digest, isDigest⟩ := Option.isSome_iff_exists.mp known
  have found : (c.findSupertype? t digest).isSome = true := by
    rw [findSupertype?, List.find?_isSome]
    exact ⟨s, member, by simp [isDigest, notPrimitive]⟩
  obtain ⟨s', found⟩ := Option.isSome_iff_exists.mp found
  obtain ⟨member', isDigest', _⟩ := findSupertype?_spec found
  have declared : c.isDeclaredSubtype t u = true := by
    unfold isDeclaredSubtype
    rw [← same, isDigest]
    simp only [found, Bool.or_eq_true, List.isEmpty_iff, decide_eq_true_eq, or_assoc]
    rcases fit with isRaw | ⟨single, fit⟩
    · exact .inl isRaw
    · rw [single s' member' (isDigest'.trans isDigest.symm)]
      exact .inr fit
  rw [isSubtype_of_not_array (by simp [notArray])]
  simp [reference, reference', notArray, notArray', declared]

/-- Only `Object` is above `Object`. -/
theorem Separates.object_above (separates : c.Separates names) {t u : Ty} (named : t.Named names)
    (named' : u.Named names) (isObject : t.isObject = true) (sub : c.isSubtype t u = true) : u.isObject = true := by
  have nominal := Ty.isNominal_of_isObject isObject
  obtain ⟨_, notNull, notArray⟩ := Ty.isNominal_spec nominal
  rcases isSubtype_elim (by simp [notArray]) sub with rfl | ⟨_, _, top | isNull | found⟩
  · exact isObject
  · exact top
  · simp [notNull] at isNull
  · obtain ⟨_, nominal', s, member, _, same, _⟩ := found
    cases t with
    | declared n args =>
      obtain rfl : n = "Object" := by simpa [Ty.isObject, Ty.isNamed] using isObject
      rw [hierarchy_object member] at same
      rw [← Ty.isObject_of_digest separates.injective named named' nominal nominal' same]
      rfl
    | _ => cases isObject

/-- From a type with a regular hierarchy, or one that stands without its arguments, subtyping leads on through
types with a regular hierarchy. -/
theorem isSubtype_trans_nominal (ordered : c.Ordered) (separates : c.Separates names) {t u w : Ty}
    (named : t.Named names) (named' : u.Named names) (named'' : w.Named names) (notArray : t.isArray = false)
    (regular : c.isRaw t = true ∨ c.Regular t) (regular' : c.Regular u) (first : c.isSubtype t u = true)
    (second : c.isSubtype u w = true) : c.isSubtype t w = true := by
  rcases isSubtype_elim (by simp [notArray]) first with rfl | ⟨reference, reference', above⟩
  · exact second
  rcases above with isObject | isNull | ⟨_, nominal', s, member, proper, same, fit⟩
  · exact isSubtype_object reference (separates.object_above named' named'' isObject second)
  · cases t with
    | null => exact isSubtype_null (isReference_of_isSubtype reference' second)
    | _ => cases isNull
  obtain ⟨_, notNull', notArray'⟩ := Ty.isNominal_spec nominal'
  rcases isSubtype_elim (by simp [notArray']) second with rfl | ⟨_, _, above'⟩
  · exact first
  rcases above' with isObject | isNull | ⟨_, nominal'', r, member', proper', same', fit'⟩
  · exact isSubtype_object reference isObject
  · simp [notNull'] at isNull
  have aboveNamed := separates.hierarchy_named ordered named s member
  have sameObject := Ty.isObject_of_digest separates.injective aboveNamed named' proper nominal' same
  -- What is found above `u` is also above the type `s` that stands for `u` above `t`.
  obtain ⟨r', higher, proper'', sameDigest, sameArgs⟩ :=
    above_of_digest ordered proper nominal' same sameObject member' proper'
  have higher' : r' ∈ c.hierarchy t := hierarchy_trans ordered member higher
  refine isSubtype_of_above reference notArray nominal'' higher' proper'' (sameDigest.trans same') ?_
  rcases regular with isRaw | regular
  · exact .inl isRaw
  · have notRaw := regular.notRaw t (mem_hierarchy_self ordered t)
    have notRaw' := regular'.notRaw u (mem_hierarchy_self ordered u)
    have arguments := regular.args_of_fit regular' ordered member same (fit.resolve_left (by simp [notRaw]))
    refine .inr ⟨fun s' member'' digest => regular.args_eq separates ordered named member'' higher' digest, ?_⟩
    rw [sameArgs arguments]
    exact fit'.resolve_left (by simp [notRaw'])

theorem isSubtype_array {a b : Ty} :
    c.isSubtype (.array a) (.array b) = true ↔ a = b ∨ a.isReference = true ∧ c.isSubtype a b = true := by
  simp [isSubtype]

/-- What is above an array is an array of a type above, or `Object`. -/
theorem isSubtype_of_array {a u : Ty} (sub : c.isSubtype (.array a) u = true) :
    u.isObject = true ∨ ∃ b, u = .array b := by
  cases u with
  | array b => exact .inr ⟨b, rfl⟩
  | _ =>
    rcases isSubtype_elim rfl sub with same | ⟨_, _, top | isNull | ⟨isArray, _⟩⟩
    · cases same
    · exact .inl top
    · cases isNull
    · cases isArray

theorem isSubtype_trans (ordered : c.Ordered) (separates : c.Separates names) {t u w : Ty} (named : t.Named names)
    (named' : u.Named names) (named'' : w.Named names) (regular : ∀ s ∈ t.layers, c.Regular s)
    (regular' : ∀ s ∈ u.layers, c.Regular s) (first : c.isSubtype t u = true) (second : c.isSubtype u w = true) :
    c.isSubtype t w = true := by
  induction t using Ty.layers.induct generalizing u w with
  | case1 a ih =>
    rcases isSubtype_of_array first with isObject | ⟨b, rfl⟩
    · exact isSubtype_object rfl (separates.object_above named' named'' isObject second)
    rcases isSubtype_of_array second with isObject | ⟨d, rfl⟩
    · exact isSubtype_object rfl isObject
    rw [isSubtype_array] at first second ⊢
    rcases first with rfl | ⟨reference, first⟩
    · exact second
    rcases second with rfl | ⟨_, second⟩
    · exact .inr ⟨reference, first⟩
    refine .inr ⟨reference, ih (u := b) (w := d) named named' named'' ?_ ?_ first second⟩
    · exact fun s member => regular s (List.mem_cons_of_mem _ member)
    · exact fun s member => regular' s (List.mem_cons_of_mem _ member)
  | case2 t notArray =>
    have noArray : t.isArray = false := by
      cases t with
      | array a => exact absurd rfl (notArray a)
      | _ => rfl
    have ownLayer {s : Ty} : s ∈ s.layers := by cases s <;> simp [Ty.layers]
    exact isSubtype_trans_nominal ordered separates named named' named'' noArray (.inr (regular t ownLayer))
      (regular' u ownLayer) first second

variable [HostObject H]

/-- What values show: scalars, or types that are declared, with a regular hierarchy or without their arguments,
where no box is found but that of the value's own kind. Arrays show what their items show. -/
inductive Conforms (c : Catalog H) (names : Set String) : Value H → Prop where
  | null : Conforms c names .null
  | array {items : List (Value H)} (each : ∀ v ∈ items, Conforms c names v) : Conforms c names (.array items)
  | plain {v : Value H} (shown : v.kind?.isSome = true ∨ ∃ n args, v.runtimeType = .declared n args)
      (named : v.runtimeType.Named names) (regular : c.isRaw v.runtimeType = true ∨ c.Regular v.runtimeType)
      (boxes : ∀ s ∈ c.hierarchy v.runtimeType, ∀ k, s.isBoxOf k = true → v.kind? = some k) : Conforms c names v

theorem isNominal_runtimeType {v : Value H}
    (shown : v.kind?.isSome = true ∨ ∃ n args, v.runtimeType = .declared n args) :
    v.isNull = false ∧ v.runtimeType.isNominal = true := by
  rcases shown with isSome | ⟨n, args, isDeclared⟩
  · obtain ⟨k, isKind⟩ := Option.isSome_iff_exists.mp isSome
    rw [Value.runtimeType_of_kind? isKind]
    cases v <;> first | exact ⟨rfl, rfl⟩ | cases isKind
  · rw [isDeclared]
    cases v <;> first | exact ⟨rfl, rfl⟩ | cases isDeclared

theorem isInstance_plain {v : Value H} (notNull : v.isNull = false) {t : Ty} (noKind : t.kind? = none)
    (noArray : t.isArray = false) : c.isInstance v t = (t.isObject || c.isSubtype v.runtimeType t) := by
  cases t with
  | primitive | boxed => cases noKind
  | array => cases noArray
  | declared n args => exact isInstance_declared notNull n args
  | _ =>
    cases v with
    | null => cases notNull
    | _ => simp [isInstance, Ty.isArray]

/-- Of a type are the values that show a type below it. -/
theorem isInstance_iff_isSubtype (separates : c.Separates names) (ordered : c.Ordered) {v : Value H}
    (shown : v.kind?.isSome = true ∨ ∃ n args, v.runtimeType = .declared n args)
    (named : v.runtimeType.Named names)
    (boxes : ∀ s ∈ c.hierarchy v.runtimeType, ∀ k, s.isBoxOf k = true → v.kind? = some k) {u : Ty}
    (named' : u.Named names) (reference : u.isReference = true) :
    c.isInstance v u = true ↔ c.isSubtype v.runtimeType u = true := by
  obtain ⟨notNull, nominal⟩ := isNominal_runtimeType shown
  obtain ⟨reference', noNull, noArray⟩ := Ty.isNominal_spec nominal
  cases u with
  | void | primitive => cases reference
  | null | var =>
    rw [isInstance_plain notNull rfl rfl]
    simp [Ty.isObject, Ty.isNamed]
  | array a =>
    have notInstance : c.isInstance v (.array a) ≠ true := by
      intro h
      obtain ⟨items, rfl, _⟩ := (isInstance_array v a).mp h
      cases noArray
    have notBelow : c.isSubtype v.runtimeType (.array a) ≠ true := by
      intro sub
      rcases isSubtype_elim (by simp [noArray]) sub with same | ⟨_, _, top | isNull | ⟨_, nominal', _⟩⟩
      · simp [same, Ty.isArray] at noArray
      · cases top
      · simp [noNull] at isNull
      · cases nominal'
    simp [notInstance, notBelow]
  | declared n args =>
    rw [isInstance_declared notNull, Bool.or_eq_true]
    constructor
    · rintro (isObject | sub)
      · exact isSubtype_object reference' (by simpa [Ty.isObject, Ty.isNamed] using isObject)
      · exact sub
    · exact .inr
  | boxed k =>
    rw [isInstance_boxed, decide_eq_true_eq]
    constructor
    · intro isKind
      rw [Value.runtimeType_of_kind? isKind, isSubtype_of_not_array rfl]
      simp
    · intro sub
      have ownBox {s : Ty} (member : s ∈ c.hierarchy v.runtimeType) (proper : s.isNominal = true)
          (same : s.digest? = some (.ofName k.boxName)) : v.kind? = some k := by
        have aboveNamed := separates.hierarchy_named ordered named s member
        exact boxes s member k (Ty.isBoxOf_of_digest separates.injective aboveNamed named' proper same)
      rcases isSubtype_elim (by simp [noArray]) sub with same | ⟨_, _, top | isNull | found⟩
      · exact ownBox (mem_hierarchy_self ordered _) nominal (by rw [same]; rfl)
      · cases top
      · simp [noNull] at isNull
      · obtain ⟨_, _, s, member, proper, same, _⟩ := found
        exact ownBox member proper same

/-- Values of a type are values of the types above it. -/
theorem isInstance_of_isSubtype (ordered : c.Ordered) (separates : c.Separates names) {v : Value H} {t u : Ty}
    (conforms : c.Conforms names v) (named : t.Named names) (named' : u.Named names)
    (regular : ∀ s ∈ t.layers, c.Regular s) (h : c.isInstance v t = true) (sub : c.isSubtype t u = true) :
    c.isInstance v u = true := by
  induction t using Ty.layers.induct generalizing v u with
  | case1 a ih =>
    have notNull : v.isNull = false := by cases v <;> first | rfl | simp at h
    rcases isSubtype_of_array sub with isObject | ⟨b, rfl⟩
    · cases u with
      | declared n args =>
        rw [isInstance_declared notNull]
        exact Bool.or_eq_true_iff.mpr (.inl isObject)
      | _ => cases isObject
    obtain ⟨items, rfl, all⟩ := (isInstance_array v a).mp h
    refine (isInstance_array _ b).mpr ⟨items, rfl, fun x member => (all x member).imp_right fun isItem => ?_⟩
    have each : c.Conforms names x := by
      cases conforms with
      | array each => exact each x member
      | plain shown => cases (isNominal_runtimeType shown).2
    rcases isSubtype_array.mp sub with rfl | ⟨_, sub⟩
    · exact isItem
    · exact ih (u := b) each named named' (fun s inner => regular s (List.mem_cons_of_mem _ inner)) isItem sub
  | case2 t notArray =>
    have noArray : t.isArray = false := by
      cases t with
      | array a => exact absurd rfl (notArray a)
      | _ => rfl
    have ownLayer : t ∈ t.layers := by cases t <;> simp [Ty.layers]
    by_cases same : t = u
    · exact same ▸ h
    obtain ⟨reference, reference', above⟩ := (isSubtype_elim (by simp [noArray]) sub).resolve_left same
    cases conforms with
    | null => simp at h
    | @array items each =>
      -- Besides arrays, an array is an instance of `Object` only.
      have noKind : t.kind? = none := by
        cases t <;> first | rfl | simp [Value.kind?] at h
      have isObject : t.isObject = true := by
        rw [isInstance_plain rfl noKind noArray, Bool.or_eq_true] at h
        rcases h with isObject | sub
        · exact isObject
        · refine (isSubtype_of_array sub).resolve_right ?_
          rintro ⟨b, rfl⟩
          cases noArray
      have isObject' := separates.object_above named named' isObject sub
      cases u with
      | declared n args =>
        rw [isInstance_declared rfl]
        exact Bool.or_eq_true_iff.mpr (.inl isObject')
      | _ => cases isObject'
    | plain shown shownNamed shownRegular boxes =>
      obtain ⟨_, nominal⟩ := isNominal_runtimeType shown
      obtain ⟨_, _, plainArray⟩ := Ty.isNominal_spec nominal
      rw [isInstance_iff_isSubtype separates ordered shown shownNamed boxes named reference] at h
      rw [isInstance_iff_isSubtype separates ordered shown shownNamed boxes named' reference']
      exact isSubtype_trans_nominal ordered separates shownNamed named named' plainArray shownRegular
        (regular t ownLayer) h sub

theorem Registered.foldlM {types : List (TypeDef H)} (registered : c.Registered fun _ => True)
    (succeeds : (types.foldlM addType c).toOption.isSome = true) :
    ((types.foldlM addType c).toOption.getD .empty).Registered fun _ => True := by
  induction types generalizing c with
  | nil => exact registered
  | cons d rest ih =>
    rw [List.foldlM_cons] at succeeds ⊢
    cases added : c.addType d with
    | error e => simp [added, Except.toOption, bind, Except.bind] at succeeds
    | ok c' =>
      rw [added] at succeeds
      rw [ok_bind] at succeeds ⊢
      exact ih (.type registered trivial added) succeeds

/-- Subtyping is a preorder on the types with regular hierarchies, and values of a type are values of the types
above it. -/
theorem isSubtype_preorder (registered : c.Registered fun _ => True) (separates : c.Separates names) :
    (∀ t, c.isSubtype t t = true) ∧
    (∀ t u w : Ty, t.Named names → u.Named names → w.Named names → (∀ s ∈ t.layers, c.Regular s) →
      (∀ s ∈ u.layers, c.Regular s) → c.isSubtype t u = true → c.isSubtype u w = true → c.isSubtype t w = true) ∧
    ∀ (v : Value H) (t u : Ty), c.Conforms names v → t.Named names → u.Named names →
      (∀ s ∈ t.layers, c.Regular s) → c.isInstance v t = true → c.isSubtype t u = true →
      c.isInstance v u = true := by
  have ordered := registered.ordered
  refine ⟨?_, ?_, ?_⟩
  · intro t
    cases t <;> simp [isSubtype]
  · intro t u w named named' named'' regular regular' first second
    exact isSubtype_trans ordered separates named named' named'' regular regular' first second
  · intro v t u conforms named named' regular h sub
    exact isInstance_of_isSubtype ordered separates conforms named named' regular h sub

end Catalog

section Prices

open Catalog

def moneyType : TypeDef Record where
  name := "Money"
  supertypes := [.comparableTo (.ofName "Money")]

def priceType : TypeDef Record where
  name := "Price"
  supertypes := [.ofName "Money"]

def priceCatalog : Catalog Record :=
  ([moneyType, priceType].foldlM addType builtin).toOption.getD .empty

def priceNames : List String :=
  ["Object", "CharSequence", "Comparable", "String", "Number", "Boolean", "Integer", "Long", "Float", "Double",
    "Collection", "Money", "Price"]

theorem priceCatalog_registered : priceCatalog.Registered fun _ => True :=
  Registered.foldlM .builtin (by decide +kernel)

theorem priceCatalog_separates : priceCatalog.Separates {n | n ∈ priceNames} where
  injective n member m member' same := by
    have different : (priceNames.map Digest.ofName).Nodup := by decide +kernel
    exact List.inj_on_of_nodup_map different member member' same
  object := by decide
  registered := by decide +kernel

/-- A price and a missing one. -/
def prices : Value Record := .array [.object (.mk (.ofName "Price") 0 [] none), .null]

theorem priceCatalog_isSubtype_preorder :
    priceCatalog.isSubtype (.array (.ofName "Price")) (.array (.comparableTo (.ofName "Money"))) = true ∧
      priceCatalog.isInstance prices (.array (.comparableTo (.ofName "Money"))) = true := by
  obtain ⟨_, transitive, closed⟩ := isSubtype_preorder priceCatalog_registered priceCatalog_separates
  have below : priceCatalog.isSubtype (.array (.ofName "Price")) (.array (.ofName "Money")) = true := by
    decide +kernel
  have above : priceCatalog.isSubtype (.array (.ofName "Money")) (.array (.comparableTo (.ofName "Money"))) = true := by
    decide +kernel
  have ofPrices : priceCatalog.isInstance prices (.array (.ofName "Price")) = true := by decide +kernel
  have regular : ∀ s ∈ (Ty.array (.ofName "Price")).layers, priceCatalog.Regular s := by decide +kernel
  have regular' : ∀ s ∈ (Ty.array (.ofName "Money")).layers, priceCatalog.Regular s := by decide +kernel
  have boxless : ∀ s ∈ priceCatalog.hierarchy (.ofName "Price"), ∀ k ∈ Kind.all, s.isBoxOf k = false := by
    decide +kernel
  have conforms : priceCatalog.Conforms {n | n ∈ priceNames} prices := by
    refine .array (List.forall_mem_cons.mpr ⟨?_, by simpa using Conforms.null⟩)
    refine .plain (.inr ⟨"Price", [], rfl⟩) (by decide) (.inr (regular _ (by decide))) ?_
    intro s member k isBox
    have notBox := boxless s member k (by cases k <;> decide)
    rw [notBox] at isBox
    cases isBox
  have whole := transitive _ _ _ (by decide) (by decide) (by decide) regular regular' below above
  exact ⟨whole, closed _ _ _ conforms (by decide) (by decide) regular ofPrices whole⟩

/-- A box below another one, texts that are ordered in two ways, and a type without parameters. -/
def looseTypes : List (TypeDef Record) :=
  [{ name := "Long" }, { name := "Integer", supertypes := [.ofName "Long"] },
    { name := "Comparable", parameters := ["T"] }, { name := "Text", supertypes := [.comparableTo (.ofName "Text")] },
    { name := "String", supertypes := [.ofName "Text", .comparableTo .string] }, { name := "Tag" }]

def looseCatalog : Catalog Record :=
  (looseTypes.foldlM addType .empty).toOption.getD .empty

def looseNames : List String := ["Object", "Long", "Integer", "Comparable", "Text", "String", "Tag"]

theorem looseCatalog_not_closed : looseCatalog.Registered (fun _ => True) ∧
    looseCatalog.Separates {n | n ∈ looseNames} ∧
    (∃ t u w : Ty, (∀ x ∈ [t, u, w], x.Named {n | n ∈ looseNames} ∧ x.isReference = true ∧
        ∀ s ∈ x.layers, looseCatalog.Uniform s) ∧
      looseCatalog.isSubtype t u = true ∧ looseCatalog.isSubtype u w = true ∧
      looseCatalog.isSubtype t w = false) ∧
    (∃ t u : Ty, (∀ x ∈ [t, u], x.Named {n | n ∈ looseNames} ∧ x.isReference = true ∧
        ∀ s ∈ x.layers, looseCatalog.Uniform s) ∧
      looseCatalog.isInstance (.int 3) t = true ∧ looseCatalog.isSubtype t u = true ∧
      looseCatalog.isInstance (.int 3) u = false) ∧
    ∃ t u : Ty, (∀ x ∈ [t, u], x.Named {n | n ∈ looseNames} ∧ x.isReference = true ∧
        ∀ s ∈ x.layers, looseCatalog.Uniform s) ∧
      looseCatalog.isInstance (.string "a") t = true ∧ looseCatalog.isSubtype t u = true ∧
      looseCatalog.isInstance (.string "a") u = false := by
  refine ⟨?_, ?_, ⟨.declared "Tag" [.string], .ofName "Tag", .declared "Tag" [.boxed .int], ?_⟩,
    ⟨.boxed .int, .boxed .long, ?_⟩, ⟨.ofName "Text", .comparableTo (.ofName "Text"), ?_⟩⟩
  · exact Registered.foldlM .empty (by decide +kernel)
  · refine ⟨?_, by decide, by decide +kernel⟩
    intro n member m member' same
    have different : (looseNames.map Digest.ofName).Nodup := by decide +kernel
    exact List.inj_on_of_nodup_map different member member' same
  · decide +kernel
  · decide +kernel
  · decide +kernel

end Prices
end TypedExpr
