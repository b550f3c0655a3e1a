import Mathlib.Data.Set.Function
import TypedExpr.Operation.Access
import TypedExpr.Operation.Conversion
import TypedExpr.Proofs.Hierarchy
/-!
# Values of a static type

`Inhabits` says which values an expression of a static type may have. Conversions lead from values of their
source to values of their target, as long as different types go by different digests: `conversion_inhabits`.
-/

namespace TypedExpr

open Operation

variable {H : Type} [HostObject H]

omit [HostObject H] in
theorem Value.eq_null {v : Value H} (isNull : v.isNull = true) : v = .null := by
  cases v <;> first | rfl | cases isNull

theorem Value.runtimeType_of_kind? {v : Value H} {k : Kind} (isKind : v.kind? = some k) :
    v.runtimeType = .boxed k := by
  cases v <;> cases isKind <;> rfl

/-- The value may occur as one of the static type. Arguments of generic types are not looked at. -/
def Catalog.Inhabits (c : Catalog H) : Ty → Value H → Prop
  | .void, _ => True
  | .null, v => v.isNull = true
  | .primitive k, v => c.isInstance v (.primitive k) = true
  | t, v => v.isNull = true ∨ c.isInstance v t.erase = true

/-- The names of primitives and boxes. -/
def isReserved (n : String) : Bool := (Kind.ofName? n).isSome || (Kind.ofBoxName? n).isSome

/-- A declared type, or an array of such, goes by one of the names, which is not that of a primitive or box. -/
def Ty.Within (names : Set String) : Ty → Prop
  | .declared n _ => n ∈ names ∧ isReserved n = false
  | .array c => c.Within names
  | _ => True

instance Ty.decidableWithin (names : List String) : (t : Ty) → Decidable (t.Within {n | n ∈ names})
  | .declared n _ => inferInstanceAs (Decidable (n ∈ names ∧ isReserved n = false))
  | .array c => Ty.decidableWithin names c
  | .void | .null | .primitive _ | .boxed _ | .var _ => .isTrue trivial

omit [HostObject H] in
@[simp] theorem Ty.erase_within {names : Set String} (t : Ty) : t.erase.Within names ↔ t.Within names := by
  induction t using Ty.erase.induct with
  | case1 n args => rfl
  | case2 component ih => exact ih
  | case3 t notDeclared notArray =>
    cases t with
    | declared n args => exact absurd rfl (notDeclared n args)
    | array component => exact absurd rfl (notArray component)
    | _ => rfl

/-- The names of types that values have by themselves. -/
def intrinsicNames : List String :=
  ["Object", "String", "List", "Map"] ++ Kind.all.map Kind.name ++ Kind.all.map Kind.boxName

namespace Catalog

variable {c : Catalog H}

@[simp] theorem isInstance_null (t : Ty) : c.isInstance (.null : Value H) t = false := by
  cases t <;> rfl

@[simp] theorem isInstance_primitive (v : Value H) (k : Kind) :
    c.isInstance v (.primitive k) = decide (v.kind? = some k) := by
  cases v <;> rfl

@[simp] theorem isInstance_boxed (v : Value H) (k : Kind) :
    c.isInstance v (.boxed k) = decide (v.kind? = some k) := by
  cases v <;> rfl

theorem allInstances_iff (items : List (Value H)) (t : Ty) :
    c.allInstances items t = true ↔ ∀ v ∈ items, v.isNull = true ∨ c.isInstance v t = true := by
  induction items with
  | nil => simp [allInstances]
  | cons v rest ih => simp [allInstances, ih]

theorem isInstance_array (v : Value H) (t : Ty) :
    c.isInstance v (.array t) = true ↔
      ∃ items, v = .array items ∧ ∀ x ∈ items, x.isNull = true ∨ c.isInstance x t = true := by
  cases v <;> simp [isInstance, allInstances_iff, Ty.isObject, Ty.isNamed, Ty.isArray]

theorem isInstance_declared {v : Value H} (notNull : v.isNull = false) (n : String) (args : List Ty) :
    c.isInstance v (.declared n args) = (n == "Object" || c.isSubtype v.runtimeType (.declared n args)) := by
  cases v <;> simp_all [isInstance, Ty.isObject, Ty.isNamed, Ty.isArray, Value.isNull]

omit [HostObject H] in
theorem isSubtype_of_not_array {sub sup : Ty} (notArray : (sub.isArray && sup.isArray) = false) :
    c.isSubtype sub sup =
      if sub = sup then true
      else if !sub.isReference || !sup.isReference then false
      else if sup.isObject || sub.isNull then true
      else if sub.isArray || sup.isArray then false
      else c.isDeclaredSubtype sub sup := by
  cases sub <;> cases sup <;> first | rfl | cases notArray

/-- The names tell types apart, by their digests too: those that occur in the catalog, those of the host's
objects and those that values have by themselves. Objects of the host are of declared types that are no boxes. -/
structure Distinct (c : Catalog H) (names : Set String) : Prop where
  injective : Set.InjOn Digest.ofName names
  intrinsic : ∀ n ∈ intrinsicNames, n ∈ names
  registered : ∀ x ∈ c.shape, x.1 ∈ names ∧ ∀ s ∈ x.2, s.Within names
  hosts : ∀ o : H, (∃ n args, HostObject.typeOf o = .declared n args) ∧ (HostObject.typeOf o).Within names ∧
    ∀ s ∈ c.hierarchy (HostObject.typeOf o), s.isBoxed = false

omit [HostObject H] in
theorem isReserved_name (k : Kind) : isReserved k.name = true := by cases k <;> rfl

omit [HostObject H] in
theorem isReserved_boxName (k : Kind) : isReserved k.boxName = true := by cases k <;> rfl

/-- A catalog starts from nothing or from the builtin types. -/
theorem Registered.shape_cases (registered : c.Registered fun n => isReserved n = false) :
    (∀ x ∈ c.shape, isReserved x.1 = false) ∨ ∃ rest, c.shape = (Catalog.builtin : Catalog H).shape ++ rest ∧
      ∀ x ∈ rest, isReserved x.1 = false ∧ ∀ y ∈ (Catalog.builtin : Catalog H).shape, x.1 ≠ y.1 := by
  induction registered with
  | empty => exact .inl (by simp [shape, Catalog.empty])
  | builtin => exact .inr ⟨[], by simp⟩
  | type _ isAllowed added ih =>
    obtain ⟨same, new, _⟩ := addType_spec added
    rw [same]
    rcases ih with plain | ⟨rest, extends_, others⟩
    · exact .inl (List.forall_mem_append.mpr ⟨plain, by simpa using isAllowed⟩)
    · refine .inr ⟨rest ++ [_], by rw [extends_, List.append_assoc], ?_⟩
      refine List.forall_mem_append.mpr ⟨others, ?_⟩
      simp only [List.mem_singleton, forall_eq]
      refine ⟨isAllowed, fun y member sameName => ?_⟩
      have known := extends_ ▸ List.mem_append_left rest member
      obtain ⟨e, isRegistered, rfl⟩ := List.mem_map.mp known
      have unknown := Option.not_isSome_iff_eq_none.mp (Bool.eq_false_iff.mp new)
      have free := List.find?_eq_none.mp unknown e isRegistered
      simp [TypeDef.digest, sameName] at free
  | method _ added ih =>
    rw [addMethod_shape added]
    exact ih

namespace Distinct

variable {names : Set String}

theorem eq_declared (distinct : c.Distinct names) {s : Ty} {n : String} (within : s.Within names)
    (isName : n ∈ names) (free : isReserved n = false) (digest : s.digest? = some (.ofName n)) :
    ∃ args, s = .declared n args := by
  have reserved {m : String} (member : m ∈ names) (same : Digest.ofName m = .ofName n) : isReserved m = false :=
    distinct.injective member isName same ▸ free
  cases s with
  | declared m args =>
    cases distinct.injective within.1 isName (Option.some.inj digest)
    exact ⟨args, rfl⟩
  | boxed k =>
    have impossible := reserved (distinct.intrinsic _ (by cases k <;> decide)) (Option.some.inj digest)
    rw [isReserved_boxName] at impossible
    cases impossible
  | primitive k =>
    have impossible := reserved (distinct.intrinsic _ (by cases k <;> decide)) (Option.some.inj digest)
    rw [isReserved_name] at impossible
    cases impossible
  | _ => cases digest

theorem eq_boxed (distinct : c.Distinct names) {s : Ty} {k : Kind} (within : s.Within names)
    (notPrimitive : s.isPrimitive = false) (digest : s.digest? = some (.ofName k.boxName)) : s = .boxed k := by
  have isName : k.boxName ∈ names := distinct.intrinsic _ (by cases k <;> decide)
  cases s with
  | declared m args =>
    have impossible := distinct.injective within.1 isName (Option.some.inj digest) ▸ within.2
    rw [isReserved_boxName] at impossible
    cases impossible
  | boxed l =>
    have same := distinct.injective (distinct.intrinsic _ (by cases l <;> decide)) isName (Option.some.inj digest)
    cases k <;> cases l <;> first | rfl | exact absurd same (by decide)
  | primitive => cases notPrimitive
  | _ => cases digest

theorem object_within (distinct : c.Distinct names) : Ty.object.Within names :=
  ⟨distinct.intrinsic _ (by decide), by decide⟩

theorem supertype_within (distinct : c.Distinct names) (ordered : c.Ordered) {t u : Ty}
    (above : u ∈ c.supertypes t) : u.Within names := by
  obtain ⟨_, rfl | ⟨d, s, found, member, rfl⟩⟩ := mem_supertypes above
  · exact distinct.object_within
  · obtain ⟨_, _, found⟩ := Option.bind_eq_some_iff.mp found
    have entry := mem_shape (find?_mem found).1
    obtain ⟨_, _, _, digest⟩ := ordered.supertype entry member
    rw [← Ty.erase_within, Ty.substitute_erase t.args digest, Ty.erase_within]
    exact (distinct.registered _ entry).2 s member

theorem hierarchy_within (distinct : c.Distinct names) (ordered : c.Ordered) {t : Ty} (within : t.Within names) :
    ∀ s ∈ c.hierarchy t, s.Within names :=
  hierarchy_induction within fun _ _ _ above => distinct.supertype_within ordered above

end Distinct

/-- There are names of types with only such types above them, and also above boxes: no box among them. -/
theorem Registered.core {names : Set String} (registered : c.Registered fun n => isReserved n = false)
    (distinct : c.Distinct names) : ∃ core : String → Prop,
      (∀ n ∈ ["Object", "String", "List", "Map"], core n) ∧
      ∀ x ∈ c.shape, core x.1 ∨ (∃ k : Kind, x.1 = k.boxName) →
        ∀ s ∈ x.2, ∃ n args, s = .declared n args ∧ core n := by
  rcases registered.shape_cases with plain | ⟨rest, extends_, others⟩
  · refine ⟨fun n => isReserved n = false, by decide, fun x entry _ s member => ?_⟩
    obtain ⟨m, above, known, digest⟩ := registered.ordered.supertype entry member
    obtain ⟨args, rfl⟩ := distinct.eq_declared ((distinct.registered x entry).2 s member)
      (distinct.registered _ known).1 (plain _ known) digest
    exact ⟨m, args, rfl, plain _ known⟩
  · refine ⟨(· ∈ ["Object", "String", "List", "Map", "CharSequence", "Comparable", "Number", "Collection"]),
      by decide, fun x entry isCore => ?_⟩
    have isBuiltin : x ∈ (Catalog.builtin : Catalog H).shape := by
      rw [extends_] at entry
      refine (List.mem_append.mp entry).resolve_right fun isOther => ?_
      rcases isCore with isCore | ⟨k, isBox⟩
      · have same := (others x isOther).2
        simp only [builtin_shape, List.forall_mem_cons] at same
        simp_all
      · have free := (others x isOther).1
        rw [isBox, isReserved_boxName] at free
        cases free
    clear isCore entry
    revert x
    simp [builtin_shape, Ty.charSequence, Ty.comparableTo, Ty.number, Ty.ofName]

/-- Above the type that a value shows there is no box, unless the value is a number or a truth value itself. -/
theorem Registered.boxless {names : Set String} (registered : c.Registered fun n => isReserved n = false)
    (distinct : c.Distinct names) {v : Value H} {k : Kind} (member : .boxed k ∈ c.hierarchy v.runtimeType) :
    v.kind? = some k := by
  obtain ⟨core, intrinsic, below⟩ := registered.core distinct
  -- Going up from a core type or a box leads to core types.
  have up (t : Ty) (known : ∀ digest, t.digest? = some digest → ∃ n ∈ names, digest = .ofName n ∧
      (core n ∨ ∃ l : Kind, n = l.boxName)) (u : Ty) (above : u ∈ c.supertypes t) :
      ∃ n args, u = .declared n args ∧ n ∈ names ∧ core n := by
    obtain ⟨_, rfl | ⟨d, s, found, isSupertype, rfl⟩⟩ := mem_supertypes above
    · exact ⟨"Object", [], rfl, distinct.intrinsic _ (by decide), intrinsic _ (by decide)⟩
    · obtain ⟨digest, isDigest, found⟩ := Option.bind_eq_some_iff.mp found
      obtain ⟨isRegistered, sameDigest⟩ := find?_mem found
      obtain ⟨n, isName, rfl, isCore⟩ := known digest isDigest
      have entry := mem_shape isRegistered
      cases distinct.injective (distinct.registered _ entry).1 isName sameDigest
      obtain ⟨m, args, rfl, aboveCore⟩ := below _ entry isCore s isSupertype
      exact ⟨m, _, rfl, ((distinct.registered _ entry).2 _ isSupertype).1, aboveCore⟩
  have hierarchy (known : ∀ digest, v.runtimeType.digest? = some digest → ∃ n ∈ names, digest = .ofName n ∧
      (core n ∨ ∃ l : Kind, n = l.boxName)) : v.runtimeType = .boxed k := by
    have all : ∀ s ∈ c.hierarchy v.runtimeType,
        s = v.runtimeType ∨ ∃ n args, s = .declared n args ∧ n ∈ names ∧ core n := by
      refine hierarchy_induction (.inl rfl) fun s isKnown u above => .inr (up s ?_ u above)
      rcases isKnown with rfl | ⟨n, args, rfl, isName, isCore⟩
      · exact known
      · intro digest isDigest
        exact ⟨n, isName, (Option.some.inj isDigest).symm, .inl isCore⟩
    rcases all _ member with same | ⟨_, _, other, _⟩
    · exact same.symm
    · cases other
  cases v with
  | object o =>
    have free := (distinct.hosts o).2.2 _ member
    cases free
  | null | array => cases hierarchy fun _ none => nomatch none
  | bool | int | long | float | double =>
    cases hierarchy fun digest isDigest =>
      ⟨_, distinct.intrinsic _ (by decide), (Option.some.inj isDigest).symm, .inr ⟨_, rfl⟩⟩
    rfl
  | string | list | map =>
    cases hierarchy fun digest isDigest =>
      ⟨_, distinct.intrinsic _ (by decide), (Option.some.inj isDigest).symm, .inl (intrinsic _ (by decide))⟩

omit [HostObject H] in
theorem findSupertype?_spec {t s : Ty} {digest : Digest} (found : c.findSupertype? t digest = some s) :
    s ∈ c.hierarchy t ∧ s.digest? = some digest ∧ s.isPrimitive = false := by
  have matched := List.find?_some found
  simp only [Bool.and_eq_true, beq_iff_eq, Bool.not_eq_true'] at matched
  exact ⟨List.mem_of_find?_eq_some found, matched⟩

section Instances

variable {names : Set String}

theorem Distinct.runtimeType_spec (distinct : c.Distinct names) {v : Value H} (notNull : v.isNull = false) :
    v.runtimeType.isReference = true ∧ v.runtimeType.isNull = false ∧ v.runtimeType.isPrimitive = false ∧
      ∀ i, v.runtimeType ≠ .var i := by
  cases v with
  | object o =>
    obtain ⟨n, args, isDeclared⟩ := (distinct.hosts o).1
    simp [Value.runtimeType, isDeclared, Ty.isReference, Ty.isNull, Ty.isPrimitive]
  | null => cases notNull
  | _ => simp [Value.runtimeType, Ty.isReference, Ty.isNull, Ty.isPrimitive, Ty.string, Ty.ofName]

theorem Distinct.runtimeType_within (distinct : c.Distinct names) (v : Value H) : v.runtimeType.Within names := by
  cases v with
  | object o => exact (distinct.hosts o).2.1
  | array => exact distinct.object_within
  | string | list | map => exact ⟨distinct.intrinsic _ (by decide), by decide⟩
  | _ => trivial

/-- The type that a value shows at run time is below the one of the name. -/
def Shows (c : Catalog H) (v : Value H) (n : String) : Prop :=
  n = "Object" ∨ v.runtimeType.isArray = false ∧
    ∃ s ∈ c.hierarchy v.runtimeType, s.digest? = some (.ofName n) ∧ s.isPrimitive = false

theorem shows_of_isInstance (ordered : c.Ordered) (distinct : c.Distinct names) {v : Value H}
    (notNull : v.isNull = false) {n : String} {args : List Ty}
    (h : c.isInstance v (.declared n args) = true) : c.Shows v n := by
  obtain ⟨_, noNull, notPrimitive, _⟩ := distinct.runtimeType_spec notNull
  rw [isInstance_declared notNull, isSubtype_of_not_array (by simp [Ty.isArray]), Bool.or_eq_true] at h
  rcases h with isObject | sub
  · exact .inl (by simpa using isObject)
  · split at sub
    next same =>
      refine .inr ⟨by simp [same, Ty.isArray], v.runtimeType, mem_hierarchy_self ordered _, ?_, notPrimitive⟩
      rw [same, Ty.digest?]
    · split at sub
      · cases sub
      · split at sub
        next top =>
          rw [noNull, Bool.or_false] at top
          exact .inl (by simpa [Ty.isObject, Ty.isNamed] using top)
        · split at sub
          · cases sub
          next notArray =>
            unfold isDeclaredSubtype at sub
            simp only [Ty.digest?] at sub
            split at sub
            · cases sub
            next s found =>
              obtain ⟨member, digest, proper⟩ := findSupertype?_spec found
              exact .inr ⟨by simpa [Ty.isArray] using notArray, s, member, digest, proper⟩

theorem isInstance_of_shows (distinct : c.Distinct names) {v : Value H} (notNull : v.isNull = false)
    {n : String} (shown : c.Shows v n) : c.isInstance v (.declared n []) = true := by
  obtain ⟨reference, _, _, _⟩ := distinct.runtimeType_spec notNull
  rw [isInstance_declared notNull, isSubtype_of_not_array (by simp [Ty.isArray]), Bool.or_eq_true]
  rcases shown with rfl | ⟨notArray, s, member, digest, proper⟩
  · exact .inl rfl
  · refine .inr ?_
    split
    · rfl
    · have found : (c.findSupertype? v.runtimeType (.ofName n)).isSome = true := by
        rw [findSupertype?, List.find?_isSome]
        exact ⟨s, member, by simp [digest, proper]⟩
      obtain ⟨t, found⟩ := Option.isSome_iff_exists.mp found
      have sub : c.isDeclaredSubtype v.runtimeType (.declared n []) = true := by
        simp [isDeclaredSubtype, Ty.digest?, found, Ty.args]
      have notArray' : (Ty.declared n []).isArray = false := rfl
      have reference' : (Ty.declared n []).isReference = true := rfl
      simp [reference, reference', notArray, notArray', sub]

theorem isInstance_nullType (distinct : c.Distinct names) (v : Value H) : c.isInstance v .null = false := by
  cases notNull : v.isNull with
  | true =>
    rw [Value.eq_null notNull]
    exact isInstance_null _
  | false =>
    obtain ⟨_, noNull, _, _⟩ := distinct.runtimeType_spec notNull
    have other : v.runtimeType ≠ .null := fun same => by simp [same, Ty.isNull] at noNull
    have sub : c.isSubtype v.runtimeType .null = false := by
      rw [isSubtype_of_not_array (by simp [Ty.isArray])]
      simp [other, noNull, isDeclaredSubtype, Ty.digest?, Ty.isObject, Ty.isNamed]
    cases v <;> simp_all [isInstance, Ty.isObject, Ty.isNamed]

theorem isInstance_var (distinct : c.Distinct names) (v : Value H) (i : Nat) :
    c.isInstance v (.var i) = false := by
  cases notNull : v.isNull with
  | true =>
    rw [Value.eq_null notNull]
    exact isInstance_null _
  | false =>
    obtain ⟨_, noNull, _, other⟩ := distinct.runtimeType_spec notNull
    have sub : c.isSubtype v.runtimeType (.var i) = false := by
      rw [isSubtype_of_not_array (by simp [Ty.isArray])]
      simp [other i, noNull, isDeclaredSubtype, Ty.digest?, Ty.isObject, Ty.isNamed]
    cases v <;> simp_all [isInstance, Ty.isObject, Ty.isNamed]

theorem isInstance_erase (ordered : c.Ordered) (distinct : c.Distinct names) {v : Value H} {t : Ty}
    (h : c.isInstance v t = true) : c.isInstance v t.erase = true := by
  induction t using Ty.erase.induct generalizing v with
  | case1 n args =>
    cases notNull : v.isNull with
    | true => simp [Value.eq_null notNull] at h
    | false => exact isInstance_of_shows distinct notNull (shows_of_isInstance ordered distinct notNull h)
  | case2 component ih =>
    obtain ⟨items, rfl, all⟩ := (isInstance_array v component).mp h
    exact (isInstance_array _ _).mpr ⟨items, rfl, fun x member => (all x member).imp_right ih⟩
  | case3 t notDeclared notArray =>
    cases t with
    | declared n args => exact absurd rfl (notDeclared n args)
    | array component => exact absurd rfl (notArray component)
    | _ => exact h

/-- Of a declared type other than `Object` are only values with that type in the hierarchy that they show. -/
theorem declared_above (ordered : c.Ordered) (distinct : c.Distinct names) {v : Value H} {n : String}
    {args : List Ty} (within : (Ty.declared n args).Within names) (h : c.isInstance v (.declared n []) = true) :
    n = "Object" ∨ v.runtimeType.isArray = false ∧ ∃ s ∈ c.hierarchy v.runtimeType, s.erase = .declared n [] := by
  have notNull : v.isNull = false := by
    cases v <;> first | rfl | simp at h
  refine (shows_of_isInstance ordered distinct notNull h).imp_right ?_
  rintro ⟨notArray, s, member, digest, _⟩
  have above := distinct.hierarchy_within ordered (distinct.runtimeType_within v) s member
  obtain ⟨args', rfl⟩ := distinct.eq_declared above within.1 within.2 digest
  exact ⟨notArray, _, member, rfl⟩

omit [HostObject H] in
theorem hierarchy_object {args : List Ty} {s : Ty} (member : s ∈ c.hierarchy (.declared "Object" args)) :
    s = .declared "Object" args := by
  refine hierarchy_induction (P := (· = .declared "Object" args)) rfl ?_ s member
  rintro _ rfl u above
  cases (mem_supertypes above).1

/-- A type that a value shows below another one with the digest of a third makes it a value of that. -/
theorem isInstance_of_above (registered : c.Registered fun n => isReserved n = false) (distinct : c.Distinct names)
    {v : Value H} (notNull : v.isNull = false) (notArray : v.runtimeType.isArray = false) {s t : Ty}
    (member : s ∈ c.hierarchy v.runtimeType) (proper : s.isPrimitive = false) (reference : t.isReference = true)
    (digest : s.digest? = t.digest?) (isSome : s.digest?.isSome = true) : c.isInstance v t.erase = true := by
  cases t with
  | declared n args => exact isInstance_of_shows distinct notNull (.inr ⟨notArray, s, member, digest, proper⟩)
  | boxed k =>
    have within := distinct.hierarchy_within registered.ordered (distinct.runtimeType_within v) s member
    cases distinct.eq_boxed within proper digest
    simpa [Ty.erase] using registered.boxless distinct member
  | primitive => cases reference
  | void => cases reference
  | null | array | var =>
    rw [digest] at isSome
    cases isSome

omit [HostObject H] in
/-- Why one type is below another, where they are not both arrays. -/
theorem isSubtype_cases {t u : Ty} (notArray : (t.isArray && u.isArray) = false) (sub : c.isSubtype t u = true) :
    t = u ∨ u.isObject = true ∨ t.isNull = true ∨ t.isArray = false ∧ u.isReference = true ∧
      ∃ s ∈ c.hierarchy t, s.isPrimitive = false ∧ s.digest? = u.digest? ∧ s.digest?.isSome = true := by
  rw [isSubtype_of_not_array notArray] at sub
  split at sub
  next same => exact .inl same
  · split at sub
    · cases sub
    next references =>
      split at sub
      next top => exact .inr ((Bool.or_eq_true_iff.mp top).imp_right .inl)
      · split at sub
        · cases sub
        · unfold isDeclaredSubtype at sub
          split at sub
          · cases sub
          next digest isDigest =>
            split at sub
            · cases sub
            next s found =>
              obtain ⟨member, sameDigest, proper⟩ := findSupertype?_spec found
              have isReference : u.isReference = true := by simp_all
              have noArray : t.isArray = false := by simp_all
              exact .inr (.inr (.inr ⟨noArray, isReference, s, member, proper, by rw [sameDigest, isDigest],
                by simp [sameDigest]⟩))

theorem isInstance_object {v : Value H} (notNull : v.isNull = false) {t : Ty} (isObject : t.isObject = true) :
    c.isInstance v t.erase = true := by
  cases t with
  | declared n args =>
    rw [Ty.erase, isInstance_declared notNull]
    exact Bool.or_eq_true_iff.mpr (.inl isObject)
  | _ => cases isObject

/-- Values of a type are values of the types above it. -/
theorem isInstance_upcast (registered : c.Registered fun n => isReserved n = false) (distinct : c.Distinct names)
    {t u : Ty} (within : t.Within names) (within' : u.Within names) (isReference : t.isReference = true)
    (sub : c.isSubtype t u = true) {v : Value H} (h : c.isInstance v t.erase = true) :
    c.isInstance v u.erase = true := by
  have ordered := registered.ordered
  have notNull : v.isNull = false := by
    cases v <;> first | rfl | simp at h
  induction t using Ty.erase.induct generalizing u v with
  | case1 n args =>
    rcases isSubtype_cases rfl sub with rfl | isObject | isNull | ⟨_, reference, s, member, proper, digest, isSome⟩
    · exact h
    · exact isInstance_object notNull isObject
    · cases isNull
    · rcases declared_above ordered distinct within h with rfl | ⟨notArray, r, above, sameName⟩
      · rw [hierarchy_object member] at digest
        obtain ⟨args', rfl⟩ := distinct.eq_declared within' within.1 within.2 digest.symm
        exact isInstance_object notNull rfl
      · -- What is above the type by its name is above the type that the value shows.
        have sameName : (Ty.declared n args).erase = r.erase := sameName.symm
        obtain ⟨s', higher, sameName'⟩ := hierarchy_erase ordered sameName member
        have digest' : s'.digest? = s.digest? := by rw [← s'.erase_digest?, sameName', s.erase_digest?]
        have proper' : s'.isPrimitive = false := by
          rw [← s'.erase_isPrimitive, sameName', s.erase_isPrimitive, proper]
        have higher' := hierarchy_trans ordered above higher
        exact isInstance_of_above registered distinct notNull notArray higher' proper'
          reference (digest'.trans digest) (digest' ▸ isSome)
  | case2 component ih =>
    cases u with
    | array component' =>
      obtain ⟨items, rfl, all⟩ := (isInstance_array v component.erase).mp h
      refine (isInstance_array _ _).mpr ⟨items, rfl, fun x member => ?_⟩
      cases isNull : x.isNull with
      | true => exact .inl rfl
      | false =>
        have isItem := (all x member).resolve_left (by simp [isNull])
        simp only [isSubtype, Bool.or_eq_true, decide_eq_true_eq, Bool.and_eq_true] at sub
        rcases sub with rfl | ⟨isReference, sub⟩
        · exact .inr isItem
        · exact .inr (ih (u := component') within within' isReference sub isItem isNull)
    | _ =>
      rcases isSubtype_cases rfl sub with same | isObject | isNull | ⟨noArray, _⟩
      · cases same
      · exact isInstance_object notNull isObject
      · cases isNull
      · cases noArray
  | case3 t notDeclared notArray =>
    cases t with
    | boxed k =>
      have isKind : v.kind? = some k := by simpa [Ty.erase] using h
      have runtimeType := Value.runtimeType_of_kind? isKind
      rcases isSubtype_cases rfl sub with
        rfl | isObject | isNull | ⟨_, reference, s, member, proper, digest, isSome⟩
      · exact h
      · exact isInstance_object notNull isObject
      · cases isNull
      · have notArray : v.runtimeType.isArray = false := by rw [runtimeType]; rfl
        exact isInstance_of_above registered distinct notNull notArray (runtimeType ▸ member) proper
          reference digest isSome
    | null =>
      simp [Ty.erase, isInstance_nullType distinct] at h
    | var i =>
      simp [Ty.erase, isInstance_var distinct] at h
    | void | primitive => cases isReference
    | declared n args => exact absurd rfl (notDeclared n args)
    | array component => exact absurd rfl (notArray component)

theorem inhabits_null {t : Ty} (notPrimitive : t.isPrimitive = false) : c.Inhabits t .null := by
  cases t with
  | void => trivial
  | primitive => cases notPrimitive
  | null => rfl
  | _ => exact .inl rfl

theorem inhabits_of_isInstance (ordered : c.Ordered) (distinct : c.Distinct names) {t : Ty} {v : Value H}
    (h : c.isInstance v t = true) : c.Inhabits t v := by
  cases t with
  | void => trivial
  | null =>
    rw [isInstance_nullType distinct] at h
    cases h
  | primitive => exact h
  | _ => exact .inr (isInstance_erase ordered distinct h)

theorem inhabits_of_checkCast (ordered : c.Ordered) (distinct : c.Distinct names) {t : Ty} {v : Value H}
    (h : checkCast c t v = .ok ()) : c.Inhabits t v := by
  unfold checkCast at h
  split at h
  next isNull =>
    split at h
    · cases h
    next notPrimitive =>
      rw [Value.eq_null isNull]
      exact inhabits_null (by simpa using notPrimitive)
  · split at h
    next isInstance => exact inhabits_of_isInstance ordered distinct isInstance
    · cases h

theorem inhabits_object (v : Value H) {t : Ty} (isObject : t.isObject = true) : c.Inhabits t v := by
  cases isNull : v.isNull with
  | true =>
    rw [Value.eq_null isNull]
    exact inhabits_null (by cases t <;> first | rfl | cases isObject)
  | false =>
    cases t with
    | declared n args => exact .inr (isInstance_object isNull isObject)
    | _ => cases isObject

theorem inhabits_primitive {k : Kind} {v : Value H} : c.Inhabits (.primitive k) v ↔ v.kind? = some k := by
  simp [Inhabits]

theorem inhabits_boxed {k : Kind} {v : Value H} :
    c.Inhabits (.boxed k) v ↔ v.isNull = true ∨ v.kind? = some k := by
  simp [Inhabits, Ty.erase]

theorem inhabits_string (s : String) : c.Inhabits .string (.string s) := by
  refine .inr ?_
  rw [Ty.string, Ty.ofName, Ty.erase, isInstance_declared rfl]
  simp [isSubtype, Value.runtimeType, Ty.string, Ty.ofName]

omit [HostObject H] in
/-- When a value of one type is converted to another, and how. -/
inductive Converts (c : Catalog H) : Ty → Ty → Conversion → Prop where
  | identity {t : Ty} : Converts c t t .identity
  | nullToReference {t : Ty} (reference : t.isReference = true) : Converts c .null t .nullToReference
  | upcast {t u : Ty} (reference : t.isReference = true) (sub : c.isSubtype t u = true) : Converts c t u .upcast
  | boxing {k : Kind} {u : Ty} (sub : c.isSubtype (.boxed k) u = true) : Converts c (.primitive k) u (.boxing k)
  | unboxing {k : Kind} : Converts c (.boxed k) (.primitive k) (.unboxing k)
  | widening {k l : Kind} {op : Opcode} (found : k.wideningOp? l = some op) :
      Converts c (.primitive k) (.primitive l) (.widening k l)
  | unboxAndWiden {k l : Kind} {op : Opcode} (found : k.wideningOp? l = some op) :
      Converts c (.boxed k) (.primitive l) (.unboxAndWiden k l)

omit [HostObject H] in
theorem wideningOp?_of_widensTo {k l : Kind} (distinct : k ≠ l) (widens : (k.isNumeric && k.widensTo l) = true) :
    ∃ op, k.wideningOp? l = some op := by
  cases k <;> cases l <;> simp_all [Kind.wideningOp?, Kind.isNumeric, Kind.widensTo, Kind.rank?]

omit [HostObject H] in
theorem conversion?_converts {t u : Ty} {conversion : Conversion} (h : c.conversion? t u = some conversion) :
    c.Converts t u conversion := by
  unfold conversion? at h
  split at h
  next same =>
    cases h
    exact same ▸ .identity
  next different =>
    unfold conversionOfDistinct? at h
    split at h
    · cases h
    · cases h
    · split at h
      next reference =>
        cases h
        exact .nullToReference reference
      · cases h
    · split at h
      next widens =>
        cases h
        obtain ⟨op, found⟩ := wideningOp?_of_widensTo (fun same => different (congrArg Ty.primitive same)) widens
        exact .widening found
      · cases h
    · split at h
      next sub =>
        cases h
        exact .boxing sub
      · cases h
    · split at h
      next same =>
        cases h
        exact same ▸ .unboxing
      next other =>
        split at h
        next widens =>
          cases h
          obtain ⟨op, found⟩ := wideningOp?_of_widensTo other widens
          exact .unboxAndWiden found
        · cases h
    · cases h
    · split at h
      next sub =>
        cases h
        refine .upcast ?_ sub
        cases t <;> simp_all [Ty.isReference]
      · cases h

theorem inhabits_reference (distinct : c.Distinct names) {t : Ty} (reference : t.isReference = true)
    {v : Value H} : c.Inhabits t v ↔ v.isNull = true ∨ c.isInstance v t.erase = true := by
  cases t with
  | void | primitive => cases reference
  | null => simp [Inhabits, Ty.erase, isInstance_nullType distinct]
  | _ => exact .rfl

omit [HostObject H] in
theorem isReference_of_isSubtype {t u : Ty} (reference : t.isReference = true) (sub : c.isSubtype t u = true) :
    u.isReference = true := by
  cases u with
  | void | primitive =>
    rw [isSubtype_of_not_array (by simp [Ty.isArray])] at sub
    cases t <;> simp_all [Ty.isReference]
  | _ => rfl

theorem inhabits_upcast (registered : c.Registered fun n => isReserved n = false) (distinct : c.Distinct names)
    {t u : Ty} (within : t.Within names) (within' : u.Within names) (reference : t.isReference = true)
    (sub : c.isSubtype t u = true) {v : Value H} (h : c.Inhabits t v) : c.Inhabits u v := by
  rw [inhabits_reference distinct (isReference_of_isSubtype reference sub)]
  exact ((inhabits_reference distinct reference).mp h).imp_right
    (isInstance_upcast registered distinct within within' reference sub)

/-- A conversion without code keeps values as they are. -/
theorem Converts.inhabits (registered : c.Registered fun n => isReserved n = false) (distinct : c.Distinct names)
    {t u : Ty} {conversion : Conversion} (converts : c.Converts t u conversion) (noCode : conversion.code = [])
    (within : t.Within names) (within' : u.Within names) {v : Value H} (h : c.Inhabits t v) : c.Inhabits u v := by
  cases converts with
  | identity => exact h
  | nullToReference reference =>
    rw [Value.eq_null h]
    exact inhabits_null (by cases u <;> first | rfl | cases reference)
  | upcast reference sub => exact inhabits_upcast registered distinct within within' reference sub h
  | @boxing k _ sub =>
    refine inhabits_upcast registered distinct (t := .boxed k) trivial within' rfl sub ?_
    exact inhabits_boxed.mpr (.inr (inhabits_primitive.mp h))
  | unboxing => cases noCode
  | widening found | unboxAndWiden found => simp [Conversion.code, found] at noCode

end Instances

end Catalog
end TypedExpr
