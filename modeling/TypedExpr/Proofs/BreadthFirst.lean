import Mathlib.Data.PFun
import Mathlib.Order.Lattice.Nat
import TypedExpr.Proofs.Registration
/-!
# Walks up the hierarchy

Going up from a type in all ways at once gives levels, in which a type may stand many times. Its hierarchy lists
the types of the levels by their first places (`hierarchy_eq_levels`), so the nearest come first. The walk that
looks at one waiting type after the other, without a bound on its steps, finds the same list; it ends because a
supertype is registered earlier (`walk_eq`).
-/

namespace TypedExpr

open Relation (ReflTransGen)

variable {H : Type}

namespace Catalog

theorem appendNew_append (seen first second : List Ty) :
    appendNew seen (first ++ second) = appendNew (appendNew seen first) second := by
  induction first generalizing seen with
  | nil => rfl
  | cons t rest ih =>
    simp only [List.cons_append, appendNew]
    split <;> exact ih _

theorem mem_appendNew {seen ts : List Ty} {u : Ty} : u ∈ appendNew seen ts ↔ u ∈ seen ∨ u ∈ ts := by
  obtain ⟨added, same, new, all⟩ := appendNew_spec seen ts
  rw [same, List.mem_append]
  constructor
  · exact fun member => member.imp_right (new u)
  · rintro (old | given)
    · exact .inl old
    · simpa using all u given

theorem appendNew_eq_self {seen ts : List Ty} (old : ∀ t ∈ ts, t ∈ seen) : appendNew seen ts = seen := by
  induction ts with
  | nil => rfl
  | cons t rest ih =>
    obtain ⟨isOld, restOld⟩ := List.forall_mem_cons.mp old
    rw [appendNew, if_pos isOld, ih restOld]

theorem appendNew_nodup {seen : List Ty} (distinct : seen.Nodup) (ts : List Ty) : (appendNew seen ts).Nodup := by
  induction ts generalizing seen with
  | nil => exact distinct
  | cons t rest ih =>
    unfold appendNew
    split
    · exact ih distinct
    next new =>
      have apart : ∀ u ∈ seen, u ≠ t := by
        rintro u member rfl
        exact new member
      exact ih (by simpa [List.nodup_append, distinct] using apart)

/-- What is found first does not depend on repetitions. -/
theorem appendNew_find? (p : Ty → Bool) (seen ts : List Ty) :
    (appendNew seen ts).find? p = (seen.find? p).or (ts.find? p) := by
  induction ts generalizing seen with
  | nil => simp [appendNew]
  | cons t rest ih =>
    unfold appendNew
    split
    next old =>
      rw [ih]
      cases found : seen.find? p with
      | some u => simp
      | none => simp [List.find?_eq_none.mp found t old]
    · rw [ih, List.find?_append, Option.or_assoc, List.find?_cons, List.find?_cons]
      cases p t <;> rfl

/-- Whoever was there already brings nothing new. -/
theorem appendNew_flatMap {f : Ty → List Ty} {seen reached ts added : List Ty}
    (same : appendNew seen ts = seen ++ added) (known : ∀ t ∈ seen, ∀ u ∈ f t, u ∈ reached) :
    appendNew reached (ts.flatMap f) = appendNew reached (added.flatMap f) := by
  induction ts generalizing seen reached added with
  | nil =>
    obtain rfl : added = [] := by simpa [appendNew] using same
    rfl
  | cons t rest ih =>
    rw [List.flatMap_cons, appendNew_append]
    unfold appendNew at same
    split at same
    next old =>
      rw [appendNew_eq_self (known t old)]
      exact ih same known
    next new =>
      obtain ⟨more, sameMore, _⟩ := appendNew_spec (seen ++ [t]) rest
      obtain rfl : added = t :: more := by simpa [sameMore] using same.symm
      rw [List.flatMap_cons, appendNew_append]
      refine ih sameMore (List.forall_mem_append.mpr ⟨fun s member u above => ?_, ?_⟩)
      · exact mem_appendNew.mpr (.inl (known s member u above))
      · simpa using fun u above => mem_appendNew.mpr (.inr above)

section Levels

variable {c : Catalog H} {t u : Ty}

/-- The types reached by going up that many times, once for each way. -/
def level (c : Catalog H) (t : Ty) : Nat → List Ty
  | 0 => [t]
  | n + 1 => (c.level t n).flatMap c.supertypes

/-- The types of the levels up to this one, the lower levels first. -/
def levels (c : Catalog H) (t : Ty) (n : Nat) : List Ty := (List.range (n + 1)).flatMap (c.level t)

/-- The least number of times to go up from one type to the other. -/
noncomputable def distance (c : Catalog H) (t u : Ty) : Nat := sInf {n | u ∈ c.level t n}

theorem levels_succ (n : Nat) : c.levels t (n + 1) = c.levels t n ++ c.level t (n + 1) := by
  simp [levels, List.range_succ]

theorem appendNew_levels_succ (n : Nat) :
    appendNew [] (c.levels t (n + 1)) = appendNew (appendNew [] (c.levels t n)) (c.level t (n + 1)) := by
  rw [levels_succ, appendNew_append]

theorem mem_levels {n : Nat} : u ∈ appendNew [] (c.levels t n) ↔ ∃ k ≤ n, u ∈ c.level t k := by
  simp only [mem_appendNew, levels, List.mem_flatMap, List.mem_range, Nat.lt_succ_iff, List.not_mem_nil, false_or]

theorem supertype_mem_levels {n : Nat} {s : Ty} (member : s ∈ appendNew [] (c.levels t n)) (above : u ∈ c.supertypes s) :
    u ∈ appendNew [] (c.levels t (n + 1)) := by
  obtain ⟨k, low, isLevel⟩ := mem_levels.mp member
  exact mem_levels.mpr ⟨k + 1, Nat.succ_le_succ low, List.mem_flatMap.mpr ⟨s, isLevel, above⟩⟩

/-- Once a level brings nothing new, no later one does. -/
theorem levels_saturated {n : Nat} (same : appendNew [] (c.levels t (n + 1)) = appendNew [] (c.levels t n)) (k : Nat) :
    appendNew [] (c.levels t (n + k)) = appendNew [] (c.levels t n) := by
  have closed : ∀ s ∈ appendNew [] (c.levels t n), ∀ u ∈ c.supertypes s, u ∈ appendNew [] (c.levels t n) := by
    intro s member u above
    rw [← same]
    exact supertype_mem_levels member above
  have inside (k : Nat) : ∀ u ∈ c.level t (n + k), u ∈ appendNew [] (c.levels t n) := by
    induction k with
    | zero => exact fun u member => mem_levels.mpr ⟨n, Nat.le_refl n, member⟩
    | succ k ih =>
      intro u member
      obtain ⟨s, lower, above⟩ := List.mem_flatMap.mp member
      exact closed s (ih s lower) u above
  induction k with
  | zero => rfl
  | succ k ih =>
    rw [Nat.add_succ, appendNew_levels_succ, ih]
    exact appendNew_eq_self (inside (k + 1))

/-- Each round of the closure adds what is new on the next level. -/
theorem closure_eq_levels {rounds n : Nat} {seen added : List Ty}
    (next : appendNew seen (added.flatMap c.supertypes) = appendNew [] (c.levels t (n + 1)))
    (same : seen = appendNew [] (c.levels t n)) :
    c.closure rounds seen added = appendNew [] (c.levels t (n + rounds)) := by
  induction rounds generalizing n seen added with
  | zero => exact same
  | succ rounds ih =>
    obtain ⟨more, sameMore, _⟩ := appendNew_spec seen (c.level t (n + 1))
    have extended : appendNew [] (c.levels t (n + 1)) = seen ++ more := by
      rw [appendNew_levels_succ, ← same, sameMore]
    simp only [closure, next, extended, List.drop_left]
    split
    next nothing =>
      rw [List.isEmpty_iff.mp nothing, List.append_nil] at extended
      rw [levels_saturated (extended.trans same) (rounds + 1), same]
    · rw [show n + (rounds + 1) = n + 1 + rounds by omega]
      refine ih ?_ extended.symm
      have known : ∀ s ∈ seen, ∀ u ∈ c.supertypes s, u ∈ seen ++ more := by
        intro s member u above
        rw [← extended]
        exact supertype_mem_levels (same ▸ member) above
      rw [← appendNew_flatMap sameMore known, appendNew_levels_succ, extended]
      rfl

/-- The hierarchy lists the types of all levels, each at its first place. -/
theorem hierarchy_eq_levels (c : Catalog H) (t : Ty) :
    c.hierarchy t = appendNew [] (c.levels t (c.size + 2)) := by
  have first : appendNew [t] ([t].flatMap c.supertypes) = appendNew [] (c.levels t 1) := by
    rw [appendNew_levels_succ]
    rfl
  have closed : c.hierarchy t = appendNew [] (c.levels t (0 + (c.size + 2))) := closure_eq_levels first rfl
  rwa [Nat.zero_add] at closed

theorem distance_le {n : Nat} (member : u ∈ c.level t n) : c.distance t u ≤ n := Nat.sInf_le member

theorem mem_level_distance {n : Nat} (member : u ∈ c.level t n) : u ∈ c.level t (c.distance t u) :=
  Nat.sInf_mem (s := {n | u ∈ c.level t n}) ⟨n, member⟩

/-- What a level adds is further away than all that was there before. -/
theorem levels_sorted (n : Nat) :
    (appendNew [] (c.levels t n)).Pairwise fun u v => c.distance t u ≤ c.distance t v := by
  induction n with
  | zero => exact List.pairwise_singleton _ t
  | succ n ih =>
    obtain ⟨added, same, new, _⟩ := appendNew_spec (appendNew [] (c.levels t n)) (c.level t (n + 1))
    have distinct : (appendNew [] (c.levels t n) ++ added).Nodup := by
      rw [← same]
      exact appendNew_nodup (appendNew_nodup List.nodup_nil _) _
    have near : ∀ u ∈ appendNew [] (c.levels t n), c.distance t u ≤ n := by
      intro u member
      obtain ⟨k, low, isLevel⟩ := mem_levels.mp member
      exact (distance_le isLevel).trans low
    have far : ∀ v ∈ added, c.distance t v = n + 1 := by
      intro v isNew
      refine le_antisymm (distance_le (new v isNew)) (Nat.lt_of_not_le fun low => ?_)
      have old := mem_levels.mpr ⟨_, low, mem_level_distance (new v isNew)⟩
      exact (List.nodup_append.mp distinct).2.2 v old v isNew rfl
    rw [appendNew_levels_succ, same, List.pairwise_append]
    refine ⟨ih, List.pairwise_of_forall_mem_list fun u first v second => ?_, fun u first v second => ?_⟩
    · rw [far u first, far v second]
    · rw [far v second]
      exact (near u first).trans (Nat.le_succ n)

theorem supertypes_ne_nil (c : Catalog H) (reference : u.isReference = true) (notNull : u.isNull = false)
    (notObject : u.isObject = false) : c.supertypes u ≠ [] := by
  unfold supertypes
  rw [if_neg (by simp [reference, notNull, notObject])]
  split <;> simp

theorem Ordered.supertype_named (ordered : c.Ordered) (above : u ∈ c.supertypes t) : u.digest?.isSome = true := by
  obtain ⟨_, rfl | ⟨d, s, found, member, rfl⟩⟩ := mem_supertypes above
  · rfl
  · obtain ⟨digest, _, registered⟩ := Option.bind_eq_some_iff.mp found
    obtain ⟨_, _, _, isDigest⟩ := ordered.supertype (mem_shape (find?_mem registered).1) member
    rw [Ty.substitute_digest? t.args isDigest]
    rfl

/-- Every way up ends at `Object`, unless it comes to a primitive. -/
theorem Ordered.exists_object (ordered : c.Ordered) (reference : t.isReference = true) (notNull : t.isNull = false)
    (noPrimitive : ∀ u ∈ c.hierarchy t, u.isPrimitive = false) : ∃ u ∈ c.hierarchy t, u.isObject = true := by
  have up (n : Nat) : ∀ s ∈ c.hierarchy t, c.rank s = n → s.isReference = true → s.isNull = false →
      ∃ u ∈ c.hierarchy t, u.isObject = true := by
    induction n using Nat.strong_induction_on with
    | _ n ih =>
      intro s member isRank reference notNull
      cases isObject : s.isObject with
      | true => exact ⟨s, member, isObject⟩
      | false =>
        obtain ⟨u, above⟩ := List.exists_mem_of_ne_nil _ (c.supertypes_ne_nil reference notNull isObject)
        have reached := hierarchy_trans ordered member ((mem_hierarchy ordered).mpr (.single above))
        have named := ordered.supertype_named above
        have notPrimitive := noPrimitive u reached
        have proper : u.isReference = true ∧ u.isNull = false := by
          cases u with
          | declared | boxed => exact ⟨rfl, rfl⟩
          | primitive => cases notPrimitive
          | _ => cases named
        exact ih (c.rank u) (isRank ▸ rank_lt ordered above) u reached rfl proper.1 proper.2
  exact up _ t (mem_hierarchy_self ordered t) rfl reference notNull

end Levels

/-- Looks at the first type that waits: one that is listed already is passed over, any other is listed, and its
supertypes wait behind the rest. The walk ends when no type waits. -/
def walkStep (c : Catalog H) : List Ty × List Ty →. List Ty ⊕ List Ty × List Ty
  | (order, []) => .some (.inl order)
  | (order, t :: rest) => .some (.inr (if t ∈ order then (order, rest) else (order ++ [t], rest ++ c.supertypes t)))

/-- Steps until the walk ends. They are not counted; a walk that goes on for ever has no result. -/
def walkFrom (c : Catalog H) (order queue : List Ty) : Part (List Ty) :=
  c.walkStep.fix (order, queue)

/-- The walk up from a type. -/
def walk (c : Catalog H) (t : Ty) : Part (List Ty) := c.walkFrom [] [t]

namespace Walk

/-! ### Queries that walk

The queries of a catalog as they are answered with a walk; there is no answer where the walk does not end. -/

def findSupertype? (c : Catalog H) (t : Ty) (digest : Digest) : Part (Option Ty) := do
  let order ← c.walk t
  return order.find? fun s => s.digest? == some digest && !s.isPrimitive

def isDeclaredSubtype (c : Catalog H) (sub sup : Ty) : Part Bool :=
  match sup.digest? with
  | none => .some false
  | some digest => do
    match ← findSupertype? c sub digest with
    | none => return false
    | some found =>
      return c.isRaw sub || sup.args.isEmpty || found.args.isEmpty || decide (found.args = sup.args)

def isSubtype (c : Catalog H) : (sub sup : Ty) → Part Bool
  | .array a, .array b => if a = b then .some true else if a.isReference then isSubtype c a b else .some false
  | sub, sup =>
    if sub = sup then .some true
    else if !sub.isReference || !sup.isReference then .some false
    else if sup.isObject || sub.isNull then .some true
    else if sub.isArray || sup.isArray then .some false
    else isDeclaredSubtype c sub sup

def methods (c : Catalog H) (owner : Ty) (name : String) : Part (List (Method H)) := do
  let order ← c.walk owner
  return appendVisible [] (order.flatMap fun t => c.declaredMethods t name)

def properties (c : Catalog H) (owner : Ty) (name : String) : Part (List (Property H)) := do
  let getters ← methods c owner ("get" ++ Text.capitalize name)
  let tests ← methods c owner ("is" ++ Text.capitalize name)
  let plain ← methods c owner name
  let accessors := getters ++ tests.filter (·.returns.isBoolean) ++ plain
  return (accessors.filter fun m => m.parameters.isEmpty && !m.isStatic && !m.returns.isVoid).map fun getter =>
    { name, type := getter.returns, getter }

mutual
def isInstance [HostObject H] (c : Catalog H) : Value H → Ty → Part Bool
  | .null, _ => .some false
  | v, .primitive k => .some (v.kind? = some k)
  | v, .boxed k => .some (v.kind? = some k)
  | .array items, .array component => allInstances c items component
  | v, t =>
    if t.isObject then .some true else if t.isArray then .some false else isSubtype c v.runtimeType t

def allInstances [HostObject H] (c : Catalog H) : List (Value H) → Ty → Part Bool
  | [], _ => .some true
  | v :: rest, t => do
    if ← if v.isNull then .some true else isInstance c v t then allInstances c rest t else return false
end

end Walk

section Walking

variable {c : Catalog H}

theorem walkFrom_nil (c : Catalog H) (order : List Ty) : c.walkFrom order [] = .some order :=
  Part.eq_some_iff.mpr (PFun.fix_stop (Part.mem_some _))

theorem walkFrom_cons (c : Catalog H) (order rest : List Ty) (t : Ty) : c.walkFrom order (t :: rest) =
    if t ∈ order then c.walkFrom order rest else c.walkFrom (order ++ [t]) (rest ++ c.supertypes t) := by
  rw [walkFrom, PFun.fix_fwd_eq (Part.mem_some _), apply_ite c.walkStep.fix]
  rfl

/-- Going through types that wait in front, the walk lists those that are new and puts their supertypes at the end. -/
theorem walkFrom_append (c : Catalog H) {order added ts : List Ty} (waiting : List Ty)
    (same : appendNew order ts = order ++ added) :
    c.walkFrom order (ts ++ waiting) = c.walkFrom (order ++ added) (waiting ++ added.flatMap c.supertypes) := by
  induction ts generalizing order added waiting with
  | nil =>
    obtain rfl : added = [] := by simpa [appendNew] using same
    simp
  | cons t rest ih =>
    rw [List.cons_append, walkFrom_cons]
    unfold appendNew at same
    split at same
    next old =>
      rw [if_pos old]
      exact ih waiting same
    next new =>
      obtain ⟨more, sameMore, _⟩ := appendNew_spec (order ++ [t]) rest
      obtain rfl : added = t :: more := by simpa [sameMore] using same.symm
      rw [if_neg new, List.append_assoc, ih _ sameMore]
      simp

/-- Level by level the walk does what the rounds of the closure do, and at the last rank nothing waits any more. -/
theorem walkFrom_eq_closure (ordered : c.Ordered) {rounds : Nat} {seen level : List Ty}
    (enough : ∀ t ∈ level, c.rank t ≤ rounds) :
    c.walkFrom seen (level.flatMap c.supertypes) = .some (c.closure rounds seen level) := by
  induction rounds generalizing seen level with
  | zero =>
    have top : level.flatMap c.supertypes = [] := by
      refine List.flatMap_eq_nil_iff.mpr fun t isLevel => List.eq_nil_iff_forall_not_mem.mpr fun u above => ?_
      have lower := rank_lt ordered above
      have bound := enough t isLevel
      omega
    rw [top, walkFrom_nil]
    rfl
  | succ rounds ih =>
    obtain ⟨added, same, new, _⟩ := appendNew_spec seen (level.flatMap c.supertypes)
    have onward := c.walkFrom_append [] same
    rw [List.append_nil, List.nil_append] at onward
    simp only [onward, closure, same, List.drop_left]
    split
    next nothing =>
      rw [List.isEmpty_iff.mp nothing, List.flatMap_nil, List.append_nil, walkFrom_nil]
    · refine ih fun u isNew => ?_
      obtain ⟨t, isLevel, above⟩ := List.mem_flatMap.mp (new u isNew)
      have lower := rank_lt ordered above
      have bound := enough t isLevel
      omega

/-- Where types are registered after their supertypes, every walk ends, with the hierarchy. -/
theorem walk_eq (ordered : c.Ordered) (t : Ty) : c.walk t = .some (c.hierarchy t) := by
  have first : c.walkFrom [] ([t] ++ []) = c.walkFrom [t] ([] ++ [t].flatMap c.supertypes) :=
    c.walkFrom_append [] rfl
  rw [walk, ← List.append_nil [t], first, List.nil_append, hierarchy]
  exact walkFrom_eq_closure ordered fun s _ => Nat.le_succ_of_le (rank_le s)

/-- A type below ever larger instances of itself, which cannot be registered since it would have to be there before. -/
def nestType : TypeDef H where
  name := "Nest"
  parameters := ["T"]
  supertypes := [.declared "Nest" [.declared "Nest" [.var 0]]]

theorem nest_supertypes (t : Ty) : (⟨[nestType]⟩ : Catalog H).supertypes (.declared "Nest" [t]) =
    [.declared "Nest" [.declared "Nest" [t]]] := by
  simp [supertypes, find?, nestType, TypeDef.digest, Ty.digest?, Ty.isObject, Ty.isNamed, Ty.isReference, Ty.isNull,
    Ty.args, Ty.substitute, Ty.substituteAll]

/-- The list of types seen does not end a walk by itself: it may meet a new type at every step. -/
theorem nest_walk_endless (t : Ty) : (⟨[nestType]⟩ : Catalog H).walk (.declared "Nest" [t]) = .none := by
  -- The type that waits is larger than all that are listed, so it is never passed over.
  have goesOn (result : List Ty) (state : List Ty × List Ty)
      (ends : result ∈ (⟨[nestType]⟩ : Catalog H).walkStep.fix state) :
      ∀ u, state.2 = [.declared "Nest" [u]] → ¬ ∀ s ∈ state.1, sizeOf s < sizeOf (Ty.declared "Nest" [u]) := by
    refine PFun.fixInduction ends fun state _ ih => ?_
    obtain ⟨order, queue⟩ := state
    rintro u rfl larger
    have new : .declared "Nest" [u] ∉ order := fun old => Nat.lt_irrefl _ (larger _ old)
    refine ih _ (Part.mem_some _) (.declared "Nest" [u]) ?_ ?_
    · rw [if_neg new, nest_supertypes, List.nil_append]
    · rw [if_neg new]
      intro s member
      rcases List.mem_append.mp member with old | last
      · have smaller := larger s old
        simp only [Ty.declared.sizeOf_spec, List.cons.sizeOf_spec] at smaller ⊢
        omega
      · rw [List.mem_singleton.mp last]
        simp only [Ty.declared.sizeOf_spec, List.cons.sizeOf_spec]
        omega
  refine Part.eq_none_iff.mpr fun result ends => ?_
  exact goesOn result ([], [.declared "Nest" [t]]) ends t rfl (by simp)

namespace Walk

theorem findSupertype?_eq (ordered : c.Ordered) (t : Ty) (digest : Digest) :
    findSupertype? c t digest = .some (c.findSupertype? t digest) := by
  rw [findSupertype?, walk_eq ordered]
  exact Part.bind_some ..

theorem isDeclaredSubtype_eq (ordered : c.Ordered) (sub sup : Ty) :
    isDeclaredSubtype c sub sup = .some (c.isDeclaredSubtype sub sup) := by
  unfold isDeclaredSubtype Catalog.isDeclaredSubtype
  cases sup.digest? with
  | none => rfl
  | some digest =>
    simp only [findSupertype?_eq ordered, Part.bind_eq_bind, Part.bind_some]
    cases c.findSupertype? sub digest <;> rfl

theorem isSubtype_eq (ordered : c.Ordered) (sub sup : Ty) : isSubtype c sub sup = .some (c.isSubtype sub sup) := by
  fun_induction isSubtype c sub sup with
  | case1 | case4 => simp [Catalog.isSubtype]
  | case2 a b different reference ih => simp [Catalog.isSubtype, different, reference, ih]
  | case3 a b different notReference => simp [Catalog.isSubtype, different, notReference]
  | case5 sub sup notArrays different notReference => simp_all [Catalog.isSubtype]
  | case6 sub sup notArrays different reference top => simp_all [Catalog.isSubtype]
  | case7 sub sup notArrays different reference notTop array => simp_all [Catalog.isSubtype]
  | case8 sub sup notArrays different reference notTop noArray =>
    simp_all [Catalog.isSubtype, isDeclaredSubtype_eq ordered]

theorem methods_eq (ordered : c.Ordered) (owner : Ty) (name : String) :
    methods c owner name = .some (c.methods owner name) := by
  rw [methods, walk_eq ordered]
  exact Part.bind_some ..

theorem properties_eq (ordered : c.Ordered) (owner : Ty) (name : String) :
    properties c owner name = .some (c.properties owner name) := by
  simp only [properties, methods_eq ordered, Part.bind_eq_bind, Part.bind_some]
  rfl

mutual
theorem isInstance_eq [HostObject H] (ordered : c.Ordered) (v : Value H) (t : Ty) :
    isInstance c v t = .some (c.isInstance v t) := by
  fun_cases isInstance c v t with
  | case1 => simp [Catalog.isInstance]
  | case2 v k notNull => simp only [Catalog.isInstance]
  | case3 v k notNull => simp only [Catalog.isInstance]
  | case4 items component => rw [allInstances_eq ordered items component, Catalog.isInstance]
  | case5 v t notNull notPrimitive notBoxed notArrays top => simp_all [Catalog.isInstance]
  | case6 v t notNull notPrimitive notBoxed notArrays top array => simp_all [Catalog.isInstance]
  | case7 v t notNull notPrimitive notBoxed notArrays top noArray =>
    simp_all [Catalog.isInstance, isSubtype_eq ordered]

theorem allInstances_eq [HostObject H] (ordered : c.Ordered) (vs : List (Value H)) (t : Ty) :
    allInstances c vs t = .some (c.allInstances vs t) := by
  cases vs with
  | nil => rfl
  | cons v rest =>
    simp only [allInstances, Catalog.allInstances, isInstance_eq ordered v t, allInstances_eq ordered rest t,
      Part.bind_eq_bind, Part.bind_some]
    cases v.isNull <;> cases c.isInstance v t <;> rfl
end

end Walk

end Walking

end Catalog

namespace Registry

variable [HostObject H]

/-- After any calls every walk ends, whatever the type it starts from, and so every query has an answer. -/
theorem walks_end (builtins : Bool) (calls : List (Registration H)) :
    let c := ((start builtins).after calls : Registry H).catalog
    (∀ t, c.walk t = .some (c.hierarchy t)) ∧
      (∀ t digest, Catalog.Walk.findSupertype? c t digest = .some (c.findSupertype? t digest)) ∧
      (∀ sub sup, Catalog.Walk.isSubtype c sub sup = .some (c.isSubtype sub sup)) ∧
      (∀ owner name, Catalog.Walk.methods c owner name = .some (c.methods owner name)) ∧
      (∀ owner name, Catalog.Walk.properties c owner name = .some (c.properties owner name)) ∧
      ∀ v t, Catalog.Walk.isInstance c v t = .some (c.isInstance v t) := by
  intro c
  have ordered : c.Ordered := (after_registered builtins calls).ordered
  exact ⟨Catalog.walk_eq ordered, Catalog.Walk.findSupertype?_eq ordered, Catalog.Walk.isSubtype_eq ordered,
    Catalog.Walk.methods_eq ordered, Catalog.Walk.properties_eq ordered, Catalog.Walk.isInstance_eq ordered⟩

/-- The hierarchy of a type starts with it and lists each type above it once, the nearest first; it comes to `Object`
unless a primitive stands in the way. -/
theorem hierarchy_nearest_first (builtins : Bool) (calls : List (Registration H)) (t : Ty) :
    let c := ((start builtins).after calls : Registry H).catalog
    (c.hierarchy t).head? = some t ∧ (c.hierarchy t).Nodup ∧
      (∀ u, u ∈ c.hierarchy t ↔ ReflTransGen c.Above t u) ∧
      (c.hierarchy t).Pairwise (fun u v => c.distance t u ≤ c.distance t v) ∧
      (t.isReference = true → t.isNull = false → (∀ u ∈ c.hierarchy t, u.isPrimitive = false) →
        ∃ u ∈ c.hierarchy t, u.isObject = true) := by
  intro c
  have ordered : c.Ordered := (after_registered builtins calls).ordered
  obtain ⟨above, starts⟩ := Catalog.hierarchy_starts (c := c) t
  refine ⟨by rw [starts]; rfl, ?_, fun u => Catalog.mem_hierarchy ordered, ?_, ordered.exists_object⟩
  · rw [Catalog.hierarchy_eq_levels]
    exact Catalog.appendNew_nodup List.nodup_nil _
  · rw [Catalog.hierarchy_eq_levels]
    exact Catalog.levels_sorted _

end Registry

/-- A way up of two steps and one of a single step to the same type. -/
def shortcutTypes : List (TypeDef Record) :=
  [{ name := "Base" }, { name := "Middle", supertypes := [.ofName "Base"] },
    { name := "Bottom", supertypes := [.ofName "Middle", .ofName "Base"] }]

theorem shortcutTypes_nearest_first :
    let c := ((Registry.start false).after (shortcutTypes.map .type)).catalog
    c.hierarchy (.ofName "Bottom") = [.ofName "Bottom", .ofName "Middle", .ofName "Base", .object] ∧
      (c.hierarchy (.ofName "Bottom")).Pairwise
        (fun u v => c.distance (.ofName "Bottom") u ≤ c.distance (.ofName "Bottom") v) ∧
      ∃ u ∈ c.hierarchy (.ofName "Bottom"), u.isObject = true := by
  obtain ⟨_, _, _, sorted, object⟩ :=
    Registry.hierarchy_nearest_first false (shortcutTypes.map .type) (.ofName "Bottom")
  exact ⟨by decide +kernel, sorted, object rfl rfl (by decide +kernel)⟩

end TypedExpr
