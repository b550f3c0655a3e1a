import Mathlib.Data.Prod.Lex
import TypedExpr.Proofs.BreadthFirst
/-!
# Which methods a type shows

The methods of one name that are declared in the hierarchy of a type stand at places: by the position of the declaring
type in the hierarchy, then by the order of declaration. A type shows, of those that have the same parameters once
the arguments of their types are bound, the first one (`Catalog.ShowsMethods`). A method that is registered on the
type itself therefore takes the place of the inherited one with its parameters, and nothing else changes
(`Registry.after_methods_shown`).
-/

namespace TypedExpr

open Relation (ReflTransGen)

variable {H : Type}

section Firsts

variable {α β κ : Type} [DecidableEq κ] {key : α → κ}

/-- Of the items that have the same key, the first one. -/
def firsts (key : α → κ) : List α → List α
  | [] => []
  | a :: rest => a :: (firsts key rest).filter fun b => key b ≠ key a

theorem firsts_sublist (xs : List α) : List.Sublist (firsts key xs) xs := by
  induction xs with
  | nil => exact .slnil
  | cons a rest ih => exact (List.filter_sublist.trans ih).cons_cons a

theorem firsts_pairwise (xs : List α) : (firsts key xs).Pairwise fun a b => key a ≠ key b := by
  induction xs with
  | nil => exact .nil
  | cons a rest ih =>
    refine .cons ?_ (ih.filter _)
    intro b kept
    have different : key b ≠ key a := by simpa using (List.mem_filter.mp kept).2
    exact different.symm

theorem firsts_inj {xs : List α} {x y : α} (first : x ∈ firsts key xs) (second : y ∈ firsts key xs)
    (same : key x = key y) : x = y := by
  have symmetric : Std.Symm fun a b => key a ≠ key b := ⟨fun _ _ => Ne.symm⟩
  by_contra different
  exact (firsts_pairwise xs).forall first second different same

/-- What is left out comes after an item that is kept. -/
theorem exists_firsts {xs : List α} {before : α → α → Prop} (ordered : xs.Pairwise before) {x : α} (member : x ∈ xs) :
    ∃ y ∈ firsts key xs, key y = key x ∧ (y = x ∨ before y x) := by
  induction xs with
  | nil => cases member
  | cons a rest ih =>
    obtain ⟨first, later⟩ := List.pairwise_cons.mp ordered
    rcases List.mem_cons.mp member with rfl | member
    · exact ⟨x, List.mem_cons_self, rfl, .inl rfl⟩
    obtain ⟨y, kept, same, place⟩ := ih later member
    by_cases taken : key y = key a
    · exact ⟨a, List.mem_cons_self, taken.symm.trans same, .inr (first x member)⟩
    · refine ⟨y, List.mem_cons_of_mem a (List.mem_filter.mpr ⟨kept, ?_⟩), same, place⟩
      simpa using taken

theorem firsts_map (f : β → α) (xs : List β) : (firsts (fun x => key (f x)) xs).map f = firsts key (xs.map f) := by
  induction xs with
  | nil => rfl
  | cons a rest ih =>
    simp only [firsts, List.map_cons, ← ih, List.filter_map]
    rfl

theorem firsts_append (xs ys : List α) :
    firsts key (xs ++ ys) = firsts key xs ++ (firsts key ys).filter fun y => key y ∉ xs.map key := by
  induction xs with
  | nil => simp [firsts]
  | cons a rest ih =>
    simp only [List.cons_append, firsts, ih, List.filter_append, List.filter_filter]
    congr 2
    apply List.filter_congr
    intro y _
    simp only [List.map_cons, List.mem_cons, not_or, Bool.decide_and]

/-- A new item between others stands in for the later one with its key. -/
theorem firsts_insert {xs ys : List α} {a v : α} (free : key a ∉ xs.map key) (kept : v ∈ firsts key ys)
    (same : key v = key a) :
    ∃ before after, firsts key (xs ++ ys) = firsts key xs ++ before ++ v :: after ∧
      firsts key (xs ++ a :: ys) = firsts key xs ++ a :: (before ++ after) := by
  have inside : v ∈ (firsts key ys).filter fun y => key y ∉ xs.map key := by
    rw [← same] at free
    exact List.mem_filter.mpr ⟨kept, decide_eq_true free⟩
  have distinct : ((firsts key ys).filter fun y => key y ∉ xs.map key).Pairwise fun a b => key a ≠ key b :=
    (firsts_pairwise ys).filter _
  obtain ⟨before, after, split_⟩ := List.append_of_mem inside
  rw [split_, List.pairwise_append, List.pairwise_cons] at distinct
  obtain ⟨_, ⟨behind, _⟩, front⟩ := distinct
  have others : (before ++ v :: after).filter (fun b => key b ≠ key a) = before ++ after := by
    have keptBefore : ∀ b ∈ before, decide (key b ≠ key a) = true := by
      intro b member
      rw [← same]
      exact decide_eq_true (front b member v List.mem_cons_self)
    have keptAfter : ∀ b ∈ after, decide (key b ≠ key a) = true := by
      intro b member
      rw [← same]
      exact decide_eq_true (behind b member).symm
    rw [List.filter_append, List.filter_cons_of_neg (by simp [same]), List.filter_eq_self.mpr keptBefore,
      List.filter_eq_self.mpr keptAfter]
  refine ⟨before, after, ?_, ?_⟩
  · rw [firsts_append, split_, List.append_assoc]
  · rw [firsts_append, firsts, List.filter_cons_of_pos (by simpa using free), List.filter_filter, ← others, ← split_,
      List.filter_filter]
    simp only [Bool.and_comm]

end Firsts

namespace Catalog

variable {c : Catalog H} {t : Ty} {name : String}

theorem appendVisible_eq (found ms : List (Method H)) :
    appendVisible found ms =
      found ++ (firsts Method.parameters ms).filter fun m => m.parameters ∉ found.map Method.parameters := by
  induction ms generalizing found with
  | nil => simp [appendVisible, firsts]
  | cons m rest ih =>
    unfold appendVisible
    split
    next taken =>
      have hidden : m.parameters ∈ found.map Method.parameters := by simpa using taken
      rw [ih, firsts, List.filter_cons_of_neg (by simpa using hidden), List.filter_filter]
      congr 1
      apply List.filter_congr
      intro n _
      -- What the method would hide is hidden by the one that hides it.
      by_cases same : n.parameters = m.parameters
      · simp [same, hidden]
      · simp [same]
    next free =>
      have new : m.parameters ∉ found.map Method.parameters := by simpa using free
      rw [ih, firsts, List.filter_cons_of_pos (by simpa using new), List.filter_filter, List.append_assoc,
        List.singleton_append]
      congr 2
      apply List.filter_congr
      intro n _
      simp only [List.map_append, List.map_cons, List.map_nil, List.mem_append, List.mem_singleton, not_or,
        Bool.decide_and]

theorem methods_eq (c : Catalog H) (t : Ty) (name : String) :
    c.methods t name = firsts Method.parameters ((c.hierarchy t).flatMap fun s => c.declaredMethods s name) := by
  rw [methods, appendVisible_eq]
  simp

/-- The method of this name at a place of the hierarchy, with the arguments of the type that declares it bound. The
first number is the position of that type, the second the position of the method among those the type declares. -/
inductive DeclaredAt (c : Catalog H) (t : Ty) (name : String) : Nat ×ₗ Nat → Method H → Prop where
  | mk {i j : Nat} {s : Ty} {d : TypeDef H} {m : Method H} (isAbove : (c.hierarchy t)[i]? = some s)
      (found : s.digest?.bind c.find? = some d) (declared : d.methods[j]? = some m) (named : m.name = name) :
      DeclaredAt c t name (toLex (i, j)) (m.instantiate s.args)

theorem DeclaredAt.unique {p : Nat ×ₗ Nat} {m n : Method H} (first : c.DeclaredAt t name p m)
    (second : c.DeclaredAt t name p n) : m = n := by
  generalize same : p = q at second
  cases first with
  | mk isAbove found declared named =>
    cases second with
    | mk isAbove' found' declared' named' =>
      cases same
      cases isAbove.symm.trans isAbove'
      cases found.symm.trans found'
      cases declared.symm.trans declared'
      rfl

/-- The methods of this name that a type at a position declares, with their places. -/
def placedAt (c : Catalog H) (name : String) (i : Nat) (s : Ty) : List ((Nat ×ₗ Nat) × Method H) :=
  match s.digest?.bind c.find? with
  | some d => (d.methods.zipIdx.filter (·.1.name == name)).map fun x => (toLex (i, x.2), x.1.instantiate s.args)
  | none => []

/-- The methods of this name in the hierarchy, with their places. -/
def placed (c : Catalog H) (t : Ty) (name : String) : List ((Nat ×ₗ Nat) × Method H) :=
  (c.hierarchy t).zipIdx.flatMap fun x => c.placedAt name x.2 x.1

theorem placedAt_methods (i : Nat) (s : Ty) : (c.placedAt name i s).map Prod.snd = c.declaredMethods s name := by
  unfold placedAt declaredMethods
  cases s.digest?.bind c.find? with
  | none => rfl
  | some d =>
    have listed : d.methods.filter (·.name == name) = (d.methods.zipIdx.filter (·.1.name == name)).map Prod.fst := by
      conv_lhs => rw [← List.zipIdx_map_fst 0 d.methods, List.filter_map]
      rfl
    simp only [listed, List.map_map]
    rfl

theorem placed_methods (c : Catalog H) (t : Ty) (name : String) :
    (c.placed t name).map Prod.snd = (c.hierarchy t).flatMap fun s => c.declaredMethods s name := by
  rw [placed, List.map_flatMap]
  simp only [placedAt_methods]
  conv_rhs => rw [← List.zipIdx_map_fst 0 (c.hierarchy t), List.flatMap_map]

theorem mem_placed {x : (Nat ×ₗ Nat) × Method H} : x ∈ c.placed t name ↔ c.DeclaredAt t name x.1 x.2 := by
  constructor
  · intro member
    obtain ⟨⟨s, i⟩, isAbove, member⟩ := List.mem_flatMap.mp member
    simp only [placedAt] at member
    split at member
    next d found =>
      obtain ⟨⟨m, j⟩, declared, rfl⟩ := List.mem_map.mp member
      obtain ⟨declared, named⟩ := List.mem_filter.mp declared
      exact .mk (List.mem_zipIdx_iff_getElem?.mp isAbove) found (List.mem_zipIdx_iff_getElem?.mp declared)
        (by simpa using named)
    · cases member
  · obtain ⟨p, n⟩ := x
    intro declaredAt
    cases declaredAt with
    | @mk i j s d m isAbove found declared named =>
      refine List.mem_flatMap.mpr ⟨(s, i), List.mem_zipIdx_iff_getElem?.mpr isAbove, ?_⟩
      simp only [placedAt, found]
      refine List.mem_map.mpr ⟨(m, j), List.mem_filter.mpr ⟨List.mem_zipIdx_iff_getElem?.mpr declared, ?_⟩, rfl⟩
      simpa using named

theorem zipIdx_ordered {α : Type} (xs : List α) : xs.zipIdx.Pairwise fun x y => x.2 < y.2 := by
  have ordered : (List.range' 0 xs.length).Pairwise (· < ·) := List.pairwise_lt_range'
  rw [← List.zipIdx_map_snd, List.pairwise_map] at ordered
  exact ordered

theorem placed_ordered (c : Catalog H) (t : Ty) (name : String) :
    (c.placed t name).Pairwise fun x y => x.1 < y.1 := by
  refine List.pairwise_flatMap.mpr ⟨?_, ?_⟩
  · rintro ⟨s, i⟩ _
    simp only [placedAt]
    split
    · refine List.pairwise_map.mpr (((zipIdx_ordered _).filter _).imp ?_)
      intro x y before
      exact Prod.Lex.toLex_lt_toLex.mpr (.inr ⟨rfl, before⟩)
    · exact .nil
  · refine (zipIdx_ordered _).imp ?_
    rintro ⟨s, i⟩ ⟨s', i'⟩ before x isFirst y isSecond
    have position {s : Ty} {i : Nat} {x : (Nat ×ₗ Nat) × Method H} (member : x ∈ c.placedAt name i s) :
        (ofLex x.1).1 = i := by
      simp only [placedAt] at member
      split at member
      · obtain ⟨_, _, rfl⟩ := List.mem_map.mp member
        rfl
      · cases member
    refine Prod.Lex.lt_iff.mpr (.inl ?_)
    rw [position isFirst, position isSecond]
    exact before

/-- The methods of a name that a type shows, and their places. They have different parameters, they stand in the order
of their places, and a method of the name that is left out comes after one that is shown with its parameters. -/
structure ShowsMethods (c : Catalog H) (t : Ty) (name : String) (places : List (Nat ×ₗ Nat)) (shown : List (Method H)) :
    Prop where
  distinct : shown.Pairwise fun m n => m.parameters ≠ n.parameters
  ordered : places.Pairwise (· < ·)
  declared : List.Forall₂ (c.DeclaredAt t name) places shown
  hidden : ∀ p m, c.DeclaredAt t name p m → p ∉ places →
    ∃ q n, q ∈ places ∧ n ∈ shown ∧ c.DeclaredAt t name q n ∧ q < p ∧ n.parameters = m.parameters

/-- The methods that are shown, with their places. -/
def visible (c : Catalog H) (t : Ty) (name : String) : List ((Nat ×ₗ Nat) × Method H) :=
  firsts (fun x => x.2.parameters) (c.placed t name)

theorem visible_methods (c : Catalog H) (t : Ty) (name : String) :
    (c.visible t name).map Prod.snd = c.methods t name := by
  rw [methods_eq, ← placed_methods, visible, firsts_map Prod.snd]

theorem visible_declared {x : (Nat ×ₗ Nat) × Method H} (shown : x ∈ c.visible t name) :
    c.DeclaredAt t name x.1 x.2 :=
  mem_placed.mp ((firsts_sublist _).subset shown)

/-- Each method of the name is shown, or one before it with its parameters is. -/
theorem DeclaredAt.exists_visible {p : Nat ×ₗ Nat} {m : Method H} (declared : c.DeclaredAt t name p m) :
    ∃ x ∈ c.visible t name, x.2.parameters = m.parameters ∧ (x = (p, m) ∨ x.1 < p) :=
  exists_firsts (c.placed_ordered t name) (x := (p, m)) (mem_placed.mpr declared)

theorem methods_shown (c : Catalog H) (t : Ty) (name : String) :
    c.ShowsMethods t name ((c.visible t name).map Prod.fst) (c.methods t name) := by
  rw [← visible_methods]
  refine ⟨?_, ?_, ?_, ?_⟩
  · exact List.pairwise_map.mpr (firsts_pairwise _)
  · exact List.pairwise_map.mpr ((c.placed_ordered t name).sublist (firsts_sublist _))
  · rw [List.forall₂_map_left_iff, List.forall₂_map_right_iff, List.forall₂_same]
    intro x shown
    exact visible_declared shown
  · intro p m declared hidden
    obtain ⟨x, shown, same, rfl | before⟩ := declared.exists_visible
    · exact absurd (List.mem_map_of_mem shown) hidden
    · exact ⟨x.1, x.2, List.mem_map_of_mem shown, List.mem_map_of_mem shown, visible_declared shown, before, same⟩

theorem declaredMethods_at {m : Method H} (own : m ∈ c.declaredMethods t name) :
    ∃ p, (ofLex p).1 = 0 ∧ c.DeclaredAt t name p m := by
  obtain ⟨above, starts⟩ := hierarchy_starts (c := c) t
  unfold declaredMethods at own
  split at own
  next d found =>
    obtain ⟨n, member, rfl⟩ := List.mem_map.mp own
    obtain ⟨member, named⟩ := List.mem_filter.mp member
    obtain ⟨j, declared⟩ := List.mem_iff_getElem?.mp member
    exact ⟨toLex (0, j), rfl, .mk (by rw [starts]; rfl) found declared (by simpa using named)⟩
  · cases own

/-- A method that is shown further up has other parameters than all those that the type declares itself. -/
theorem inherited_free {p : Nat ×ₗ Nat} {v : Method H} (shown : (p, v) ∈ c.visible t name)
    (inherited : 0 < (ofLex p).1) : v.parameters ∉ (c.declaredMethods t name).map Method.parameters := by
  intro taken
  obtain ⟨m, own, same⟩ := List.mem_map.mp taken
  obtain ⟨q, first, declared⟩ := declaredMethods_at own
  obtain ⟨x, shown', same', place⟩ := declared.exists_visible
  obtain rfl : x = (p, v) := firsts_inj shown' shown (same'.trans same)
  have before : q < p := Prod.Lex.lt_iff.mpr (.inl (by omega))
  rcases place with isSame | later
  · cases isSame
    exact lt_irrefl _ before
  · exact lt_asymm before later

/-- Such a method is the first one with its parameters among those declared further up. -/
theorem inherited_first {p : Nat ×ₗ Nat} {v : Method H} (shown : (p, v) ∈ c.visible t name)
    (inherited : 0 < (ofLex p).1) {above : List Ty} (starts : c.hierarchy t = t :: above) :
    v ∈ firsts Method.parameters (above.flatMap fun s => c.declaredMethods s name) := by
  have listed : v ∈ c.methods t name := by
    rw [← visible_methods]
    exact List.mem_map_of_mem shown
  rw [methods_eq, starts, List.flatMap_cons, firsts_append] at listed
  rcases List.mem_append.mp listed with own | later
  · refine absurd ?_ (inherited_free shown inherited)
    exact List.mem_map_of_mem ((firsts_sublist _).subset own)
  · exact (List.mem_filter.mp later).1

theorem closure_congr {c c' : Catalog H} (same : c'.supertypes = c.supertypes) (rounds : Nat) (seen level : List Ty) :
    c'.closure rounds seen level = c.closure rounds seen level := by
  induction rounds generalizing seen level with
  | zero => rfl
  | succ rounds ih => simp only [closure, same, ih]

theorem isObject_digest? {t : Ty} (isObject : t.isObject = true) : t.digest? = some (.ofName "Object") := by
  cases t with
  | declared n args =>
    obtain rfl : n = "Object" := by simpa [Ty.isObject, Ty.isNamed] using isObject
    rfl
  | _ => cases isObject

theorem Ordered.eq_or_rank_lt (ordered : c.Ordered) {u : Ty} (reached : ReflTransGen c.Above t u) :
    t = u ∨ c.rank u < c.rank t := by
  induction reached with
  | refl => exact .inl rfl
  | tail _ above ih =>
    have step := rank_lt ordered above
    rcases ih with rfl | below
    · exact .inr step
    · exact .inr (step.trans below)

/-- No other type in the hierarchy stands under the digest of the type, unless that is the digest of `Object`. -/
theorem Ordered.digest?_ne (ordered : c.Ordered) (notObject : t.digest? ≠ some (.ofName "Object")) {above : List Ty}
    (starts : c.hierarchy t = t :: above) {s : Ty} (isAbove : s ∈ above) : s.digest? ≠ t.digest? := by
  intro same
  have distinct : (c.hierarchy t).Nodup := by
    rw [hierarchy_eq_levels]
    exact appendNew_nodup List.nodup_nil _
  have other : t ≠ s := by
    rintro rfl
    rw [starts] at distinct
    exact (List.nodup_cons.mp distinct).1 isAbove
  have reached : ReflTransGen c.Above t s := by
    rw [← mem_hierarchy ordered, starts]
    exact List.mem_cons_of_mem t isAbove
  have notObject' : t.isObject = false := by
    by_contra isObject
    exact notObject (isObject_digest? (by simpa using isObject))
  have notObject'' : s.isObject = false := by
    by_contra isObject
    exact notObject (same.symm.trans (isObject_digest? (by simpa using isObject)))
  have ranks : c.rank s = c.rank t := by rw [rank, rank, notObject', notObject'', same]
  rcases ordered.eq_or_rank_lt reached with isSame | below
  · exact other isSame
  · omega

end Catalog

namespace Registry

variable {r r' : Registry H} {m : Method H}

/-- A method that is registered stands behind those of its type; all else is found as before. -/
theorem Adds.find?_method (valid : r.Valid) (added : r.Adds (.method m) r') (digest : Digest) :
    r'.catalog.find? digest = (r.catalog.find? digest).map fun d =>
      if m.owner.digest? = some digest then { d with methods := d.methods ++ [m] } else d := by
  cases added with
  | @method _ before after d types owner new =>
    by_cases same : d.digest = digest
    · have distinct := valid.distinct
      rw [types, List.map_append, List.nodup_append] at distinct
      have none : before.find? (·.digest == digest) = none := by
        apply List.find?_eq_none.mpr
        intro e member isFound
        have isFound : e.digest = digest := by simpa using isFound
        exact distinct.2.2 e.digest (List.mem_map_of_mem member) d.digest (by simp) (isFound.trans same.symm)
      simp [Catalog.find?, types, List.find?_append, TypeDef.digest_methods, none, same, owner]
    · simp [Catalog.find?, types, List.find?_append, TypeDef.digest_methods, same, owner]

theorem Adds.supertypes_method (valid : r.Valid) (added : r.Adds (.method m) r') :
    r'.catalog.supertypes = r.catalog.supertypes := by
  have declared (args : List Ty) (digest : Digest) :
      (r'.catalog.find? digest).map (fun d => d.supertypes.map (·.substitute args)) =
        (r.catalog.find? digest).map fun d => d.supertypes.map (·.substitute args) := by
    rw [added.find?_method valid, Option.map_map]
    congr 1
    funext d
    simp only [Function.comp_apply]
    split <;> rfl
  funext t
  unfold Catalog.supertypes
  cases t.digest? with
  | none => rfl
  | some digest => simp only [Option.bind_some, declared]

theorem Adds.hierarchy_method (valid : r.Valid) (added : r.Adds (.method m) r') (t : Ty) :
    r'.catalog.hierarchy t = r.catalog.hierarchy t := by
  have size : r'.catalog.size = r.catalog.size := by
    cases added with
    | method types => simp [Catalog.size, types]
  rw [Catalog.hierarchy, Catalog.hierarchy, size, Catalog.closure_congr (added.supertypes_method valid)]

theorem Adds.declaredMethods_method (valid : r.Valid) (added : r.Adds (.method m) r') (t : Ty) :
    r'.catalog.declaredMethods t m.name = r.catalog.declaredMethods t m.name ++
      if m.owner.digest? = t.digest? then [m.instantiate t.args] else [] := by
  unfold Catalog.declaredMethods
  cases isDigest : t.digest? with
  | none =>
    cases added with
    | method _ owner => simp [owner]
  | some digest =>
    rw [Option.bind_some, Option.bind_some, added.find?_method valid]
    cases found : r.catalog.find? digest with
    | none =>
      have foreign : m.owner.digest? ≠ some digest := by
        intro same
        cases added with
        | @method _ before after d types owner new =>
          have member : d ∈ r.catalog.types := by simp [types]
          have found' := (find?_iff valid.distinct).mpr ⟨member, Option.some.inj (owner.symm.trans same)⟩
          cases found.symm.trans found'
      simp [foreign]
    | some d =>
      simp only [Option.map_some]
      by_cases own : m.owner.digest? = some digest
      · simp [own]
      · simp [own]

/-- A method can be registered on a type that declares none with its parameters. -/
theorem Valid.adds_method (valid : r.Valid) {t : Ty} (known : r.catalog.knows t = true)
    (owner : m.owner.digest? = t.digest?)
    (free : (m.instantiate t.args).parameters ∉ (r.catalog.declaredMethods t m.name).map Method.parameters) :
    ∃ r', r.Adds (.method m) r' := by
  obtain ⟨d, member, isDigest⟩ := Catalog.knows_iff.mp known
  obtain ⟨before, after, types⟩ := List.append_of_mem member
  have found : r.catalog.find? d.digest = some d := (find?_iff valid.distinct).mpr ⟨member, rfl⟩
  refine ⟨_, .method types (owner.trans isDigest) ?_⟩
  rintro other isOwn ⟨sameName, sameParameters⟩
  refine free (List.mem_map.mpr ⟨other.instantiate t.args, ?_, ?_⟩)
  · rw [Catalog.declaredMethods, isDigest, Option.bind_some, found]
    exact List.mem_map_of_mem (List.mem_filter.mpr ⟨isOwn, by simpa using sameName⟩)
  · simp only [Method.instantiate, sameParameters]

/-- A method with the parameters of an inherited one can be registered on the type, where it stands in for that. -/
theorem Valid.replaces (valid : r.Valid) {t : Ty} {p : Nat ×ₗ Nat} {v : Method H}
    (shown : (p, v) ∈ r.catalog.visible t m.name) (inherited : 0 < (ofLex p).1) (known : r.catalog.knows t = true)
    (notObject : t.digest? ≠ some (.ofName "Object")) (owner : m.owner.digest? = t.digest?)
    (same : (m.instantiate t.args).parameters = v.parameters) :
    ∃ r', r.call (.method m) = (.ok (), r') ∧ ∃ own before after,
      r.catalog.methods t m.name = own ++ before ++ v :: after ∧
      r'.catalog.methods t m.name = own ++ m.instantiate t.args :: (before ++ after) := by
  have free : (m.instantiate t.args).parameters ∉ (r.catalog.declaredMethods t m.name).map Method.parameters := by
    rw [same]
    exact Catalog.inherited_free shown inherited
  obtain ⟨r', added⟩ := valid.adds_method known owner free
  refine ⟨r', added.call_eq valid, ?_⟩
  obtain ⟨above, starts⟩ := Catalog.hierarchy_starts (c := r.catalog) t
  have ordered : r.catalog.Ordered := Catalog.ordered_iff.mpr valid.earlier
  have elsewhere : (above.flatMap fun s => r'.catalog.declaredMethods s m.name) =
      above.flatMap fun s => r.catalog.declaredMethods s m.name := by
    refine List.flatMap_congr fun s isAbove => ?_
    have different := ordered.digest?_ne notObject starts isAbove
    rw [added.declaredMethods_method valid, owner, if_neg different.symm, List.append_nil]
  obtain ⟨before, after, old, replaced⟩ :=
    firsts_insert free (Catalog.inherited_first shown inherited starts) same.symm
  refine ⟨firsts Method.parameters (r.catalog.declaredMethods t m.name), before, after, ?_, ?_⟩
  · rw [Catalog.methods_eq, starts, List.flatMap_cons, old]
  · rw [Catalog.methods_eq, added.hierarchy_method valid, starts, List.flatMap_cons, elsewhere,
      added.declaredMethods_method valid, if_pos owner, List.append_assoc, List.singleton_append, replaced]

/-- In a registry after any calls, a type shows of the methods of a name with the same parameters the first one, by
their places. A method that is registered on the type itself with the parameters of an inherited one stands in for
that, and nothing else changes; only a type under the digest of `Object` is excepted. -/
theorem after_methods_shown [HostObject H] (builtins : Bool) (calls : List (Registration H)) (t : Ty) (name : String) :
    let r : Registry H := (start builtins).after calls
    ∃ places, r.catalog.ShowsMethods t name places (r.catalog.methods t name) ∧
      ∀ p ∈ places, ∀ v, 0 < (ofLex p).1 → r.catalog.DeclaredAt t name p v → r.catalog.knows t = true →
        t.digest? ≠ some (.ofName "Object") → ∀ m : Method H, m.owner.digest? = t.digest? → m.name = name →
        (m.instantiate t.args).parameters = v.parameters →
        ∃ r', r.call (.method m) = (.ok (), r') ∧ ∃ own before after,
          r.catalog.methods t name = own ++ before ++ v :: after ∧
          r'.catalog.methods t name = own ++ m.instantiate t.args :: (before ++ after) := by
  intro r
  have valid : r.Valid := ((start_valid builtins).1.after calls).1
  refine ⟨(r.catalog.visible t name).map Prod.fst, r.catalog.methods_shown t name, ?_⟩
  rintro p isPlace v inherited declared known notObject m owner rfl same
  obtain ⟨⟨_, v'⟩, shown, rfl⟩ := List.mem_map.mp isPlace
  obtain rfl : v = v' := declared.unique (Catalog.visible_declared shown)
  exact valid.replaces shown inherited known notObject owner same

end Registry

section Storage

def putMethod (owner : String) (item : Ty) : Method Record :=
  .declare (.declared owner [.var 0]) "put" [item] .void fun _ _ => .ok .null

/-- The type `Holder<T>`, which has `put(T)` and `put(String)`, and a type of a given name that extends it. -/
def storageCalls (name : String) : List (Registration Record) :=
  [.type { name := "Holder", parameters := ["T"],
           methods := [putMethod "Holder" (.var 0), putMethod "Holder" .string] },
    .type { name, parameters := ["T"], supertypes := [.declared "Holder" [.var 0]] }]

def storage (name : String) : Registry Record := (Registry.start false).after (storageCalls name)

/-- The method `put(T)` of a drawer stands in for that of the holder. -/
theorem drawer_methods_shown :
    ∃ v r' own before after, v.owner = .declared "Holder" [.boxed .int] ∧ v.parameters = [.boxed .int] ∧
      (storage "Drawer").catalog.methods (.declared "Drawer" [.boxed .int]) "put" = own ++ before ++ v :: after ∧
      (storage "Drawer").call (.method (putMethod "Drawer" (.var 0))) = (.ok (), r') ∧
      r'.catalog.methods (.declared "Drawer" [.boxed .int]) "put" =
        own ++ (putMethod "Drawer" (.var 0)).instantiate [.boxed .int] :: (before ++ after) := by
  obtain ⟨places, shows, replaces⟩ :=
    Registry.after_methods_shown false (storageCalls "Drawer") (.declared "Drawer" [.boxed .int]) "put"
  change (storage "Drawer").catalog.ShowsMethods _ _ places _ at shows
  have own : ((Ty.declared "Drawer" [.boxed .int]).digest?.bind (storage "Drawer").catalog.find?).map
      (·.methods.length) = some 0 := by decide +kernel
  have inherited : (((Ty.declared "Holder" [.boxed .int]).digest?.bind (storage "Drawer").catalog.find?).bind
      (·.methods[0]?)).map (fun m => (m.name, m.owner, m.parameters)) =
        some ("put", .declared "Holder" [.var 0], [.var 0]) := by decide +kernel
  obtain ⟨m, found, isPut⟩ := Option.map_eq_some_iff.mp inherited
  obtain ⟨d, found, declared⟩ := Option.bind_eq_some_iff.mp found
  simp only [Prod.mk.injEq] at isPut
  obtain ⟨name, owner, parameters⟩ := isPut
  have isDeclared : (storage "Drawer").catalog.DeclaredAt (.declared "Drawer" [.boxed .int]) "put" (toLex (1, 0))
      (m.instantiate (Ty.declared "Holder" [.boxed .int]).args) := .mk (by decide +kernel) found declared name
  have isPlace : toLex (1, 0) ∈ places := by
    by_contra hidden
    obtain ⟨q, n, _, _, isDeclared', before, _⟩ := shows.hidden _ _ isDeclared hidden
    cases isDeclared' with
    | @mk i j s d' n isAbove found' declared' named =>
      -- Only the drawer itself stands before the holder, and it declares nothing.
      obtain rfl : i = 0 := by
        rcases Prod.Lex.toLex_lt_toLex.mp before with first | ⟨_, second⟩
        · omega
        · exact absurd second (Nat.not_lt_zero j)
      obtain ⟨above, starts⟩ :=
        Catalog.hierarchy_starts (c := (storage "Drawer").catalog) (.declared "Drawer" [.boxed .int])
      rw [starts] at isAbove
      cases isAbove
      rw [found'] at own
      have inside := (List.getElem?_eq_some_iff.mp declared').1
      have none : d'.methods.length = 0 := Option.some.inj own
      omega
  have same : ((putMethod "Drawer" (.var 0)).instantiate [.boxed .int]).parameters =
      (m.instantiate (Ty.declared "Holder" [.boxed .int]).args).parameters := by
    simp only [Method.instantiate, parameters]
    rfl
  obtain ⟨r', succeeds, front, before, after, old, replaced⟩ := replaces (toLex (1, 0)) isPlace _ Nat.one_pos
    isDeclared (by decide +kernel) (by decide +kernel) (putMethod "Drawer" (.var 0)) rfl rfl same
  refine ⟨_, r', front, before, after, ?_, ?_, old, succeeds, replaced⟩
  · simp only [Method.instantiate, owner]
    rfl
  · simp only [Method.instantiate, parameters]
    rfl

/-- Under the digest of `Object`, the method is shown a second time, with another parameter. -/
theorem items_methods_shown :
    ((storage "ItemsmyxdsGT2GE4").catalog.methods (.declared "ItemsmyxdsGT2GE4" [.boxed .int]) "put").map
        (fun m => (m.owner, m.parameters)) =
      [(.declared "Holder" [.boxed .int], [.boxed .int]), (.declared "Holder" [.boxed .int], [.string])] ∧
    ((storage "ItemsmyxdsGT2GE4").call (.method (putMethod "ItemsmyxdsGT2GE4" (.var 0)))).1.toOption.isSome = true ∧
    (((storage "ItemsmyxdsGT2GE4").call (.method (putMethod "ItemsmyxdsGT2GE4" (.var 0)))).2.catalog.methods
        (.declared "ItemsmyxdsGT2GE4" [.boxed .int]) "put").map (fun m => (m.owner, m.parameters)) =
      [(.declared "ItemsmyxdsGT2GE4" [.boxed .int], [.boxed .int]), (.declared "Holder" [.boxed .int], [.string]),
        (.declared "ItemsmyxdsGT2GE4" [.object], [.object])] := by
  refine ⟨?_, ?_, ?_⟩ <;> decide +kernel

end Storage

end TypedExpr
