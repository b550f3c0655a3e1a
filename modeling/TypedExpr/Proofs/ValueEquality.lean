import Mathlib.Data.List.Nodup
import Mathlib.Data.List.Perm.Subperm
import TypedExpr.Value.Order
/-!
# Equality of values is an equivalence

Two maps are compared by looking the entries of the first up in the second. Their sizes are the same and no key
occurs twice, so no key of the second is left over, and the maps have equal values under every key
(`equals_map_iff`). With this, equality of values is an equivalence if the equality of the objects in them is
(`equals_equivalence`).
-/

namespace TypedExpr.Value

variable {H : Type}

/-- Null, a truth value, a number or a string. -/
def isScalar : Value H → Bool
  | .array _ | .list _ | .map _ | .object _ => false
  | _ => true

/-- A value as it is built at run time: a map by inserting entries one after the other, under keys that may occur
again. The objects in it have the property. -/
inductive Built (P : H → Prop) : Value H → Prop where
  | scalar {v : Value H} (isScalar : v.isScalar = true) : Built P v
  | array {items : List (Value H)} (each : ∀ v ∈ items, Built P v) : Built P (.array items)
  | list {items : List (Value H)} (each : ∀ v ∈ items, Built P v) : Built P (.list items)
  | map {inserted : List (String × Value H)} (each : ∀ e ∈ inserted, Built P e.2) : Built P (.ofEntries inserted)
  | object {o : H} (holds : P o) : Built P (.object o)

section Entries

variable {entries : List (String × Value H)} {key : String} {v : Value H}

/-- No key occurs twice. -/
def Distinct (entries : List (String × Value H)) : Prop := (entries.map Prod.fst).Nodup

theorem mem_insertEntry {e : String × Value H} (member : e ∈ insertEntry key v entries) :
    e = (key, v) ∨ e ∈ entries := by
  induction entries with
  | nil => exact .inl (List.mem_singleton.mp member)
  | cons first rest ih =>
    obtain ⟨k, w⟩ := first
    unfold insertEntry at member
    split at member
    · exact (List.mem_cons.mp member).imp_right (List.mem_cons_of_mem _)
    · rcases List.mem_cons.mp member with rfl | later
      · exact .inr List.mem_cons_self
      · exact (ih later).imp_right (List.mem_cons_of_mem _)

theorem Distinct.insertEntry (distinct : Distinct entries) (key : String) (v : Value H) :
    Distinct (insertEntry key v entries) := by
  induction entries with
  | nil => exact List.nodup_singleton key
  | cons first rest ih =>
    obtain ⟨k, w⟩ := first
    obtain ⟨fresh, others⟩ := List.nodup_cons.mp distinct
    unfold Value.insertEntry
    split
    next same => exact same ▸ distinct
    next differs =>
      refine List.nodup_cons.mpr ⟨fun occurs => ?_, ih others⟩
      obtain ⟨e, member, same⟩ := List.mem_map.mp occurs
      rcases mem_insertEntry member with rfl | later
      · exact differs same.symm
      · exact fresh (List.mem_map.mpr ⟨e, later, same⟩)

theorem Distinct.foldl_insertEntry (inserted : List (String × Value H)) (distinct : Distinct entries) :
    Distinct (inserted.foldl (fun acc e => Value.insertEntry e.1 e.2 acc) entries) ∧
      ∀ e ∈ inserted.foldl (fun acc e => Value.insertEntry e.1 e.2 acc) entries, e ∈ entries ∨ e ∈ inserted := by
  induction inserted generalizing entries with
  | nil => exact ⟨distinct, fun e => .inl⟩
  | cons first rest ih =>
    obtain ⟨distinct, known⟩ := ih (distinct.insertEntry first.1 first.2)
    refine ⟨distinct, fun e member => ?_⟩
    rcases known e member with atFirst | later
    · rcases mem_insertEntry atFirst with rfl | before
      · exact .inr List.mem_cons_self
      · exact .inl before
    · exact .inr (List.mem_cons_of_mem _ later)

/-- Inserting leaves one entry for each key, and each of them was inserted. -/
theorem ofEntries_spec (inserted : List (String × Value H)) :
    ∃ entries, ofEntries inserted = .map entries ∧ Distinct entries ∧ ∀ e ∈ entries, e ∈ inserted := by
  have start : Distinct ([] : List (String × Value H)) := List.nodup_nil
  obtain ⟨distinct, known⟩ := start.foldl_insertEntry inserted
  exact ⟨_, rfl, distinct, fun e member => (known e member).resolve_left List.not_mem_nil⟩

theorem Built.items {P : H → Prop} {items : List (Value H)} (built : Built P v) (hasItems : v.items? = some items) :
    ∀ u ∈ items, Built P u := by
  cases built with
  | scalar scalar => cases v <;> simp_all [isScalar, items?]
  | array each | list each =>
    cases hasItems
    exact each
  | map | object => cases hasItems

theorem Built.distinct {P : H → Prop} (built : Built P (.map entries)) :
    Distinct entries ∧ ∀ e ∈ entries, Built P e.2 := by
  generalize isMap : Value.map entries = m at built
  cases built with
  | @map inserted each =>
    obtain ⟨left, same, distinct, known⟩ := ofEntries_spec inserted
    cases isMap.trans same
    exact ⟨distinct, fun e member => each e (known e member)⟩
  | scalar scalar => cases isMap ▸ scalar
  | array | list | object => cases isMap

theorem Built.of_object {P : H → Prop} {o : H} (built : Built P (.object o)) : P o := by
  cases built with
  | scalar scalar => cases scalar
  | object holds => exact holds

theorem Distinct.mem_iff (distinct : Distinct entries) : (key, v) ∈ entries ↔ entries.lookup key = some v := by
  induction entries with
  | nil => simp
  | cons first rest ih =>
    obtain ⟨k, w⟩ := first
    obtain ⟨fresh, others⟩ := List.nodup_cons.mp distinct
    rw [List.lookup_cons, List.mem_cons]
    by_cases same : key = k
    · subst same
      have gone : (key, v) ∉ rest := fun later => fresh (List.mem_map.mpr ⟨_, later, rfl⟩)
      simp [gone, eq_comm]
    · have other : (key == k) = false := beq_eq_false_iff_ne.mpr same
      simp [same, other, ih others]

theorem lookup_eq_none : entries.lookup key = none ↔ key ∉ entries.map Prod.fst := by
  rw [List.lookup_eq_none_iff]
  simp only [bne_iff_ne, List.mem_map, not_exists, not_and]
  exact ⟨fun apart e member same => apart e member same.symm, fun apart e member same => apart e member same.symm⟩

end Entries

variable [HostObject H] {P : H → Prop}

section Comparison

variable {a b : Value H} {as bs cs : List (Value H)}

theorem equals_of_isScalar (scalar : a.isScalar = true) : a.equals b = true ↔ b = a := by
  cases a <;> cases b <;> simp_all [equals, isScalar, eq_comm]

theorem equals_array : (array as).equals b = true ↔ ∃ bs, b = .array bs ∧ equalItems as bs = true := by
  constructor
  · intro same
    cases b with
    | array bs => exact ⟨bs, rfl, same⟩
    | _ => cases same
  · rintro ⟨bs, rfl, same⟩
    exact same

theorem equals_list : (list as).equals b = true ↔ ∃ bs, b = .list bs ∧ equalItems as bs = true := by
  constructor
  · intro same
    cases b with
    | list bs => exact ⟨bs, rfl, same⟩
    | _ => cases same
  · rintro ⟨bs, rfl, same⟩
    exact same

theorem equals_object {o : H} : (object o).equals b = true ↔ ∃ o', b = .object o' ∧ HostObject.equals o o' = true := by
  constructor
  · intro same
    cases b with
    | object o' => exact ⟨o', rfl, same⟩
    | _ => cases same
  · rintro ⟨o', rfl, same⟩
    exact same

theorem equals_map {entries : List (String × Value H)} (same : (map entries).equals b = true) :
    ∃ entries', b = .map entries' := by
  cases b with
  | map entries' => exact ⟨entries', rfl⟩
  | _ => cases same

theorem equalItems_cons {v w : Value H} :
    equalItems (v :: as) (w :: bs) = true ↔ v.equals w = true ∧ equalItems as bs = true :=
  Bool.and_eq_true_iff

theorem equalItems_refl (each : ∀ v ∈ as, v.equals v = true) : equalItems as as = true := by
  induction as with
  | nil => rfl
  | cons v rest ih =>
    obtain ⟨first, others⟩ := List.forall_mem_cons.mp each
    exact equalItems_cons.mpr ⟨first, ih others⟩

theorem equalItems_symm (each : ∀ v ∈ as, ∀ w ∈ bs, v.equals w = true → w.equals v = true)
    (same : equalItems as bs = true) : equalItems bs as = true := by
  induction as generalizing bs with
  | nil =>
    cases bs with
    | nil => rfl
    | cons => cases same
  | cons v rest ih =>
    cases bs with
    | nil => cases same
    | cons w others =>
      rw [equalItems_cons] at same ⊢
      refine ⟨each v List.mem_cons_self w List.mem_cons_self same.1, ih (fun x isItem y isItem' => ?_) same.2⟩
      exact each x (List.mem_cons_of_mem _ isItem) y (List.mem_cons_of_mem _ isItem')

theorem equalItems_trans
    (each : ∀ u ∈ as, ∀ v ∈ bs, ∀ w ∈ cs, u.equals v = true → v.equals w = true → u.equals w = true)
    (first : equalItems as bs = true) (second : equalItems bs cs = true) : equalItems as cs = true := by
  induction as generalizing bs cs with
  | nil =>
    cases bs with
    | nil => exact second
    | cons => cases first
  | cons u rest ih =>
    cases bs with
    | nil => cases first
    | cons v middle =>
      cases cs with
      | nil => cases second
      | cons w others =>
        rw [equalItems_cons] at first second ⊢
        refine ⟨each u List.mem_cons_self v List.mem_cons_self w List.mem_cons_self first.1 second.1,
          ih (fun x isItem y isItem' z isItem'' => ?_) first.2 second.2⟩
        exact each x (List.mem_cons_of_mem _ isItem) y (List.mem_cons_of_mem _ isItem') z
          (List.mem_cons_of_mem _ isItem'')

end Comparison

section Maps

variable {a b c : List (String × Value H)}

theorem equalEntries_iff : equalEntries a b = true ↔
    ∀ e ∈ a, ∃ w, b.lookup e.1 = some w ∧ e.2.equals w = true := by
  induction a with
  | nil => simp [equalEntries]
  | cons first rest ih =>
    obtain ⟨k, v⟩ := first
    rw [equalEntries, Bool.and_eq_true, ih, List.forall_mem_cons]
    cases b.lookup k <;> simp

/-- Under every key both maps have equal values, or both have none. -/
def Agree (a b : List (String × Value H)) : Prop :=
  ∀ key, Option.Rel (fun v w => v.equals w = true) (a.lookup key) (b.lookup key)

theorem Agree.cases (agree : Agree a b) (key : String) :
    (a.lookup key = none ∧ b.lookup key = none) ∨
      ∃ v w, a.lookup key = some v ∧ b.lookup key = some w ∧ v.equals w = true := by
  have here := agree key
  generalize a.lookup key = x, b.lookup key = y at here
  cases here with
  | none => exact .inl ⟨rfl, rfl⟩
  | some same => exact .inr ⟨_, _, rfl, rfl, same⟩

theorem Agree.keys (agree : Agree a b) (key : String) : key ∈ a.map Prod.fst ↔ key ∈ b.map Prod.fst := by
  rw [← not_iff_not, ← lookup_eq_none, ← lookup_eq_none]
  rcases agree.cases key with ⟨inFirst, inSecond⟩ | ⟨v, w, inFirst, inSecond, _⟩ <;> simp [inFirst, inSecond]

/-- Equal sizes and an equal value for each entry of the first map leave no other key in the second. -/
theorem equals_map_iff (first : Distinct a) (second : Distinct b) :
    (map a).equals (map b) = true ↔ Agree a b := by
  rw [equals, Bool.and_eq_true, decide_eq_true_iff, equalEntries_iff]
  constructor
  · rintro ⟨size, found⟩ key
    have below : a.map Prod.fst ⊆ b.map Prod.fst := by
      intro k isKey
      by_contra missing
      obtain ⟨e, member, rfl⟩ := List.mem_map.mp isKey
      obtain ⟨w, there, _⟩ := found e member
      rw [lookup_eq_none.mpr missing] at there
      cases there
    have keys : (a.map Prod.fst).Perm (b.map Prod.fst) :=
      (List.subperm_of_subset first below).perm_of_length_le (by simp [size])
    cases here : a.lookup key with
    | some v =>
      obtain ⟨w, there, same⟩ := found (key, v) (first.mem_iff.mpr here)
      rw [there]
      exact .some same
    | none =>
      have missing : key ∉ b.map Prod.fst := fun isKey => lookup_eq_none.mp here (keys.mem_iff.mpr isKey)
      rw [lookup_eq_none.mpr missing]
      exact .none
  · intro agree
    have keys : (a.map Prod.fst).Perm (b.map Prod.fst) := (List.perm_ext_iff_of_nodup first second).mpr agree.keys
    refine ⟨by simpa using keys.length_eq, fun e member => ?_⟩
    have here := first.mem_iff.mp member
    rcases agree.cases e.1 with ⟨missing, _⟩ | ⟨v, w, found, there, same⟩
    · cases here.symm.trans missing
    · cases here.symm.trans found
      exact ⟨w, there, same⟩

theorem Agree.refl (distinct : Distinct a) (each : ∀ e ∈ a, e.2.equals e.2 = true) : Agree a a := by
  intro key
  cases found : a.lookup key with
  | none => exact .none
  | some v => exact .some (each (key, v) (distinct.mem_iff.mpr found))

theorem Agree.symm (first : Distinct a) (second : Distinct b)
    (each : ∀ e ∈ a, ∀ e' ∈ b, e.2.equals e'.2 = true → e'.2.equals e.2 = true) (agree : Agree a b) : Agree b a := by
  intro key
  rcases agree.cases key with ⟨inFirst, inSecond⟩ | ⟨v, w, inFirst, inSecond, same⟩
  · rw [inFirst, inSecond]
    exact .none
  · rw [inFirst, inSecond]
    exact .some (each _ (first.mem_iff.mpr inFirst) _ (second.mem_iff.mpr inSecond) same)

theorem Agree.trans (first : Distinct a) (second : Distinct b) (third : Distinct c)
    (each : ∀ e ∈ a, ∀ e' ∈ b, ∀ e'' ∈ c,
      e.2.equals e'.2 = true → e'.2.equals e''.2 = true → e.2.equals e''.2 = true)
    (agree : Agree a b) (agree' : Agree b c) : Agree a c := by
  intro key
  rcases agree.cases key with ⟨inFirst, inSecond⟩ | ⟨u, v, inFirst, inSecond, same⟩ <;>
    rcases agree'.cases key with ⟨inSecond', inThird⟩ | ⟨v', w, inSecond', inThird, same'⟩ <;>
    cases inSecond.symm.trans inSecond' <;> rw [inFirst, inThird]
  · exact .none
  · exact .some (each _ (first.mem_iff.mpr inFirst) _ (second.mem_iff.mpr inSecond) _ (third.mem_iff.mpr inThird)
      same same')

end Maps

theorem equals_refl (host : ∀ o, P o → HostObject.equals o o = true) {v : Value H} (built : v.Built P) :
    v.equals v = true := by
  induction built with
  | scalar scalar => exact (equals_of_isScalar scalar).mpr rfl
  | array _ ih => exact equals_array.mpr ⟨_, rfl, equalItems_refl ih⟩
  | list _ ih => exact equals_list.mpr ⟨_, rfl, equalItems_refl ih⟩
  | @map inserted _ ih =>
    obtain ⟨entries, same, distinct, known⟩ := ofEntries_spec inserted
    rw [same]
    exact (equals_map_iff distinct distinct).mpr (.refl distinct fun e member => ih e (known e member))
  | object holds => exact equals_object.mpr ⟨_, rfl, host _ holds⟩

theorem equals_symm (host : ∀ o o', P o → P o' → HostObject.equals o o' = true → HostObject.equals o' o = true)
    {a b : Value H} (built : a.Built P) (built' : b.Built P) (same : a.equals b = true) : b.equals a = true := by
  induction built generalizing b with
  | scalar scalar =>
    obtain rfl := (equals_of_isScalar scalar).mp same
    exact same
  | array _ ih =>
    obtain ⟨items, rfl, same⟩ := equals_array.mp same
    have each := built'.items rfl
    exact equals_array.mpr ⟨_, rfl, equalItems_symm (fun v isItem w isItem' => ih v isItem (each w isItem')) same⟩
  | list _ ih =>
    obtain ⟨items, rfl, same⟩ := equals_list.mp same
    have each := built'.items rfl
    exact equals_list.mpr ⟨_, rfl, equalItems_symm (fun v isItem w isItem' => ih v isItem (each w isItem')) same⟩
  | @map inserted _ ih =>
    obtain ⟨entries, isMap, distinct, known⟩ := ofEntries_spec inserted
    rw [isMap] at same ⊢
    obtain ⟨entries', rfl⟩ := equals_map same
    obtain ⟨distinct', each⟩ := built'.distinct
    have agree := (equals_map_iff distinct distinct').mp same
    exact (equals_map_iff distinct' distinct).mpr (agree.symm distinct distinct' fun e member e' member' =>
      ih e (known e member) (each e' member'))
  | object holds =>
    obtain ⟨o', rfl, same⟩ := equals_object.mp same
    exact equals_object.mpr ⟨_, rfl, host _ _ holds built'.of_object same⟩

theorem equals_trans
    (host : ∀ o o' o'', P o → P o' → P o'' → HostObject.equals o o' = true → HostObject.equals o' o'' = true →
      HostObject.equals o o'' = true)
    {a b c : Value H} (built : a.Built P) (built' : b.Built P) (built'' : c.Built P) (same : a.equals b = true)
    (same' : b.equals c = true) : a.equals c = true := by
  induction built generalizing b c with
  | scalar scalar =>
    obtain rfl := (equals_of_isScalar scalar).mp same
    exact same'
  | array _ ih =>
    obtain ⟨items, rfl, same⟩ := equals_array.mp same
    obtain ⟨items', rfl, same'⟩ := equals_array.mp same'
    have each := built'.items rfl
    have each' := built''.items rfl
    refine equals_array.mpr ⟨_, rfl, equalItems_trans (fun u isItem v isItem' w isItem'' => ?_) same same'⟩
    exact ih u isItem (each v isItem') (each' w isItem'')
  | list _ ih =>
    obtain ⟨items, rfl, same⟩ := equals_list.mp same
    obtain ⟨items', rfl, same'⟩ := equals_list.mp same'
    have each := built'.items rfl
    have each' := built''.items rfl
    refine equals_list.mpr ⟨_, rfl, equalItems_trans (fun u isItem v isItem' w isItem'' => ?_) same same'⟩
    exact ih u isItem (each v isItem') (each' w isItem'')
  | @map inserted _ ih =>
    obtain ⟨entries, isMap, distinct, known⟩ := ofEntries_spec inserted
    rw [isMap] at same ⊢
    obtain ⟨entries', rfl⟩ := equals_map same
    obtain ⟨entries'', rfl⟩ := equals_map same'
    obtain ⟨distinct', each⟩ := built'.distinct
    obtain ⟨distinct'', each'⟩ := built''.distinct
    have agree := (equals_map_iff distinct distinct').mp same
    have agree' := (equals_map_iff distinct' distinct'').mp same'
    refine (equals_map_iff distinct distinct'').mpr (agree.trans distinct distinct' distinct'' ?_ agree')
    intro e member e' member' e'' member''
    exact ih e (known e member) (each e' member') (each' e'' member'')
  | object holds =>
    obtain ⟨o', rfl, same⟩ := equals_object.mp same
    obtain ⟨o'', rfl, same'⟩ := equals_object.mp same'
    exact equals_object.mpr ⟨_, rfl, host _ _ _ holds built'.of_object built''.of_object same same'⟩

/-- Equality of values is an equivalence if the equality of the objects in them is. In particular it does not matter
which of two maps of one size is looked up in the other. -/
theorem equals_equivalence (host : Equivalence fun o o' : {o : H // P o} => HostObject.equals o.1 o'.1 = true) :
    (Equivalence fun v w : {v : Value H // v.Built P} => v.1.equals w.1 = true) ∧
      ∀ a b : List (String × Value H), (map a).Built P → (map b).Built P → a.length = b.length →
        equalEntries a b = equalEntries b a := by
  have symmetric {v w : Value H} (built : v.Built P) (built' : w.Built P) : v.equals w = true → w.equals v = true :=
    equals_symm (fun o o' holds holds' => host.symm (x := ⟨o, holds⟩) (y := ⟨o', holds'⟩)) built built'
  refine ⟨⟨?_, ?_, ?_⟩, ?_⟩
  · exact fun v => equals_refl (fun o holds => host.refl ⟨o, holds⟩) v.2
  · exact fun {v w} => symmetric v.2 w.2
  · exact fun {u v w} => equals_trans
      (fun o o' o'' holds holds' holds'' =>
        host.trans (x := ⟨o, holds⟩) (y := ⟨o', holds'⟩) (z := ⟨o'', holds''⟩)) u.2 v.2 w.2
  · intro a b built built' size
    have both : (map a).equals (map b) = true ↔ (map b).equals (map a) = true :=
      ⟨symmetric built built', symmetric built' built⟩
    rw [Bool.eq_iff_iff]
    simpa [equals, size] using both

end TypedExpr.Value

namespace TypedExpr

/-- A host that has only badges, which are told apart and ordered by their numbers. -/
structure Badge where
  number : Nat
  deriving DecidableEq

instance : HostObject Badge where
  typeOf _ := .ofName "Badge"
  text o := "#" ++ toString o.number
  inspect o := "#" ++ toString o.number
  equals a b := a == b
  compare? a b := some (compare a.number b.number)

/-- A badge and its marks; the first mark is replaced by a later one under the same key. -/
def badgeEntries : List (String × Value Badge) :=
  [("marks", .list [.int 1]), ("owner", .object ⟨7⟩), ("marks", .list [.float ⟨0x7fc00000⟩, .null])]

/-- The same map, filled in another order. -/
def badgeEntriesReordered : List (String × Value Badge) :=
  [("owner", .object ⟨7⟩), ("marks", .list [.float ⟨0x7fc00000⟩, .null])]

theorem badge_equals_equivalence :
    (Equivalence fun o o' : {_o : Badge // True} => HostObject.equals o.1 o'.1 = true) ∧
      (Value.ofEntries badgeEntries).equals (.ofEntries badgeEntriesReordered) = true ∧
      (Value.ofEntries badgeEntriesReordered).equals (.ofEntries badgeEntries) = true := by
  have host : Equivalence fun o o' : {_o : Badge // True} => HostObject.equals o.1 o'.1 = true := by
    constructor <;> simp_all [HostObject.equals]
  have mark : (Value.list [.int 1] : Value Badge).Built fun _ => True :=
    .list (List.forall_mem_singleton.mpr (.scalar rfl))
  have marks : (Value.list [.float ⟨0x7fc00000⟩, .null] : Value Badge).Built fun _ => True :=
    .list (List.forall_mem_cons.mpr ⟨.scalar rfl, List.forall_mem_singleton.mpr (.scalar rfl)⟩)
  have built : (Value.ofEntries badgeEntries).Built fun _ => True :=
    .map (List.forall_mem_cons.mpr ⟨mark, List.forall_mem_cons.mpr ⟨.object trivial,
      List.forall_mem_singleton.mpr marks⟩⟩)
  have built' : (Value.ofEntries badgeEntriesReordered).Built fun _ => True :=
    .map (List.forall_mem_cons.mpr ⟨.object trivial, List.forall_mem_singleton.mpr marks⟩)
  have same : (Value.ofEntries badgeEntries).equals (.ofEntries badgeEntriesReordered) = true := by decide +kernel
  exact ⟨host, same, (Value.equals_equivalence host).1.symm (x := ⟨_, built⟩) (y := ⟨_, built'⟩) same⟩

end TypedExpr
