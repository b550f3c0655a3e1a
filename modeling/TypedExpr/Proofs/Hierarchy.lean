import Mathlib.Logic.Relation
import TypedExpr.Builtin
import TypedExpr.Proofs.Sequencing
/-!
# Hierarchies of registered types

A type is registered after its supertypes. So going up from a type ends after fewer rounds than `hierarchy`
makes, and the hierarchy of a type holds exactly the types that are reached from it (`mem_hierarchy`). Which
types these are depends on the names only, not on the arguments.
-/

namespace TypedExpr

open Relation (ReflTransGen)

variable {H : Type}

namespace Ty

/-- The type with all its arguments left out. -/
def erase : Ty → Ty
  | .declared n _ => .declared n []
  | .array c => .array c.erase
  | t => t

@[simp] theorem erase_digest? (t : Ty) : t.erase.digest? = t.digest? := by cases t <;> rfl

@[simp] theorem erase_isObject (t : Ty) : t.erase.isObject = t.isObject := by cases t <;> rfl

@[simp] theorem erase_isReference (t : Ty) : t.erase.isReference = t.isReference := by cases t <;> rfl

@[simp] theorem erase_isNull (t : Ty) : t.erase.isNull = t.isNull := by cases t <;> rfl

@[simp] theorem erase_isPrimitive (t : Ty) : t.erase.isPrimitive = t.isPrimitive := by cases t <;> rfl

theorem substitute_digest? {s : Ty} (args : List Ty) {digest : Digest} (found : s.digest? = some digest) :
    (s.substitute args).digest? = some digest := by
  cases s <;> simp_all [Ty.substitute, Ty.digest?]

/-- Arguments are all that binding changes in a type with a digest. -/
theorem substitute_erase {s : Ty} (args : List Ty) {digest : Digest} (found : s.digest? = some digest) :
    (s.substitute args).erase = s.erase := by
  cases s <;> simp_all [Ty.substitute, Ty.digest?, Ty.erase]

end Ty

theorem TypeDef.digest_methods (d : TypeDef H) (methods : List (Method H)) :
    ({ d with methods } : TypeDef H).digest = d.digest := rfl

namespace Catalog

/-- The catalogs that registrations lead to; `allowed` restricts the names of the types that are added. -/
inductive Registered [HostObject H] (allowed : String → Prop) : Catalog H → Prop where
  | empty : Registered allowed .empty
  | builtin : Registered allowed .builtin
  | type {c c' : Catalog H} {d : TypeDef H} (before : Registered allowed c) (isAllowed : allowed d.name)
      (added : c.addType d = .ok c') : Registered allowed c'
  | method {c c' : Catalog H} {m : Method H} (before : Registered allowed c) (added : c.addMethod m = .ok c') :
      Registered allowed c'

/-- The names and supertypes in a catalog, which decide all hierarchies. -/
def shape (c : Catalog H) : List (String × List Ty) := c.types.map fun d => (d.name, d.supertypes)

/-- Every supertype is that of a name which stands before it, or is given. -/
def OrderedAfter (names : List String) : List (String × List Ty) → Prop
  | [] => True
  | (n, supertypes) :: rest =>
    (∀ s ∈ supertypes, ∃ m ∈ names, s.digest? = some (.ofName m)) ∧ OrderedAfter (names ++ [n]) rest

/-- Every type is registered after its supertypes. -/
def Ordered (c : Catalog H) : Prop := OrderedAfter [] c.shape

theorem orderedAfter_append {names : List String} {first second : List (String × List Ty)} :
    OrderedAfter names (first ++ second) ↔
      OrderedAfter names first ∧ OrderedAfter (names ++ first.map Prod.fst) second := by
  induction first generalizing names with
  | nil => simp [OrderedAfter]
  | cons d rest ih => simp [OrderedAfter, ih, and_assoc]

theorem orderedAfter_iff {names : List String} {types : List (TypeDef H)} :
    OrderedAfter names (shape ⟨types⟩) ↔ ∀ before d after, types = before ++ d :: after → ∀ s ∈ d.supertypes,
      (∃ m ∈ names, s.digest? = some (.ofName m)) ∨ ∃ e ∈ before, s.digest? = some e.digest := by
  induction types generalizing names with
  | nil => simp [shape, OrderedAfter]
  | cons e rest ih =>
    simp only [shape, List.map_cons, OrderedAfter] at ih ⊢
    rw [ih]
    constructor
    · rintro ⟨own, others⟩ before d after split_ s member
      rcases List.cons_eq_append_iff.mp split_ with ⟨rfl, same⟩ | ⟨before, rfl, same⟩
      · cases same
        exact .inl (own s member)
      · have above := others before d after same s member
        simpa [TypeDef.digest, or_and_right, exists_or, or_assoc] using above
    · intro all
      refine ⟨by simpa using all [] e rest rfl, fun before d after split_ s member => ?_⟩
      have above := all (e :: before) d after (by simp [split_]) s member
      simpa [TypeDef.digest, or_and_right, exists_or, or_assoc] using above

theorem ordered_iff {c : Catalog H} : c.Ordered ↔ ∀ before d after, c.types = before ++ d :: after →
    ∀ s ∈ d.supertypes, ∃ e ∈ before, s.digest? = some e.digest := by
  refine orderedAfter_iff.trans ?_
  simp

theorem find?_mem {c : Catalog H} {digest : Digest} {d : TypeDef H} (found : c.find? digest = some d) :
    d ∈ c.types ∧ .ofName d.name = digest :=
  ⟨List.mem_of_find?_eq_some found, by simpa [TypeDef.digest] using List.find?_some found⟩

theorem mem_shape {c : Catalog H} {d : TypeDef H} (member : d ∈ c.types) : (d.name, d.supertypes) ∈ c.shape :=
  List.mem_map.mpr ⟨d, member, rfl⟩

theorem knows_iff {c : Catalog H} {t : Ty} : c.knows t = true ↔ ∃ e ∈ c.types, t.digest? = some e.digest := by
  constructor
  · intro known
    obtain ⟨d, found⟩ := Option.isSome_iff_exists.mp known
    obtain ⟨digest, isDigest, found⟩ := Option.bind_eq_some_iff.mp found
    obtain ⟨member, same⟩ := find?_mem found
    exact ⟨d, member, isDigest.trans (congrArg some same.symm)⟩
  · rintro ⟨e, member, isDigest⟩
    simp only [knows, isDigest, Option.bind_some, find?, List.find?_isSome]
    exact ⟨e, member, by simp⟩

/-- A type is only added under a digest of its own, with supertypes that are known already and methods that are
its own. -/
theorem addType_ok_iff {c c' : Catalog H} {d : TypeDef H} : c.addType d = .ok c' ↔
    (c.find? d.digest).isSome = false ∧ (∀ s ∈ d.supertypes, c.knows s = true) ∧
      (∀ m ∈ d.methods, m.owner.digest? = some d.digest) ∧ c' = ⟨c.types ++ [d]⟩ := by
  have known : d.supertypes.find? (fun s => !c.knows s) = none ↔ ∀ s ∈ d.supertypes, c.knows s = true := by
    simp
  have own : d.methods.find? (fun m => m.owner.digest? != some d.digest) = none ↔
      ∀ m ∈ d.methods, m.owner.digest? = some d.digest := by
    simp
  rw [← known, ← own]
  unfold addType
  split
  next taken => simp [taken]
  next new =>
    split
    next unknown => simp [unknown]
    next supertypes =>
      split
      next foreign => simp [foreign]
      next methods => simp [new, supertypes, methods, eq_comm]

theorem addType_spec {c c' : Catalog H} {d : TypeDef H} (added : c.addType d = .ok c') :
    c'.shape = c.shape ++ [(d.name, d.supertypes)] ∧ (c.find? d.digest).isSome = false ∧
      ∀ s ∈ d.supertypes, c.knows s = true := by
  obtain ⟨new, known, _, rfl⟩ := addType_ok_iff.mp added
  exact ⟨by simp [shape], new, known⟩

theorem updateFirst_append {digest : Digest} {f : TypeDef H → TypeDef H} {before after : List (TypeDef H)}
    {d : TypeDef H} (others : ∀ e ∈ before, e.digest ≠ digest) (same : d.digest = digest) :
    updateFirst digest f (before ++ d :: after) = before ++ f d :: after := by
  induction before with
  | nil => simp [updateFirst, same]
  | cons e rest ih =>
    obtain ⟨different, others⟩ := List.forall_mem_cons.mp others
    simp [updateFirst, different, ih others]

/-- A method is only added to a registered type that has none of its name and parameters. -/
theorem addMethod_ok_iff {c c' : Catalog H} {m : Method H} : c.addMethod m = .ok c' ↔
    ∃ before d after, c.types = before ++ d :: after ∧ (∀ e ∈ before, e.digest ≠ d.digest) ∧
      m.owner.digest? = some d.digest ∧
      (∀ other ∈ d.methods, ¬ (other.name = m.name ∧ other.parameters = m.parameters)) ∧
      c' = ⟨before ++ { d with methods := d.methods ++ [m] } :: after⟩ := by
  have free (d : TypeDef H) :
      (d.methods.any fun other => other.name == m.name && decide (other.parameters = m.parameters)) = false ↔
        ∀ other ∈ d.methods, ¬ (other.name = m.name ∧ other.parameters = m.parameters) := by
    simp
  constructor
  · intro added
    unfold addMethod at added
    split at added
    · cases added
    next digest isOwner =>
      split at added
      · cases added
      next d found =>
        split at added
        · cases added
        next new =>
          cases added
          obtain ⟨isFound, before, after, split_, others⟩ := List.find?_eq_some_iff_append.mp found
          have same : d.digest = digest := by simpa using isFound
          subst same
          have different : ∀ e ∈ before, e.digest ≠ d.digest := by simpa using others
          refine ⟨before, d, after, split_, different, isOwner, (free d).mp (by simpa using new), ?_⟩
          rw [split_, updateFirst_append different rfl]
  · rintro ⟨before, d, after, split_, different, isOwner, new, rfl⟩
    have found : c.find? d.digest = some d :=
      List.find?_eq_some_iff_append.mpr ⟨by simp, before, after, split_, by simpa using different⟩
    simp only [addMethod, isOwner, found, (free d).mpr new, Bool.false_eq_true, if_false]
    rw [split_, updateFirst_append different rfl]

theorem addMethod_shape {c c' : Catalog H} {m : Method H} (added : c.addMethod m = .ok c') :
    c'.shape = c.shape := by
  obtain ⟨before, d, after, types, _, _, _, rfl⟩ := addMethod_ok_iff.mp added
  simp [shape, types]

theorem Ordered.append {c : Catalog H} (ordered : c.Ordered) {d : TypeDef H}
    (known : ∀ s ∈ d.supertypes, ∃ e ∈ c.types, s.digest? = some e.digest) : Ordered ⟨c.types ++ [d]⟩ := by
  have same : shape ⟨c.types ++ [d]⟩ = c.shape ++ [(d.name, d.supertypes)] := by simp [shape]
  rw [Ordered, same, orderedAfter_append]
  refine ⟨ordered, fun s member => ?_, trivial⟩
  obtain ⟨e, isEarlier, above⟩ := known s member
  exact ⟨e.name, List.mem_map.mpr ⟨_, mem_shape isEarlier, rfl⟩, above⟩

theorem builtin_shape [HostObject H] : (builtin : Catalog H).shape =
    [("Object", []), ("CharSequence", []), ("Comparable", []), ("String", [.charSequence, .comparableTo .string]),
      ("Number", []), ("Boolean", [.comparableTo (.boxed .bool)]),
      ("Integer", [.number, .comparableTo (.boxed .int)]), ("Long", [.number, .comparableTo (.boxed .long)]),
      ("Float", [.number, .comparableTo (.boxed .float)]), ("Double", [.number, .comparableTo (.boxed .double)]),
      ("Collection", []), ("List", [.declared "Collection" [.var 0]]), ("Map", []), ("Math", [])] := rfl

theorem Registered.ordered [HostObject H] {allowed : String → Prop} {c : Catalog H}
    (registered : Registered allowed c) : c.Ordered := by
  induction registered with
  | empty => trivial
  | builtin =>
    simp [Ordered, builtin_shape, OrderedAfter, Ty.digest?, Ty.charSequence, Ty.comparableTo, Ty.number,
      Ty.ofName]
  | type _ _ added ih =>
    obtain ⟨_, known, _, rfl⟩ := addType_ok_iff.mp added
    exact ih.append fun s member => knows_iff.mp (known s member)
  | method _ added ih =>
    rw [Ordered, addMethod_shape added]
    exact ih

/-- The place of a type above which no hierarchy goes: `Object` is the last, a type that is not registered has
only `Object` above it, and the others stand behind their supertypes. -/
def rank (c : Catalog H) (t : Ty) : Nat :=
  if t.isObject then 0
  else match t.digest?.bind fun digest => c.types.findIdx? (·.digest == digest) with
    | some i => i + 2
    | none => 1

theorem mem_supertypes {c : Catalog H} {t u : Ty} (above : u ∈ c.supertypes t) :
    t.isObject = false ∧ (u = .object ∨ ∃ d s, t.digest?.bind c.find? = some d ∧ s ∈ d.supertypes ∧
      u = s.substitute t.args) := by
  unfold supertypes at above
  split at above
  · cases above
  next proper =>
    simp only [Bool.or_eq_true, not_or, Bool.not_eq_true] at proper
    refine ⟨proper.1.1, ?_⟩
    split at above
    next s rest declared =>
      obtain ⟨d, found, same⟩ := Option.map_eq_some_iff.mp declared
      rw [← same] at above
      obtain ⟨s, member, rfl⟩ := List.mem_map.mp above
      exact .inr ⟨d, s, found, member, rfl⟩
    · exact .inl (List.mem_singleton.mp above)

theorem findIdx?_of_mem {types : List (TypeDef H)} {e : TypeDef H} {digest : Digest} (member : e ∈ types)
    (same : e.digest = digest) : ∃ i < types.length, types.findIdx? (·.digest == digest) = some i := by
  cases found : types.findIdx? (·.digest == digest) with
  | none => simpa [same] using List.findIdx?_eq_none_iff.mp found e member
  | some i => exact ⟨i, (List.findIdx?_eq_some_iff_getElem.mp found).1, rfl⟩

theorem rank_le {c : Catalog H} (t : Ty) : c.rank t ≤ c.size + 1 := by
  unfold rank
  split
  · omega
  · split
    next found =>
      obtain ⟨digest, _, found⟩ := Option.bind_eq_some_iff.mp found
      have inside := (List.findIdx?_eq_some_iff_getElem.mp found).1
      simp only [size]
      omega
    · omega

/-- A supertype of a registered type stands before it. -/
theorem Ordered.findIdx?_lt {c : Catalog H} (ordered : c.Ordered) {digest above : Digest} {d : TypeDef H} {s : Ty}
    (found : c.find? digest = some d) (member : s ∈ d.supertypes) (isAbove : s.digest? = some above) :
    ∃ i j, c.types.findIdx? (·.digest == digest) = some i ∧ c.types.findIdx? (·.digest == above) = some j ∧
      j < i := by
  obtain ⟨isFound, before, after, split_, others⟩ := List.find?_eq_some_iff_append.mp found
  obtain ⟨e, isEarlier, sameDigest⟩ := ordered_iff.mp ordered before d after split_ s member
  obtain ⟨j, below, first⟩ := findIdx?_of_mem isEarlier (Option.some.inj (sameDigest.symm.trans isAbove))
  have none : before.findIdx? (·.digest == digest) = none := by
    simpa using others
  refine ⟨before.length, j, ?_, ?_, below⟩
  · rw [split_, List.findIdx?_append, none, List.findIdx?_cons, isFound]
    simp
  · rw [split_, List.findIdx?_append, first, Option.some_or]

/-- Supertypes rank lower, so there is no way up without an end. -/
theorem rank_lt {c : Catalog H} (ordered : c.Ordered) {t u : Ty} (above : u ∈ c.supertypes t) :
    c.rank u < c.rank t := by
  obtain ⟨notObject, isObject | ⟨d, s, found, member, isSupertype⟩⟩ := mem_supertypes above
  · subst isObject
    unfold rank
    simp only [notObject, show Ty.object.isObject = true from rfl, if_true, Bool.false_eq_true, if_false]
    split <;> omega
  · obtain ⟨digest, isDigest, found⟩ := Option.bind_eq_some_iff.mp found
    obtain ⟨before, after, split_⟩ := List.append_of_mem (find?_mem found).1
    obtain ⟨e, _, sameDigest⟩ := ordered_iff.mp ordered before d after split_ s member
    obtain ⟨i, j, ownPlace, place, below⟩ := ordered.findIdx?_lt found member sameDigest
    have ownRank : c.rank t = i + 2 := by simp [rank, notObject, isDigest, ownPlace]
    have rank : c.rank u ≤ j + 2 := by
      rw [isSupertype, Catalog.rank, Ty.substitute_digest? t.args sameDigest]
      split
      · omega
      · simp [place]
    omega

theorem appendNew_spec (seen ts : List Ty) : ∃ added, appendNew seen ts = seen ++ added ∧
    (∀ t ∈ added, t ∈ ts) ∧ ∀ t ∈ ts, t ∈ seen ++ added := by
  induction ts generalizing seen with
  | nil => exact ⟨[], by simp [appendNew], by simp, by simp⟩
  | cons t rest ih =>
    unfold appendNew
    split
    next old =>
      obtain ⟨added, same, new, all⟩ := ih seen
      refine ⟨added, same, fun u member => List.mem_cons_of_mem t (new u member), ?_⟩
      exact List.forall_mem_cons.mpr ⟨List.mem_append_left _ old, all⟩
    · obtain ⟨added, same, new, all⟩ := ih (seen ++ [t])
      rw [List.append_assoc] at same all
      refine ⟨t :: added, same, ?_, List.forall_mem_cons.mpr ⟨by simp, all⟩⟩
      exact List.forall_mem_cons.mpr ⟨List.mem_cons_self, fun u member => List.mem_cons_of_mem t (new u member)⟩

theorem closure_starts {c : Catalog H} (rounds : Nat) (seen level : List Ty) :
    ∃ above, c.closure rounds seen level = seen ++ above := by
  induction rounds generalizing seen level with
  | zero => exact ⟨[], by simp [closure]⟩
  | succ rounds ih =>
    obtain ⟨added, same, _⟩ := appendNew_spec seen (level.flatMap c.supertypes)
    simp only [closure, same, List.drop_left]
    split
    · exact ⟨[], by simp⟩
    · obtain ⟨above, found⟩ := ih (seen ++ added) added
      exact ⟨added ++ above, by rw [found, List.append_assoc]⟩

theorem hierarchy_starts {c : Catalog H} (t : Ty) : ∃ above, c.hierarchy t = t :: above := closure_starts _ [t] [t]

/-- What is kept going up from types holds in their whole closure. -/
theorem closure_induction {c : Catalog H} {P : Ty → Prop} (step : ∀ t, P t → ∀ u ∈ c.supertypes t, P u)
    {rounds : Nat} {seen level : List Ty} (all : ∀ t ∈ seen, P t) (inside : ∀ t ∈ level, t ∈ seen) :
    ∀ t ∈ c.closure rounds seen level, P t := by
  induction rounds generalizing seen level with
  | zero => exact all
  | succ rounds ih =>
    obtain ⟨added, same, new, _⟩ := appendNew_spec seen (level.flatMap c.supertypes)
    simp only [closure, same, List.drop_left]
    split
    · exact all
    · refine ih (List.forall_mem_append.mpr ⟨all, fun u isNew => ?_⟩)
        fun t member => List.mem_append_right _ member
      obtain ⟨t, isLevel, above⟩ := List.mem_flatMap.mp (new u isNew)
      exact step t (all t (inside t isLevel)) u above

theorem hierarchy_induction {c : Catalog H} {P : Ty → Prop} {t : Ty} (start : P t)
    (step : ∀ s, P s → ∀ u ∈ c.supertypes s, P u) : ∀ s ∈ c.hierarchy t, P s :=
  closure_induction step (by simpa using start) fun _ => id

/-- With rounds for every rank of the last level, nothing is missing above the closure. -/
theorem closure_closed {c : Catalog H} (ordered : c.Ordered) {rounds : Nat} {seen level : List Ty}
    (inside : ∀ t ∈ level, t ∈ seen)
    (closed : ∀ t ∈ seen, t ∈ level ∨ ∀ u ∈ c.supertypes t, u ∈ seen) (enough : ∀ t ∈ level, c.rank t ≤ rounds) :
    (∀ t ∈ seen, t ∈ c.closure rounds seen level) ∧
      ∀ t ∈ c.closure rounds seen level, ∀ u ∈ c.supertypes t, u ∈ c.closure rounds seen level := by
  induction rounds generalizing seen level with
  | zero =>
    refine ⟨fun t => id, fun t member u above => ?_⟩
    rcases closed t member with isLevel | isClosed
    · -- Nothing ranks below the last level, so nothing is above it.
      have lower := rank_lt ordered above
      have bound := enough t isLevel
      omega
    · exact isClosed u above
  | succ rounds ih =>
    obtain ⟨added, same, new, all⟩ := appendNew_spec seen (level.flatMap c.supertypes)
    have reached : ∀ t ∈ level, ∀ u ∈ c.supertypes t, u ∈ seen ++ added := fun t isLevel u above =>
      all u (List.mem_flatMap.mpr ⟨t, isLevel, above⟩)
    simp only [closure, same, List.drop_left]
    split
    next nothing =>
      rw [List.isEmpty_iff.mp nothing, List.append_nil] at reached
      exact ⟨fun t => id, fun t member => (closed t member).elim (reached t) id⟩
    · have insideNext : ∀ t ∈ added, t ∈ seen ++ added := fun t member => List.mem_append_right _ member
      have closedNext : ∀ t ∈ seen ++ added, t ∈ added ∨ ∀ u ∈ c.supertypes t, u ∈ seen ++ added := by
        intro t member
        rcases List.mem_append.mp member with isSeen | isNew
        · refine .inr fun u above => ?_
          rcases closed t isSeen with isLevel | isClosed
          · exact reached t isLevel u above
          · exact List.mem_append_left _ (isClosed u above)
        · exact .inl isNew
      have enoughNext : ∀ u ∈ added, c.rank u ≤ rounds := by
        intro u isNew
        obtain ⟨t, isLevel, above⟩ := List.mem_flatMap.mp (new u isNew)
        have lower := rank_lt ordered above
        have bound := enough t isLevel
        omega
      obtain ⟨kept, isClosed⟩ := ih insideNext closedNext enoughNext
      exact ⟨fun t member => kept t (List.mem_append_left _ member), isClosed⟩

/-- One type is a direct supertype of another. -/
def Above (c : Catalog H) (t u : Ty) : Prop := u ∈ c.supertypes t

/-- The hierarchy of a type holds the types reached by going up from it. -/
theorem mem_hierarchy {c : Catalog H} (ordered : c.Ordered) {t u : Ty} :
    u ∈ c.hierarchy t ↔ ReflTransGen c.Above t u := by
  constructor
  · exact hierarchy_induction (P := ReflTransGen c.Above t) .refl (fun s reached u above => reached.tail above) u
  · have enough : ∀ s ∈ [t], c.rank s ≤ c.size + 2 := fun s _ => Nat.le_succ_of_le (rank_le s)
    obtain ⟨own, closed⟩ := closure_closed ordered (fun s => id) (fun s member => .inl member) enough
    intro reached
    induction reached with
    | refl => exact own t (List.mem_singleton_self t)
    | tail _ above ih => exact closed _ ih _ above

theorem mem_hierarchy_self {c : Catalog H} (ordered : c.Ordered) (t : Ty) : t ∈ c.hierarchy t :=
  (mem_hierarchy ordered).mpr .refl

theorem hierarchy_trans {c : Catalog H} (ordered : c.Ordered) {t u s : Ty} (first : u ∈ c.hierarchy t)
    (second : s ∈ c.hierarchy u) : s ∈ c.hierarchy t :=
  (mem_hierarchy ordered).mpr (((mem_hierarchy ordered).mp first).trans ((mem_hierarchy ordered).mp second))

theorem Ordered.supertype {c : Catalog H} (ordered : c.Ordered) {n : String} {supertypes : List Ty}
    (entry : (n, supertypes) ∈ c.shape) {s : Ty} (member : s ∈ supertypes) :
    ∃ m above, (m, above) ∈ c.shape ∧ s.digest? = some (.ofName m) := by
  obtain ⟨before, after, split_⟩ := List.append_of_mem entry
  have order := ordered
  rw [Ordered, split_, orderedAfter_append] at order
  obtain ⟨m, isName, digest⟩ := order.2.1 s member
  obtain ⟨⟨_, above⟩, earlier, rfl⟩ := List.mem_map.mp isName
  exact ⟨_, above, by simp [split_, show _ ∈ before from earlier], digest⟩

/-- The names of the supertypes do not depend on the arguments of the type. -/
theorem supertypes_of_digest {c : Catalog H} (ordered : c.Ordered) {t t' : Ty} (sameDigest : t.digest? = t'.digest?)
    (sameObject : t.isObject = t'.isObject) (sameReference : t.isReference = t'.isReference)
    (sameNull : t.isNull = t'.isNull) : (c.supertypes t).map Ty.erase = (c.supertypes t').map Ty.erase := by
  unfold supertypes
  rw [sameDigest, sameObject, sameReference, sameNull]
  split
  · rfl
  · cases found : t'.digest?.bind c.find? with
    | none => rfl
    | some d =>
      obtain ⟨digest, _, registered⟩ := Option.bind_eq_some_iff.mp found
      have bound (args : List Ty) :
          (d.supertypes.map (·.substitute args)).map Ty.erase = d.supertypes.map Ty.erase := by
        rw [List.map_map]
        refine List.map_congr_left fun s member => ?_
        obtain ⟨_, _, _, isDigest⟩ := ordered.supertype (mem_shape (find?_mem registered).1) member
        exact Ty.substitute_erase args isDigest
      have first := bound t.args
      have second := bound t'.args
      cases declared : d.supertypes with
      | nil => simp [declared]
      | cons s rest =>
        rw [declared] at first second
        simpa only [Option.map_some, declared, List.map_cons] using first.trans second.symm

theorem supertypes_erase {c : Catalog H} (ordered : c.Ordered) {t t' : Ty} (same : t.erase = t'.erase) :
    (c.supertypes t).map Ty.erase = (c.supertypes t').map Ty.erase := by
  apply supertypes_of_digest ordered
  · rw [← t.erase_digest?, same, t'.erase_digest?]
  · rw [← t.erase_isObject, same, t'.erase_isObject]
  · rw [← t.erase_isReference, same, t'.erase_isReference]
  · rw [← t.erase_isNull, same, t'.erase_isNull]

/-- Nor do those of the whole hierarchy. -/
theorem hierarchy_erase {c : Catalog H} (ordered : c.Ordered) {t t' u : Ty} (same : t.erase = t'.erase)
    (member : u ∈ c.hierarchy t) : ∃ u' ∈ c.hierarchy t', u'.erase = u.erase := by
  have reached := (mem_hierarchy ordered).mp member
  induction reached with
  | refl => exact ⟨t', mem_hierarchy_self ordered t', same.symm⟩
  | @tail s u reached above ih =>
    obtain ⟨s', isAbove, sameName⟩ := ih ((mem_hierarchy ordered).mpr reached)
    have erased : u.erase ∈ (c.supertypes s').map Ty.erase := by
      rw [supertypes_erase ordered sameName]
      exact List.mem_map_of_mem above
    obtain ⟨u', above', sameName'⟩ := List.mem_map.mp erased
    exact ⟨u', (mem_hierarchy ordered).mpr (((mem_hierarchy ordered).mp isAbove).tail above'), sameName'⟩

end Catalog
end TypedExpr
