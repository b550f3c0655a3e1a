import Mathlib.Data.List.Nodup
import Mathlib.Logic.Relation
import TypedExpr.Host.Record
import TypedExpr.Proofs.Hierarchy
import TypedExpr.Registry
/-!
# Registration

A call either fails and leaves the registry as it was, or adds the given type or method and nothing else (`Adds`).
What a call keeps (`Valid`) therefore holds after all calls. Methods of one name and one list of parameters are only
refused one by one: a type that brings two of them keeps both.
-/

namespace TypedExpr

open Relation (TransGen)

variable {H : Type}

namespace Catalog

theorem find?_key_iff {κ : Type} [BEq κ] [LawfulBEq κ] {types : List (TypeDef H)} (key : TypeDef H → κ)
    (distinct : (types.map key).Nodup) {k : κ} {d : TypeDef H} :
    types.find? (key · == k) = some d ↔ d ∈ types ∧ key d = k := by
  constructor
  · intro found
    exact ⟨List.mem_of_find?_eq_some found, by simpa using List.find?_some found⟩
  · rintro ⟨member, rfl⟩
    have isFound : (types.find? (key · == key d)).isSome = true := List.find?_isSome.mpr ⟨d, member, by simp⟩
    obtain ⟨e, found⟩ := Option.isSome_iff_exists.mp isFound
    have sameKey : key e = key d := by simpa using List.find?_some found
    rw [found, List.inj_on_of_nodup_map distinct (List.mem_of_find?_eq_some found) member sameKey]

theorem shape_digests (c : Catalog H) :
    (c.shape.map fun e => Digest.ofName e.1) = c.types.map (·.digest) := by
  rw [shape, List.map_map]
  rfl

end Catalog

namespace Registry

/-- What a call that succeeds finds and what it makes of it. -/
inductive Adds (r : Registry H) : Registration H → Registry H → Prop where
  | type {d : TypeDef H} (newDigest : ∀ e ∈ r.catalog.types, e.digest ≠ d.digest) (newName : r.digest? d.name = none)
      (known : ∀ s ∈ d.supertypes, ∃ e ∈ r.catalog.types, s.digest? = some e.digest)
      (own : ∀ m ∈ d.methods, m.owner.digest? = some d.digest) :
      r.Adds (.type d) { catalog := ⟨r.catalog.types ++ [d]⟩, names := (d.name, d.digest) :: r.names }
  | method {m : Method H} {before after : List (TypeDef H)} {d : TypeDef H}
      (types : r.catalog.types = before ++ d :: after) (owner : m.owner.digest? = some d.digest)
      (new : ∀ other ∈ d.methods, ¬ (other.name = m.name ∧ other.parameters = m.parameters)) :
      r.Adds (.method m) { r with catalog := ⟨before ++ { d with methods := d.methods ++ [m] } :: after⟩ }

/-- Both tables describe the same types, each with supertypes that were there before it and with methods of its
own. -/
structure Valid (r : Registry H) : Prop where
  distinct : (r.catalog.types.map (·.digest)).Nodup
  indexed : ∀ name digest, r.digest? name = some digest ↔ ∃ d, r.catalog.find? digest = some d ∧ d.name = name
  earlier : ∀ before d after, r.catalog.types = before ++ d :: after → ∀ s ∈ d.supertypes,
    ∃ e ∈ before, s.digest? = some e.digest
  owned : ∀ d ∈ r.catalog.types, ∀ m ∈ d.methods, m.owner.digest? = some d.digest

/-- The types of one registry stand in the other under the same names, with nothing changed but for methods that
are added after theirs. -/
structure Extends (r r' : Registry H) : Prop where
  types : ∀ digest d, r.catalog.find? digest = some d →
    ∃ more, r'.catalog.find? digest = some { d with methods := d.methods ++ more }
  names : ∀ name digest, r.digest? name = some digest → r'.digest? name = some digest

/-- The type of the one digest declares a supertype with the other. -/
def Declares (r : Registry H) (digest above : Digest) : Prop :=
  ∃ d, r.catalog.find? digest = some d ∧ ∃ s ∈ d.supertypes, s.digest? = some above

theorem find?_iff {r : Registry H} (distinct : (r.catalog.types.map (·.digest)).Nodup) {digest : Digest}
    {d : TypeDef H} : r.catalog.find? digest = some d ↔ d ∈ r.catalog.types ∧ d.digest = digest :=
  Catalog.find?_key_iff (·.digest) distinct

/-- All but the methods is decided by the names and supertypes. -/
theorem valid_iff {r : Registry H} : r.Valid ↔ (r.catalog.shape.map fun e => Digest.ofName e.1).Nodup ∧
    (∀ name digest, r.digest? name = some digest ↔
      digest = .ofName name ∧ name ∈ r.catalog.shape.map Prod.fst) ∧
    r.catalog.Ordered ∧ ∀ d ∈ r.catalog.types, ∀ m ∈ d.methods, m.owner.digest? = some d.digest := by
  have named (distinct : (r.catalog.types.map (·.digest)).Nodup) (name : String) (digest : Digest) :
      (∃ d, r.catalog.find? digest = some d ∧ d.name = name) ↔
        digest = .ofName name ∧ name ∈ r.catalog.shape.map Prod.fst := by
    simp only [find?_iff distinct, Catalog.shape, List.map_map, List.mem_map]
    constructor
    · rintro ⟨d, ⟨member, rfl⟩, rfl⟩
      exact ⟨rfl, d, member, rfl⟩
    · rintro ⟨rfl, d, member, rfl⟩
      exact ⟨d, ⟨member, rfl⟩, rfl⟩
  rw [Catalog.shape_digests, Catalog.ordered_iff]
  constructor
  · rintro ⟨distinct, indexed, earlier, owned⟩
    exact ⟨distinct, fun name digest => (indexed name digest).trans (named distinct name digest), earlier, owned⟩
  · rintro ⟨distinct, indexed, earlier, owned⟩
    exact ⟨distinct, fun name digest => (indexed name digest).trans (named distinct name digest).symm, earlier, owned⟩

namespace Valid

variable {r r' : Registry H}

/-- The index leads to the type of the name. -/
theorem get?_eq (valid : r.Valid) (name : String) : r.get? name = r.catalog.get? name := by
  apply Option.ext
  intro d
  have names : (r.catalog.types.map (·.name)).Nodup := by
    apply List.Nodup.of_map Digest.ofName
    rw [List.map_map]
    exact valid.distinct
  have byName : r.catalog.get? name = some d ↔ d ∈ r.catalog.types ∧ d.name = name :=
    Catalog.find?_key_iff (·.name) names
  rw [byName, get?, Option.bind_eq_some_iff]
  constructor
  · rintro ⟨digest, isIndexed, found⟩
    obtain ⟨e, found', sameName⟩ := (valid.indexed name digest).mp isIndexed
    cases found.symm.trans found'
    exact ⟨((find?_iff valid.distinct).mp found).1, sameName⟩
  · rintro ⟨member, sameName⟩
    have found := (find?_iff valid.distinct).mpr ⟨member, rfl⟩
    exact ⟨d.digest, (valid.indexed name d.digest).mpr ⟨d, found, sameName⟩, found⟩

theorem newName (valid : r.Valid) {d : TypeDef H} (new : ∀ e ∈ r.catalog.types, e.digest ≠ d.digest) :
    r.digest? d.name = none := by
  apply Option.eq_none_iff_forall_not_mem.mpr
  intro digest isIndexed
  obtain ⟨e, found, sameName⟩ := (valid.indexed d.name digest).mp isIndexed
  exact new e (Catalog.find?_mem found).1 (congrArg Digest.ofName sameName)

/-- No chain of declared supertypes comes back to where it started. -/
theorem acyclic (valid : r.Valid) (digest : Digest) : ¬ TransGen r.Declares digest digest := by
  have place {low high : Digest} (declares : TransGen r.Declares low high) :
      ∃ i j, r.catalog.types.findIdx? (·.digest == low) = some i ∧
        r.catalog.types.findIdx? (·.digest == high) = some j ∧ j < i := by
    have ordered := Catalog.ordered_iff.mpr valid.earlier
    induction declares with
    | single declares =>
      obtain ⟨d, found, s, member, isAbove⟩ := declares
      exact ordered.findIdx?_lt found member isAbove
    | tail _ declares ih =>
      obtain ⟨d, found, s, member, isAbove⟩ := declares
      obtain ⟨i, j, first, second, below⟩ := ih
      obtain ⟨j', k, second', third, below'⟩ := ordered.findIdx?_lt found member isAbove
      cases second.symm.trans second'
      exact ⟨i, k, first, third, by omega⟩
  intro cycle
  obtain ⟨i, j, first, second, below⟩ := place cycle
  cases first.symm.trans second
  omega

theorem above_acyclic (valid : r.Valid) (t : Ty) : ¬ TransGen r.catalog.Above t t := by
  have lower {low high : Ty} (above : TransGen r.catalog.Above low high) :
      r.catalog.rank high < r.catalog.rank low := by
    have ordered := Catalog.ordered_iff.mpr valid.earlier
    induction above with
    | single above => exact Catalog.rank_lt ordered above
    | tail _ above ih => exact Nat.lt_trans (Catalog.rank_lt ordered above) ih
  intro cycle
  exact Nat.lt_irrefl _ (lower cycle)

theorem adds {call : Registration H} (valid : r.Valid) (added : r.Adds call r') : r'.Valid := by
  obtain ⟨distinct, indexed, ordered, owned⟩ := valid_iff.mp valid
  cases added with
  | @type d newDigest newName known own =>
    have shape : Catalog.shape ⟨r.catalog.types ++ [d]⟩ = r.catalog.shape ++ [(d.name, d.supertypes)] := by
      simp [Catalog.shape]
    refine valid_iff.mpr ⟨?_, fun name digest => ?_, ?_, List.forall_mem_append.mpr ⟨owned, by simpa using own⟩⟩
    · rw [shape, List.map_append, List.nodup_append]
      refine ⟨distinct, by simp, ?_⟩
      simpa [Catalog.shape, TypeDef.digest] using newDigest
    · by_cases sameName : name = d.name
      · subst sameName
        simp [digest?, shape, TypeDef.digest, eq_comm]
      · have old := indexed name digest
        simp only [digest?] at old ⊢
        simp [List.lookup_cons, beq_false_of_ne sameName, old, shape, sameName]
    · exact ordered.append known
  | @method m before after d types owner new =>
    have shape : Catalog.shape ⟨before ++ { d with methods := d.methods ++ [m] } :: after⟩ = r.catalog.shape := by
      simp [Catalog.shape, types]
    refine valid_iff.mpr ⟨?_, fun name digest => ?_, ?_, ?_⟩
    · rw [shape]
      exact distinct
    · rw [shape]
      exact indexed name digest
    · rw [Catalog.Ordered, shape]
      exact ordered
    · rw [types] at owned
      obtain ⟨ownedBefore, own, ownedAfter⟩ := by simpa only [List.forall_mem_append, List.forall_mem_cons] using owned
      refine List.forall_mem_append.mpr ⟨ownedBefore, List.forall_mem_cons.mpr ⟨?_, ownedAfter⟩⟩
      exact List.forall_mem_append.mpr ⟨own, List.forall_mem_singleton.mpr owner⟩

end Valid

theorem Extends.refl (r : Registry H) : r.Extends r :=
  ⟨fun _ d found => ⟨[], by simpa using found⟩, fun _ _ => id⟩

theorem Extends.trans {r r' r'' : Registry H} (first : r.Extends r') (second : r'.Extends r'') : r.Extends r'' := by
  refine ⟨fun digest d found => ?_, fun name digest found => second.names name digest (first.names name digest found)⟩
  obtain ⟨more, found⟩ := first.types digest d found
  obtain ⟨further, found⟩ := second.types digest _ found
  exact ⟨more ++ further, by simpa using found⟩

theorem Adds.extends {r r' : Registry H} {call : Registration H} (valid : r.Valid) (added : r.Adds call r') :
    r.Extends r' := by
  have distinct := (valid.adds added).distinct
  have stays (e : TypeDef H) {digest : Digest} (same : e.digest = digest) (member : e ∈ r'.catalog.types) :
      ∃ more, r'.catalog.find? digest = some { e with methods := e.methods ++ more } :=
    ⟨[], by simpa using (find?_iff distinct).mpr ⟨member, same⟩⟩
  cases added with
  | @type d newDigest newName known own =>
    refine ⟨fun digest e found => ?_, fun name digest found => ?_⟩
    · obtain ⟨member, same⟩ := (find?_iff valid.distinct).mp found
      exact stays e same (List.mem_append_left _ member)
    · have different : name ≠ d.name := by
        rintro rfl
        rw [newName] at found
        cases found
      rw [digest?] at found
      simp [digest?, List.lookup_cons, beq_false_of_ne different, found]
  | @method m before after d types owner new =>
    refine ⟨fun digest e found => ?_, fun _ _ => id⟩
    obtain ⟨member, same⟩ := (find?_iff valid.distinct).mp found
    rw [types, List.mem_append, List.mem_cons] at member
    rcases member with isBefore | rfl | isAfter
    · exact stays e same (by simp [isBefore])
    · exact ⟨[m], (find?_iff distinct).mpr ⟨by simp, same⟩⟩
    · exact stays e same (by simp [isAfter])

theorem call_type (r : Registry H) (d : TypeDef H) : r.call (.type d) = match r.catalog.addType d with
    | .ok _ => (.ok (), r.insert d)
    | .error e => (.error e, r) := by
  change ((liftExcept (r.catalog.addType d) >>= fun _ => set (r.insert d) : Registering H Unit).run.run r).run = _
  cases r.catalog.addType d with
  | ok _ => rfl
  | error e => rfl

theorem call_method (r : Registry H) (m : Method H) : r.call (.method m) = match r.catalog.addMethod m with
    | .ok catalog => (.ok (), { r with catalog })
    | .error e => (.error e, r) := by
  change ((liftExcept (r.catalog.addMethod m) >>= fun catalog => set { r with catalog } :
    Registering H Unit).run.run r).run = _
  cases r.catalog.addMethod m with
  | ok _ => rfl
  | error e => rfl

theorem insert_new {r : Registry H} {d : TypeDef H} (new : ∀ e ∈ r.catalog.types, e.digest ≠ d.digest) :
    r.insert d = { catalog := ⟨r.catalog.types ++ [d]⟩, names := (d.name, d.digest) :: r.names } := by
  have absent : r.catalog.find? d.digest = none := by simpa [Catalog.find?] using new
  simp [insert, Catalog.put, absent]

/-- A call fails and changes nothing, or adds what it was given. -/
theorem call_cases {r : Registry H} (valid : r.Valid) (c : Registration H) :
    (∃ e, r.call c = (.error e, r)) ∨ ∃ r', r.call c = (.ok (), r') ∧ r.Adds c r' := by
  cases c with
  | type d =>
    rw [call_type]
    cases added : r.catalog.addType d with
    | error e => exact .inl ⟨e, rfl⟩
    | ok c' =>
      obtain ⟨new, known, own, -⟩ := Catalog.addType_ok_iff.mp added
      have newDigest : ∀ e ∈ r.catalog.types, e.digest ≠ d.digest := by simpa [Catalog.find?] using new
      refine .inr ⟨r.insert d, rfl, ?_⟩
      rw [insert_new newDigest]
      exact .type newDigest (valid.newName newDigest) (fun s member => Catalog.knows_iff.mp (known s member)) own
  | method m =>
    rw [call_method]
    cases added : r.catalog.addMethod m with
    | error e => exact .inl ⟨e, rfl⟩
    | ok c' =>
      obtain ⟨before, d, after, types, _, owner, new, rfl⟩ := Catalog.addMethod_ok_iff.mp added
      exact .inr ⟨_, rfl, .method types owner new⟩

theorem Adds.call_eq {r r' : Registry H} {c : Registration H} (valid : r.Valid) (added : r.Adds c r') :
    r.call c = (.ok (), r') := by
  cases added with
  | @type d newDigest newName known own =>
    have accepted : r.catalog.addType d = .ok ⟨r.catalog.types ++ [d]⟩ := by
      refine Catalog.addType_ok_iff.mpr ⟨by simpa [Catalog.find?] using newDigest, ?_, own, rfl⟩
      intro s member
      exact Catalog.knows_iff.mpr (known s member)
    rw [call_type, accepted, insert_new newDigest]
  | @method m before after d types owner new =>
    have others : ∀ e ∈ before, e.digest ≠ d.digest := by
      have distinct := valid.distinct
      rw [types, List.map_append, List.nodup_append] at distinct
      intro e member
      exact distinct.2.2 _ (List.mem_map_of_mem member) _ (by simp)
    have accepted := Catalog.addMethod_ok_iff.mpr ⟨before, d, after, types, others, owner, new, rfl⟩
    rw [call_method, accepted]

theorem after_cons (r : Registry H) (c : Registration H) (rest : List (Registration H)) :
    r.after (c :: rest) = (r.call c).2.after rest := rfl

theorem Valid.after {r : Registry H} (valid : r.Valid) (calls : List (Registration H)) :
    (r.after calls).Valid ∧ r.Extends (r.after calls) := by
  induction calls generalizing r with
  | nil => exact ⟨valid, .refl r⟩
  | cons c rest ih =>
    rw [after_cons]
    rcases call_cases valid c with ⟨e, failed⟩ | ⟨r', succeeds, added⟩
    · rw [failed]
      exact ih valid
    · rw [succeeds]
      obtain ⟨validAfter, extends_⟩ := ih (valid.adds added)
      exact ⟨validAfter, (added.extends valid).trans extends_⟩

theorem empty_valid : (empty : Registry H).Valid :=
  valid_iff.mpr ⟨by simp [empty, Catalog.shape], by simp [empty, Catalog.shape, digest?], trivial, by simp [empty]⟩

/-- Types that the checks would accept keep a registry valid without them. -/
theorem foldl_insert_valid {r : Registry H} {types : List (TypeDef H)} (valid : r.Valid)
    (distinct : ((r.catalog.types ++ types).map (·.digest)).Nodup)
    (ordered : Catalog.Ordered ⟨r.catalog.types ++ types⟩)
    (owned : ∀ d ∈ types, ∀ m ∈ d.methods, m.owner.digest? = some d.digest) :
    (types.foldl insert r).Valid ∧ (types.foldl insert r).catalog = ⟨r.catalog.types ++ types⟩ := by
  induction types generalizing r with
  | nil => exact ⟨valid, by simp⟩
  | cons d rest ih =>
    obtain ⟨own, ownedRest⟩ := List.forall_mem_cons.mp owned
    have newDigest : ∀ e ∈ r.catalog.types, e.digest ≠ d.digest := by
      rw [List.map_append, List.nodup_append] at distinct
      intro e member
      exact distinct.2.2 _ (List.mem_map_of_mem member) _ (by simp)
    have known := Catalog.ordered_iff.mp ordered r.catalog.types d rest rfl
    have validNext := valid.adds (.type newDigest (valid.newName newDigest) known own)
    rw [List.append_cons] at distinct ordered ⊢
    rw [List.foldl_cons, insert_new newDigest]
    exact ih validNext distinct ordered ownedRest

theorem builtin_owned [HostObject H] :
    ∀ d ∈ (builtinTypes : List (TypeDef H)), ∀ m ∈ d.methods, m.owner.digest? = some d.digest := by
  simp [builtinTypes, Builtin.objectType, Builtin.charSequenceType, Builtin.comparableType, Builtin.stringType,
    Builtin.numberType, Builtin.booleanType, Builtin.boxType, Builtin.collectionType, Builtin.listType,
    Builtin.mapType, Builtin.mathType, Method.declare, Method.declareStatic, Ty.digest?, TypeDef.digest, Kind.isIntegral,
    Kind.boxName, Ty.object, Ty.charSequence, Ty.comparableTo, Ty.string, Ty.number, Ty.listOf, Ty.mapOf, Ty.ofName]

theorem start_valid [HostObject H] (builtins : Bool) :
    (start builtins : Registry H).Valid ∧
      (start builtins : Registry H).catalog = if builtins then .builtin else .empty := by
  cases builtins with
  | false => exact ⟨empty_valid, rfl⟩
  | true =>
    have registered : (Catalog.builtin : Catalog H).Registered fun _ => True := .builtin
    have distinct : ((Catalog.builtin : Catalog H).types.map (·.digest)).Nodup := by
      rw [← Catalog.shape_digests, Catalog.builtin_shape]
      decide +kernel
    exact foldl_insert_valid empty_valid distinct registered.ordered builtin_owned

theorem call_registered [HostObject H] {r : Registry H} (registered : r.catalog.Registered fun _ => True)
    (c : Registration H) : (r.call c).2.catalog.Registered fun _ => True := by
  cases c with
  | type d =>
    rw [call_type]
    cases added : r.catalog.addType d with
    | error e => exact registered
    | ok c' =>
      obtain ⟨new, _, _, rfl⟩ := Catalog.addType_ok_iff.mp added
      rw [insert_new (by simpa [Catalog.find?] using new)]
      exact .type registered trivial added
  | method m =>
    rw [call_method]
    cases added : r.catalog.addMethod m with
    | error e => exact registered
    | ok c' => exact .method registered added

theorem after_registered [HostObject H] (builtins : Bool) (calls : List (Registration H)) :
    ((start builtins).after calls : Registry H).catalog.Registered fun _ => True := by
  have initially : (start builtins : Registry H).catalog.Registered fun _ => True := by
    rw [(start_valid builtins).2]
    cases builtins with
    | false => exact .empty
    | true => exact .builtin
  revert initially
  generalize (start builtins : Registry H) = r
  induction calls generalizing r with
  | nil => exact id
  | cons c rest ih => exact fun registered => ih _ (call_registered registered c)

/-- Whatever the calls, the registry is valid and without a cycle, all that was registered stays, and the next call
adds what it was given or changes nothing. -/
theorem after_valid_atomic [HostObject H] (builtins : Bool) (calls : List (Registration H)) :
    let r : Registry H := (start builtins).after calls
    r.catalog.Registered (fun _ => True) ∧ r.Valid ∧ (∀ digest, ¬ TransGen r.Declares digest digest) ∧
      (∀ t, ¬ TransGen r.catalog.Above t t) ∧ (∀ name, r.get? name = r.catalog.get? name) ∧
      (∀ later, r.Extends (r.after later)) ∧ (∀ c r', r.call c = (.ok (), r') ↔ r.Adds c r') ∧
      ∀ c e r', r.call c = (.error e, r') → r' = r := by
  intro r
  have valid : r.Valid := ((start_valid builtins).1.after calls).1
  refine ⟨after_registered builtins calls, valid, valid.acyclic, valid.above_acyclic, valid.get?_eq,
    fun later => (valid.after later).2, fun c r' => ⟨fun succeeds => ?_, Adds.call_eq valid⟩,
    fun c e r' fails => ?_⟩
  · rcases call_cases valid c with ⟨e, failed⟩ | ⟨_, succeeds', added⟩
    · cases succeeds.symm.trans failed
    · cases succeeds.symm.trans succeeds'
      exact added
  · rcases call_cases valid c with ⟨e', failed⟩ | ⟨_, succeeds, _⟩
    · cases fails.symm.trans failed
      rfl
    · cases fails.symm.trans succeeds

end Registry

/-- No two methods have the same name and the same parameters. -/
def TypeDef.Unambiguous (d : TypeDef H) : Prop :=
  d.methods.Pairwise fun m other => ¬ (m.name = other.name ∧ m.parameters = other.parameters)

instance TypeDef.decidableUnambiguous (d : TypeDef H) : Decidable d.Unambiguous :=
  inferInstanceAs (Decidable (List.Pairwise _ _))

theorem builtinTypes_unambiguous [HostObject H] : ∀ d ∈ (builtinTypes : List (TypeDef H)), d.Unambiguous := by
  simp [builtinTypes, TypeDef.Unambiguous, Builtin.objectType, Builtin.charSequenceType, Builtin.comparableType,
    Builtin.stringType, Builtin.numberType, Builtin.booleanType, Builtin.boxType, Builtin.collectionType,
    Builtin.listType, Builtin.mapType, Builtin.mathType, Method.declare, Method.declareStatic, Kind.isIntegral,
    Builtin.parseName]

namespace Registry

/-- The calls that succeed, in their order. -/
def accepted (r : Registry H) : List (Registration H) → List (Registration H)
  | [] => []
  | c :: rest => match r.call c with
    | (.ok _, r') => c :: r'.accepted rest
    | (.error _, r') => r'.accepted rest

/-- What stands under a digest after calls is free of duplicates if it was before and comes without any. -/
theorem unambiguous_after {r : Registry H} (valid : r.Valid) (calls : List (Registration H)) (digest : Digest) :
    (∀ e ∈ (r.after calls).catalog.types, e.digest = digest → e.Unambiguous) ↔
      (∀ d ∈ r.catalog.types, d.digest = digest → d.Unambiguous) ∧
        ∀ d, .type d ∈ r.accepted calls → d.digest = digest → d.Unambiguous := by
  induction calls generalizing r with
  | nil => simp [after, accepted]
  | cons c rest ih =>
    rw [after_cons]
    rcases call_cases valid c with ⟨fault, failed⟩ | ⟨r', succeeds, added⟩
    · simpa only [accepted, failed] using ih valid
    · simp only [accepted, succeeds]
      rw [ih (valid.adds added)]
      cases added with
      | @type d newDigest newName known own => simp [or_imp, forall_and, and_assoc]
      | @method m before after d types owner new =>
        have kept : TypeDef.Unambiguous { d with methods := d.methods ++ [m] } ↔ d.Unambiguous := by
          simp only [TypeDef.Unambiguous, List.pairwise_append]
          simpa using fun _ => new
        simp [types, or_imp, forall_and, kept, TypeDef.digest_methods]

/-- A registered type has a method twice only if it was registered with it. -/
theorem unambiguous_iff_accepted [HostObject H] (builtins : Bool) (calls : List (Registration H)) (digest : Digest) :
    (∀ e, ((start builtins).after calls : Registry H).catalog.find? digest = some e → e.Unambiguous) ↔
      ∀ d, .type d ∈ (start builtins : Registry H).accepted calls → d.digest = digest → d.Unambiguous := by
  obtain ⟨valid, catalog⟩ := start_valid (H := H) builtins
  have initially : ∀ d ∈ (start builtins : Registry H).catalog.types, d.digest = digest → d.Unambiguous := by
    rw [catalog]
    cases builtins with
    | false => simp [Catalog.empty]
    | true => exact fun d isBuiltin _ => builtinTypes_unambiguous d isBuiltin
  have finally_ := unambiguous_after valid calls digest
  simp only [find?_iff (valid.after calls).1.distinct, and_imp]
  rw [finally_]
  exact and_iff_right initially

end Registry

section Cart

def cartType : TypeDef Record where
  name := "Cart"
  methods :=
    [.declare (.ofName "Cart") "total" [] .int fun _ _ => .ok (.int 1),
     .declare (.ofName "Cart") "total" [] .int fun _ _ => .ok (.int 2)]

/-- A type that brings a method twice is accepted with both. -/
theorem cartType_ambiguous :
    (Registry.start false).accepted [.type cartType] = [.type cartType] ∧
      ∃ e ∈ ((Registry.start false).after [.type cartType]).catalog.types, ¬ e.Unambiguous := by
  have added : Registry.empty.Adds (.type cartType) ⟨⟨[cartType]⟩, [(cartType.name, cartType.digest)]⟩ :=
    .type (by simp [Registry.empty]) rfl (by simp [cartType])
      (by simp [cartType, Method.declare, Ty.ofName, Ty.digest?, TypeDef.digest])
  have succeeds := added.call_eq Registry.empty_valid
  constructor
  · simp [Registry.start, Registry.accepted, succeeds]
  · refine ⟨cartType, ?_, by decide⟩
    simp [Registry.start, Registry.after, succeeds]

end Cart
end TypedExpr
