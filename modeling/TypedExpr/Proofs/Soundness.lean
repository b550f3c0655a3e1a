import TypedExpr.Proofs.TypedStack
/-!
# Expressions leave values of their types

The code of every expression turns a stack into one that has a value of the static type on top
(`Layout.transfers`). The rules here put together what the single instructions do; `Typed.Trusted` is what they
ask of the host before they say anything about types.
-/

namespace TypedExpr

open Machine Operation Generation Catalog

variable {H : Type} [HostObject H]

namespace Transfers

variable {p : Program H} {env : Environment H} {trusted : Prop} {sites more : List (Method H × Ty)}
  {before after types : List Ty} {line : Nat} {t u : Ty}

theorem node {e : Typed H} {code : Code} (transfers : Transfers p env trusted sites before code after)
    (same : sites = e.children.flatMap Typed.sites ++ e.site?.toList) :
    Transfers p env trusted e.sites before code after := transfers.ofSites (same.trans e.sites_eq.symm)

theorem guarded {nullSafe : Bool} {body access : Code}
    (laid : Generation.guarded line nullSafe body = .ok access)
    (optional : trusted → nullSafe = true → u.isPrimitive = false)
    (accessed : Transfers p env trusted sites (t :: types) body (u :: types)) :
    Transfers p env trusted sites (t :: types) access (u :: types) := by
  unfold Generation.guarded at laid
  split at laid
  next isSafe =>
    obtain ⟨past, size, rfl⟩ := skipping_ok laid
    refine skip rfl size (tests_null (.inl rfl) _ _) (fun isTrusted v stack isTaken _ => ?_) accessed
    have isNull : v.isNull = true := Except.ok.inj isTaken
    rw [Value.eq_null isNull]
    exact inhabits_null (optional isTrusted isSafe)
  · cases laid
    exact accessed

/-- Operands laid out as a chain leave one truth value. -/
theorem chain {op : LogicalOp} {parts : List (Code × List (Method H × Ty))} {code : Code} (some : parts ≠ [])
    (each : ∀ x ∈ parts, Transfers p env trusted x.2 types x.1 (.boolean :: types))
    (laid : layChain line (exitOp op) (chainSize (parts.map Prod.fst)) (parts.map Prod.fst) = .ok code) :
    Transfers p env trusted (parts.flatMap Prod.snd) types code (.boolean :: types) := by
  induction parts generalizing code with
  | nil => exact absurd rfl some
  | cons x rest ih =>
    have first := each x (by simp)
    cases rest with
    | nil =>
      cases laid
      exact first.ofSites (by simp)
    | cons y rest =>
      obtain ⟨distance, others, reach, inner, rfl⟩ := layChain_cons laid
      have later := ih (by simp) (fun z member => each z (by simp [member])) inner
      have size : distance.toNat = (Code.ofOps line [.pop] ++ others).size := by simp [reach, layChain_size inner]
      -- A jump taken keeps the truth value tested; otherwise it is dropped for the next one.
      have tests : (exitOp op).Tests p.catalog .boolean := tests_truth (by cases op <;> simp [exitOp]) _
      exact (first.append (skip (isJump_exitOp op) size tests (fun _ _ _ _ => id) (pop.append later))).ofSites
        (by simp)

theorem arguments {args : List (Typed H)} {codes : List Code} {conversions : List Conversion}
    (same : codes.length = args.length) (lengths : conversions.length = args.length)
    (converts : ∀ x ∈ (args.map Typed.type).zip conversions,
      ∃ target, p.catalog.conversion? x.1 target = some x.2)
    (each : ∀ x ∈ args.zip codes, ∀ types, Transfers p env trusted x.1.sites types x.2 (x.1.type :: types)) :
    Transfers p env trusted (args.flatMap Typed.sites) types (convertEach line codes conversions)
      (List.replicate args.length .void ++ types) := by
  induction args generalizing codes conversions types with
  | nil =>
    cases List.length_eq_zero_iff.mp same
    exact nil
  | cons a args ih =>
    cases codes with
    | nil => cases same
    | cons code codes =>
      cases conversions with
      | nil => cases lengths
      | cons conversion conversions =>
        rw [List.map_cons, List.zip_cons_cons, List.forall_mem_cons] at converts
        rw [List.zip_cons_cons, List.forall_mem_cons] at each
        obtain ⟨target, found⟩ := converts.1
        have converted : Transfers p env trusted [] (a.type :: types) (Code.ofOps line conversion.code)
            (.void :: types) := conversion_any (conversion?_converts found)
        have later : Transfers p env trusted (args.flatMap Typed.sites) (.void :: types)
            (convertEach line codes conversions) (List.replicate args.length .void ++ .void :: types) :=
          ih (Nat.succ.inj same) (Nat.succ.inj lengths) converts.2 each.2
        have height : List.replicate (a :: args).length Ty.void ++ types =
            List.replicate args.length .void ++ .void :: types := by
          rw [List.length_cons, List.replicate_succ', List.append_assoc]
          rfl
        rw [height]
        refine (((each.1 types).append converted).append later).ofSites ?_
        simp

/-- Passing arguments leaves as many values as the method takes. -/
theorem passing {s : Selection H} {args : List (Typed H)} {codes : List Code} {code : Code}
    (passes : s.Passes p.catalog (args.map Typed.type)) (same : codes.length = args.length)
    (each : ∀ x ∈ args.zip codes, ∀ types, Transfers p env trusted x.1.sites types x.2 (x.1.type :: types))
    (passed : passArguments line s codes = .ok code) :
    Transfers p env trusted (args.flatMap Typed.sites) types code (List.replicate s.arity .void ++ types) := by
  have lengths := passes.length
  rw [List.length_map] at lengths
  have pushed : Transfers p env trusted (args.flatMap Typed.sites) types (convertEach line codes s.conversions)
      (List.replicate args.length .void ++ types) := arguments same lengths passes.converts each
  unfold passArguments at passed
  split at passed
  next none =>
    cases passed
    rwa [passes.fixed none, List.length_map]
  next start found =>
    dsimp only at passed
    split at passed
    · cases passed
    · obtain ⟨i, counted, rfl⟩ := map_ok passed
      obtain ⟨n, rfl, number⟩ := countInstr_ok counted
      obtain ⟨inside, arity⟩ := passes.collected start found
      rw [List.length_map] at inside
      rw [List.length_drop] at number
      have height : List.replicate args.length Ty.void ++ types =
          List.replicate (args.length - start) .void ++ (List.replicate start .void ++ types) := by
        rw [← List.append_assoc, List.replicate_append_replicate, Nat.sub_add_cancel inside]
      rw [height] at pushed
      rw [← convertEach_split, arity, List.replicate_succ]
      exact (pushed.append (newArray (by rw [List.length_replicate]; omega))).ofSites (List.append_nil _)

end Transfers

/-- An access whose value may be null although its type is primitive: the length of a missing array, or an item
of an array, which may hold null whatever the type of its items. -/
def Typed.isLoose : Typed H → Bool
  | .arrayLength _ nullSafe _ => nullSafe
  | .index _ .array t _ _ => t.isPrimitive
  | _ => false

/-- What soundness asks of an expression, the catalog and the beans of the host: names tell types apart, also
those of the expression; the type of every access covers its values; and each bean is of the type it serves. -/
structure Typed.Trusted (c : Catalog H) (env : Environment H) (names : Set String) (t : Typed H) : Prop where
  registered : c.Registered fun n => isReserved n = false
  distinct : c.Distinct names
  within : ∀ u ∈ t.nodes, u.type.Within names
  covered : ∀ u ∈ t.nodes, u.isLoose = false
  beans : ∀ type v, env.bean type = some v → c.Inhabits type v

theorem Typed.Trusted.child {c : Catalog H} {env : Environment H} {names : Set String} {t u : Typed H}
    (trust : t.Trusted c env names) (child : u ∈ t.children) : u.Trusted c env names where
  registered := trust.registered
  distinct := trust.distinct
  within v below := trust.within v (Typed.mem_nodes_of_child child below)
  covered v below := trust.covered v (Typed.mem_nodes_of_child child below)
  beans := trust.beans

theorem Typed.Trusted.within_child {c : Catalog H} {env : Environment H} {names : Set String} {t u : Typed H}
    (trust : t.Trusted c env names) (child : u ∈ t.children) : u.type.Within names ∧ t.type.Within names :=
  ⟨(trust.child child).within u (Typed.mem_nodes u), trust.within t (Typed.mem_nodes t)⟩

/-- What the draft of an expression leaves on the stack: a value of its type, several values that are joined to
one text, or the truth values of a chain one after the other. -/
def Draft.Transfers (p : Program H) (env : Environment H) (trusted : Prop) (t : Typed H) : Draft → Prop
  | .closed code => ∀ types, TypedExpr.Transfers p env trusted t.sites types code (t.type :: types)
  | .concat n code => ∀ types, ∃ taken : List Ty, taken.length = n ∧
      TypedExpr.Transfers p env trusted t.sites types code (taken ++ types)
  | .chain _ operands => ∃ parts : List ((Code × Bool) × List (Method H × Ty)), parts ≠ [] ∧
      parts.map Prod.fst = operands ∧ parts.flatMap Prod.snd = t.sites ∧ (t.type.isBoolean = true →
        ∀ x ∈ parts, ∀ line types,
          TypedExpr.Transfers p env trusted x.2 types (condition line x.1.1 x.1.2) (.boolean :: types))

section Nodes

variable {p : Program H} {env : Environment H} {trusted : Prop} {names : Set String}

omit [HostObject H] in
theorem isKind_of_isBoolean {t : Ty} (truth : t.isBoolean = true) : t.kind? = some .bool := by
  simpa [Ty.isBoolean] using truth

omit [HostObject H] in
theorem isKind_of_numericKind? {t : Ty} {k : Kind} (number : t.numericKind? = some k) : t.kind? = some k :=
  (Option.filter_eq_some_iff.mp number).1

omit [HostObject H] in
theorem commonKind?_widens {l r : Ty} {common : Kind} (meet : l.commonKind? r = some common) :
    ∃ a b, l.numericKind? = some a ∧ r.numericKind? = some b ∧ a.widensTo common = true ∧
      b.widensTo common = true := by
  unfold Ty.commonKind? at meet
  split at meet
  next a b left right =>
    cases meet
    refine ⟨a, b, left, right, ?_⟩
    have numberA := (Option.filter_eq_some_iff.mp left).2
    have numberB := (Option.filter_eq_some_iff.mp right).2
    revert numberA numberB
    cases a <;> cases b <;> decide
  · cases meet

omit [HostObject H] in
/-- What widens to a kind widens to that of its powers. -/
theorem widensTo_power {a common : Kind} (number : a.isNumeric = true) (widens : a.widensTo common = true) :
    a.widensTo (if common.isIntegral then .long else .double) = true := by
  revert number widens
  cases a <;> cases common <;> decide

omit [HostObject H] in
theorem memberType_optional (t : Ty) : (Typed.memberType true t).isPrimitive = false := by
  cases t <;> rfl

/-- An item of an array is null or of the type of its items, unless that is a primitive one. -/
theorem inhabits_item {c : Catalog H} (distinct : c.Distinct names) {t : Ty}
    (notPrimitive : t.isPrimitive = false) {target v : Value H} {position : Int32}
    (inhabits : c.Inhabits (.array t) target) (found : item target position = .ok v) : c.Inhabits t v := by
  rcases inhabits with isNull | isArray
  · -- Null has no items.
    rw [Value.eq_null isNull] at found
    cases found
  · rw [Ty.erase, isInstance_array] at isArray
    obtain ⟨items, rfl, each⟩ := isArray
    have member : v ∈ items := by
      simp only [item, Value.items?] at found
      split at found
      next isItem =>
        cases found
        split at isItem
        · exact List.mem_of_getElem? isItem
        · cases isItem
      · cases found
    cases t with
    | void => trivial
    | primitive => cases notPrimitive
    | _ => exact (inhabits_reference distinct rfl).mpr (each v member)

namespace Transfers

variable {sites more others : List (Method H × Ty)} {before after types : List Ty} {line : Nat} {t u v : Ty}

theorem converted {conv : Conversion} (found : p.catalog.conversion? t u = some conv)
    (lawful : trusted → p.catalog.Registered (fun n => isReserved n = false) ∧
      ∃ names, p.catalog.Distinct names ∧ t.Within names ∧ u.Within names) :
    Transfers p env trusted [] (t :: types) (Code.ofOps line conv.code) (u :: types) := by
  have converts := conversion?_converts found
  refine conversion converts fun isTrusted noCode v inhabits => ?_
  obtain ⟨registered, names, distinct, within, within'⟩ := lawful isTrusted
  exact converts.inhabits registered distinct noCode within within' inhabits

/-- A jump decides which of two pieces of code leaves the value; the other one drops the value tested. -/
theorem choice {a b b' d : Code} {op : Opcode} {n past : UInt16}
    (tested : Transfers p env trusted sites before a (t :: types)) (isJump : isJump op = true)
    (tests : op.Tests p.catalog t) (size : n.toNat = (b ++ b').size + 4) (pastSize : past.toNat = d.size)
    (passed : Transfers p env trusted more types (b ++ b') after)
    (taken : Transfers p env trusted others (t :: types) d after) :
    Transfers p env trusted (sites ++ more ++ others) before
      (a ++ [(line, .wide op n), (line, .bare .pop)] ++ b ++ b' ++ (line, .wide .jump past) :: d) after := by
  have size : n.toNat = (Code.ofOps line [.pop] ++ (b ++ b')).size + 3 := by
    rw [size, Code.size_append (Code.ofOps _ _), Code.size_ofOps, List.length_singleton]
    omega
  have branches : Transfers p env trusted (more ++ others) (t :: types) ((line, .wide op n) ::
      (Code.ofOps line [.pop] ++ (b ++ b') ++ (line, .wide .jump past) :: d)) after :=
    branch isJump size pastSize tests (pop.append passed) taken
  simpa [Code.ofOps] using tested.append branches

theorem invoked {passing : Code} {f : UInt16} {n : UInt8} {s : Selection H}
    (passed : Transfers p env trusted sites before passing (List.replicate s.arity .void ++ t :: types))
    (target : p.tables.Links f s.method) (count : n.toNat = s.arity) :
    Transfers p env trusted (sites ++ [(s.method, u)]) before (passing ++ [(line, .call .callMethod f n)])
      (u :: types) :=
  passed.append (callMethod target (by rw [List.length_replicate, count]))

theorem invokedStatic {passing : Code} {f : UInt16} {n : UInt8} {s : Selection H}
    (passed : Transfers p env trusted sites before passing (List.replicate s.arity .void ++ types))
    (target : p.tables.Links f s.method) (count : n.toNat = s.arity) :
    Transfers p env trusted (sites ++ [(s.method, u)]) before (passing ++ [(line, .call .callStatic f n)])
      (u :: types) :=
  passed.append (callStatic target (by rw [List.length_replicate, count]))

/-- A call on a receiver; one of a static method drops it. -/
theorem called {s : Selection H} {args : List (Typed H)} {codes : List Code} {passing : Code} {f : UInt16}
    {n : UInt8} (passes : s.Passes p.catalog (args.map Typed.type)) (same : codes.length = args.length)
    (each : ∀ x ∈ args.zip codes, ∀ types, Transfers p env trusted x.1.sites types x.2 (x.1.type :: types))
    (passed : passArguments line s codes = .ok passing) (target : p.tables.Links f s.method)
    (count : n.toNat = s.arity) :
    Transfers p env trusted (args.flatMap Typed.sites ++ [(s.method, u)]) (t :: types)
      (if s.method.isStatic then Code.ofOps line [.pop] ++ passing ++ [(line, .call .callStatic f n)]
        else passing ++ [(line, .call .callMethod f n)]) (u :: types) := by
  split
  · exact ((pop.append (Transfers.passing passes same each passed)).invokedStatic target count)
  · exact (Transfers.passing passes same each passed).invoked target count

theorem compared {operands : Code} {isLeft : Bool} {conv : Conversion} {f : UInt16} {o : Opcode}
    {s : Selection H} {op : RelationalOp}
    (evaluated : Transfers p env trusted sites before operands (u :: t :: types))
    (converts : ∃ target, p.catalog.conversion? (if isLeft then u else t) target = some conv)
    (target : p.tables.Links f s.method) (operation : relationalOp? op .int = some o)
    (result : s.returns.numericKind? = some .int) :
    Transfers p env trusted (sites ++ [(s.method, s.returns)]) before (operands
      ++ Code.ofOps line (if isLeft then [] else [.swap]) ++ Code.ofOps line conv.code
      ++ [(line, .call .callMethod f 1)] ++ Code.ofOps line [.pushZero] ++ Code.ofOps line [o])
      (.boolean :: types) := by
  obtain ⟨_, found⟩ := converts
  have converts := conversion?_converts found
  have call {receiver : Ty} : Transfers p env trusted [(s.method, s.returns)] ([.void] ++ receiver :: types)
      [(line, .call .callMethod f 1)] (s.returns :: types) := callMethod target rfl
  have zero : Transfers p env trusted [] (s.returns :: types) (Code.ofOps line [.pushZero])
      (.int :: s.returns :: types) := push (by simp) (by simp) (fun _ => rfl) (inhabits_primitive.mpr rfl)
  have related : Transfers p env trusted [] (.int :: s.returns :: types) (Code.ofOps line [o])
      (.boolean :: types) := relation operation (isKind_of_numericKind? result)
  cases isLeft with
  | true =>
    exact (((((evaluated.append nil).append (conversion_any converts)).append call).append zero).append
      related).ofSites (by simp)
  | false =>
    exact (((((evaluated.append swap).append (conversion_any converts)).append call).append zero).append
      related).ofSites (by simp)

end Transfers

section Trust

variable {t u : Typed H} (trust : trusted → t.Trusted p.catalog env names)
include trust

theorem trusted_below (child : u ∈ t.children) : trusted → u.Trusted p.catalog env names :=
  fun isTrusted => (trust isTrusted).child child

theorem lawful_of_trusted : trusted → p.catalog.Ordered ∧ ∃ names, p.catalog.Distinct names :=
  fun isTrusted => ⟨(trust isTrusted).registered.ordered, names, (trust isTrusted).distinct⟩

theorem known_of_trusted (child : u ∈ t.children) :
    trusted → p.catalog.Registered (fun n => isReserved n = false) ∧
      ∃ names, p.catalog.Distinct names ∧ u.type.Within names ∧ t.type.Within names :=
  fun isTrusted => ⟨(trust isTrusted).registered, names, (trust isTrusted).distinct,
    (trust isTrusted).within_child child⟩

theorem Transfers.served {type : Ty} {line : Nat} {n : UInt16} (entry : p.tables.Names n type) (types : List Ty) :
    Transfers p env trusted [] types [(line, .wide .getBean n)] (type :: types) :=
  .getBean (fun isTrusted => (trust isTrusted).beans type) entry

theorem Transfers.evaluated {args : List (Typed H)} {codes : List Code} (children : ∀ a ∈ args, a ∈ t.children)
    (typed : ∀ a ∈ args, a.WellTyped p.catalog)
    (each : ∀ x ∈ args.zip codes, x.1.WellTyped p.catalog → (trusted → x.1.Trusted p.catalog env names) →
      (Draft.closed x.2).Transfers p env trusted x.1) :
    ∀ x ∈ args.zip codes, ∀ types, Transfers p env trusted x.1.sites types x.2 (x.1.type :: types) := by
  intro x member
  have isArgument : x.1 ∈ args := (List.of_mem_zip member).1
  exact each x member (typed x.1 isArgument) (trusted_below trust (children x.1 isArgument))

end Trust

/-- Laid out code leaves what its expression says. -/
theorem Layout.transfers {t : Typed H} {d : Draft} (layout : Layout p.catalog p.tables t d)
    (typed : t.WellTyped p.catalog) (trust : trusted → t.Trusted p.catalog env names) :
    d.Transfers p env trusted t := by
  -- The types of what stands below the value stay arbitrary, so the rules can be chained.
  induction layout with
  | literal loads => exact fun types => (Transfers.literal loads).node (by simp)
  | @numeric _ _ kind _ _ _ _ _ _ _ operation ihl ihr =>
    cases typed with
    | @numeric _ _ _ common _ _ left right meet result =>
      intro types
      have first := ihl left (trusted_below trust (by simp)) types
      have second := ihr right (trusted_below trust (by simp)) (.primitive kind :: types)
      obtain ⟨a, b, isNumber, isNumber', widens, widens'⟩ := commonKind?_widens meet
      -- Powers are computed in a kind of their own.
      have power {k : Kind} {t : Ty} (isNumber : t.numericKind? = some k) (widens : k.widensTo common = true) :
          k.widensTo kind = true := by
        rw [result]
        split
        · exact widensTo_power (Option.filter_eq_some_iff.mp isNumber).2 widens
        · exact widens
      exact ((((first.append (.coercion isNumber (power isNumber widens))).append second).append
        (.coercion isNumber' (power isNumber' widens'))).append (.arithmetic operation)).node (by simp)
  | text _ ih => exact fun types => ⟨[_], rfl, ih typed trust types⟩
  | join _ _ ihl ihr =>
    cases typed with
    | concat left right =>
      intro types
      obtain ⟨lefts, count, first⟩ := ihl left (trusted_below trust (by simp)) types
      obtain ⟨rights, count', second⟩ := ihr right (trusted_below trust (by simp)) (lefts ++ types)
      refine ⟨rights ++ lefts, by rw [List.length_append, count, count', Nat.add_comm], ?_⟩
      rw [List.append_assoc]
      exact (first.append second).node (by simp)
  | concat _ number ih =>
    intro types
    obtain ⟨taken, count, joined⟩ := ih typed trust types
    exact (joined.append (.concat (count.trans number.symm))).ofSites (List.append_nil _)
  | negate _ operation ih =>
    cases typed with
    | negate operand isNumber =>
      intro types
      have first := ih operand (trusted_below trust (by simp)) types
      have widens {k : Kind} : k.widensTo k = true := by cases k <;> rfl
      exact ((first.append (.coercion isNumber widens)).append (.negation operation)).node (by simp)
  | @operand _ t _ _ ih =>
    refine ⟨[((_, _), t.sites)], by simp, rfl, by simp, fun truth => ?_⟩
    simpa using fun line types => (ih typed trust types).condition (isKind_of_isBoolean truth)
  | chain _ _ ihl ihr =>
    cases typed with
    | logical left right leftTruth rightTruth =>
      obtain ⟨lefts, some, rfl, same, each⟩ := ihl left (trusted_below trust (by simp))
      obtain ⟨rights, _, rfl, same', each'⟩ := ihr right (trusted_below trust (by simp))
      refine ⟨lefts ++ rights, by simp [some], by simp, ?_, fun _ x member => ?_⟩
      · rw [Typed.sites_eq, List.flatMap_append, same, same']
        simp
      · exact (List.mem_append.mp member).elim (each leftTruth x) (each' rightTruth x)
  | @logical line op l r operands code _ laid ih =>
    intro types
    obtain ⟨parts, some, rfl, same, each⟩ := ih typed trust
    have chained : Transfers p env trusted
        ((parts.map fun x => (condition line x.1.1 x.1.2, x.2)).flatMap Prod.snd) types code
        (.boolean :: types) := by
      refine .chain (by simpa using some) ?_ (by simpa [finish, Function.comp_def] using laid)
      exact List.forall_mem_map.mpr fun x member => each rfl x member line types
    exact chained.ofSites (by rw [List.flatMap_map, ← same])
  | not _ ih =>
    cases typed with
    | not operand truth =>
      intro types
      have first := ih operand (trusted_below trust (by simp)) types
      exact ((first.condition (isKind_of_isBoolean truth)).append .not).node (by simp)
  | empty _ ih =>
    cases typed with
    | empty operand =>
      intro types
      have first := ih operand (trusted_below trust (by simp)) types
      exact (first.append .isEmpty).node (by simp)
  | @equality _ negated l r _ _ _ _ ihl ihr =>
    cases typed with
    | equality left right =>
      intro types
      have first := ihl left (trusted_below trust (by simp)) types
      have second := ihr right (trusted_below trust (by simp)) (l.type :: types)
      cases negated with
      | false => exact ((first.append second).append .equals).node (by simp)
      | true => exact ((first.append second).append (Transfers.equals.append .not)).node (by simp)
  | @ordering _ _ kind _ _ _ _ _ _ _ operation ihl ihr =>
    cases typed with
    | ordering left right meet =>
      intro types
      have first := ihl left (trusted_below trust (by simp)) types
      have second := ihr right (trusted_below trust (by simp)) (.primitive kind :: types)
      obtain ⟨a, b, isNumber, isNumber', widens, widens'⟩ := commonKind?_widens meet
      exact ((((first.append (.coercion isNumber widens)).append second).append
        (.coercion isNumber' widens')).append (.relation operation rfl)).node (by simp)
  | @comparison line op s isLeft l r _ _ conversion _ _ _ _ argument target operation ihl ihr =>
    cases typed with
    | comparison left right apart oriented declared chosen result single =>
      intro types
      have first := ihl left (trusted_below trust (by simp)) types
      have second := ihr right (trusted_below trust (by simp)) (l.type :: types)
      have converts : ∃ target,
          p.catalog.conversion? (if isLeft then r.type else l.type) target = some conversion := by
        obtain ⟨rest, same⟩ := List.head?_eq_some_iff.mp argument
        exact chosen.passes.converts (_, conversion) (by rw [same]; exact List.mem_cons_self)
      exact ((first.append second).compared converts target operation result).node (by simp)
  | instanceOf _ entry ih =>
    cases typed with
    | instanceOf operand =>
      intro types
      have first := ih operand (trusted_below trust (by simp)) types
      exact (first.append (.instanceOf entry)).node (by simp)
  | «matches» _ entry ih =>
    cases typed with
    | «matches» operand =>
      intro types
      have first := ih operand (trusted_below trust (by simp)) types
      exact (first.append (.matches entry)).node (by simp)
  | ternary _ _ _ thenConverts elseConverts toElseSize pastSize ihc iht ihe =>
    cases typed with
    | ternary condition thenBranch elseBranch truth =>
      intro types
      have test := ihc condition (trusted_below trust (by simp)) types
      have first := iht thenBranch (trusted_below trust (by simp)) types
      have second := ihe elseBranch (trusted_below trust (by simp)) types
      have isTest := tests_truth (.inl rfl) p.catalog
      exact ((test.condition (isKind_of_isBoolean truth)).choice rfl isTest toElseSize pastSize
        (first.append (.converted thenConverts (known_of_trusted trust (by simp))))
        ((Transfers.pop.append second).append
          (.converted elseConverts (known_of_trusted trust (by simp))))).node (by simp)
  | elvis _ _ leftConverts rightConverts presentSize pastSize ihl ihr =>
    cases typed with
    | elvis left right =>
      intro types
      have first := ihl left (trusted_below trust (by simp)) types
      have second := ihr right (trusted_below trust (by simp)) types
      exact (first.choice rfl (tests_null (.inr rfl) _ _) presentSize pastSize
        (second.append (.converted rightConverts (known_of_trusted trust (by simp))))
        (.converted leftConverts (known_of_trusted trust (by simp)))).node (by simp)
  | @arrayIndex _ t e i _ _ _ _ ihe ihi =>
    cases typed with
    | arrayIndex target position component whole =>
      intro types
      have first := ihe target (trusted_below trust (by simp)) types
      have second := ihi position (trusted_below trust (by simp)) (e.type :: types)
      refine ((first.append (second.condition (isKind_of_numericKind? whole))).append
        (.index fun isTrusted items n v inhabits found => ?_)).node (by simp)
      have isArray : e.type = .array t := by
        cases isType : e.type <;> rw [isType] at component <;> cases component
        rfl
      exact inhabits_item (trust isTrusted).distinct ((trust isTrusted).covered _ (Typed.mem_nodes _))
        (isArray ▸ inhabits) found
  | @listIndex _ _ e i _ _ _ _ _ checked ihe ihi =>
    cases typed with
    | listIndex target position notArray isList whole =>
      intro types
      have first := ihe target (trusted_below trust (by simp)) types
      have second := ihi position (trusted_below trust (by simp)) (e.type :: types)
      have item {line : Nat} : Transfers p env trusted [] (.int :: e.type :: types) (Code.ofOps line [.index])
          (.void :: types) := .index fun _ _ _ _ _ _ => trivial
      exact (((first.append (second.condition (isKind_of_numericKind? whole))).append item).append
        (.check (lawful_of_trusted trust) checked)).node (by simp)
  | @mapIndex _ _ e i _ _ _ _ _ checked ihe ihi =>
    cases typed with
    | mapIndex target position =>
      intro types
      have first := ihe target (trusted_below trust (by simp)) types
      have second := ihi position (trusted_below trust (by simp)) (e.type :: types)
      exact (((first.append second).append .mapGet).append
        (.check (lawful_of_trusted trust) checked)).node (by simp)
  | @arrayLength line nullSafe e _ _ _ laid ih =>
    cases typed with
    | arrayLength receiver =>
      intro types
      have first := ih receiver (trusted_below trust (by simp)) types
      refine (first.append (.guarded laid (fun isTrusted isSafe => ?_) .arrayLength)).node (by simp)
      exact absurd ((trust isTrusted).covered _ (Typed.mem_nodes _)) (by simp [Typed.isLoose, isSafe])
  | @property line nullSafe property e _ _ f _ target laid ih =>
    cases typed with
    | property receiver =>
      intro types
      have first := ih receiver (trusted_below trust (by simp)) types
      have accessed {u : Ty} : Transfers p env trusted [(property.getter, u)] ([] ++ e.type :: types)
          [(line, .call .callMethod f 0)] (u :: types) := .callMethod target rfl
      refine (first.append (.guarded laid (fun _ isSafe => ?_) accessed)).node (by simp)
      rw [Typed.type, isSafe]
      exact memberType_optional _
  | @call line nullSafe s e args _ _ _ codes f n _ same _ passed target count laid ih iha =>
    cases typed with
    | call receiver arguments values declared chosen =>
      intro types
      have first := ih receiver (trusted_below trust (by simp)) types
      have each := Transfers.evaluated trust (fun a member => by simp [member]) arguments iha
      refine (first.append (.guarded laid (fun _ isSafe => ?_)
        (.called chosen.passes same each passed target count))).node (by simp)
      rw [Typed.type, isSafe]
      exact memberType_optional _
  | @staticCall _ _ args _ codes _ _ same _ passed target count iha =>
    cases typed with
    | staticCall arguments values declared isStatic chosen =>
      intro types
      have each := Transfers.evaluated trust (fun a member => by simp [member]) arguments iha
      exact ((Transfers.passing chosen.passes same each passed).invokedStatic target count).node
        (by simp [Typed.type])
  | @contextStaticCall _ _ args _ codes _ _ _ same _ passed target count iha =>
    cases typed with
    | contextCall arguments values chosen =>
      intro types
      have each := Transfers.evaluated trust (fun a member => by simp [member]) arguments iha
      exact ((Transfers.passing chosen.passes same each passed).invokedStatic target count).node
        (by simp [Typed.type])
  | @contextCall _ _ args _ codes _ _ _ _ entry same _ passed target count iha =>
    cases typed with
    | contextCall arguments values chosen =>
      intro types
      have each := Transfers.evaluated trust (fun a member => by simp [member]) arguments iha
      exact (((Transfers.served trust entry types).append (.passing chosen.passes same each passed)).invoked
        target count).node (by simp [Typed.type])
  | parameter number checked =>
    exact fun types => (Transfers.getArgument.append (.check (lawful_of_trusted trust) checked)).node (by simp)
  | this checked =>
    exact fun types => (Transfers.getThis.append (.check (lawful_of_trusted trust) checked)).node (by simp)
  | bean entry => exact fun types => (Transfers.served trust entry types).node (by simp)
  | @contextProperty line _ property _ f entry target =>
    intro types
    have accessed {t u : Ty} : Transfers p env trusted [(property.getter, u)] ([] ++ t :: types)
        [(line, .call .callMethod f 0)] (u :: types) := .callMethod target rfl
    exact ((Transfers.served trust entry types).append accessed).node (by simp [Typed.type])
  | environment _ ih =>
    cases typed with
    | environment key =>
      intro types
      have first := ih key (trusted_below trust (by simp)) types
      exact (first.append .getEnv).node (by simp)

end Nodes

end TypedExpr
