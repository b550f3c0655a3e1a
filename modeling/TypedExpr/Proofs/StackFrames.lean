import TypedExpr.Proofs.Applicability
import TypedExpr.Proofs.Correctness
/-!
# What the code of an expression leaves below

Whatever the host returns, the code of an expression adds one value to the stack and leaves alone what stands
below it, unless the run fails (`Layout.adds`).
-/

namespace TypedExpr

open Machine Operation Generation

variable {H : Type} [HostObject H]

/-- Wherever it stands, the code turns the topmost `n` values into `m` others, unless it fails. -/
def Machine.Turns (p : Program H) (env : Environment H) (n : Nat) (code : Code) (m : Nat) : Prop :=
  ∀ offset (values stack : List (Value H)), values.length = n →
    Runs p env (fun _ _ => True) (fun _ => True) offset code (values ++ stack)
      fun stack' => ∃ values', values'.length = m ∧ stack' = values' ++ stack

variable {p : Program H} {env : Environment H} {n m k line : Nat} {a b code : Code}

theorem Computes.leaves {α : Type} {values stack : List (Value H)} {x : Except RunError α}
    {g : α → List (Value H)} (computes : Computes p env code (values ++ stack) (x.map fun a => g a ++ stack))
    (count : ∀ a, (g a).length = m) (offset : Nat) :
    Runs p env (fun _ _ => True) (fun _ => True) offset code (values ++ stack)
      fun stack' => ∃ values', values'.length = m ∧ stack' = values' ++ stack := by
  refine computes.runs ?_ offset
  intro stack' done
  obtain ⟨a, _, rfl⟩ := map_ok done
  exact ⟨g a, count a, rfl⟩

namespace Machine

/-- Wherever it stands, the code leaves one value more on the stack, and a good one, unless it fails. -/
def Yields (p : Program H) (env : Environment H) (code : Code) (good : Value H → Prop) : Prop :=
  ∀ offset stack, Runs p env (fun _ _ => True) (fun _ => True) offset code stack
    fun stack' => ∃ v, stack' = v :: stack ∧ good v

/-- Wherever it stands, the code turns a good value on top of the stack into one that is good afterwards. -/
def Carries (p : Program H) (env : Environment H) (good : Value H → Prop) (code : Code)
    (good' : Value H → Prop) : Prop :=
  ∀ offset v stack, good v → Runs p env (fun _ _ => True) (fun _ => True) offset code (v :: stack)
    fun stack' => ∃ w, stack' = w :: stack ∧ good' w

variable {good good' : Value H → Prop}

theorem adds_one : Adds p env 1 code ↔ Yields p env code fun _ => True := by
  constructor
  · intro adds offset stack
    refine (adds offset stack).mono ?_ fun _ _ => trivial
    rintro _ ⟨values, one, rfl⟩
    obtain ⟨v, rfl⟩ := List.length_eq_one_iff.mp one
    exact ⟨v, rfl, trivial⟩
  · intro yields offset stack
    refine (yields offset stack).mono ?_ fun _ _ => trivial
    rintro _ ⟨v, rfl, _⟩
    exact ⟨[v], rfl, rfl⟩

theorem Yields.thenCarries (yields : Yields p env a good) (carries : Carries p env good b good') :
    Yields p env (a ++ b) good' := by
  intro offset stack
  refine (yields offset stack).append ?_
  rintro _ ⟨v, rfl, isGood⟩
  exact carries _ v stack isGood

theorem Yields.ofPushes {result : Except RunError (Value H)} (pushes : Pushes p env code result)
    (isGood : ∀ v, result = .ok v → good v) : Yields p env code good := by
  intro offset stack
  refine (pushes stack).runs ?_ offset
  intro stack' done
  obtain ⟨v, computed, rfl⟩ := map_ok done
  exact ⟨v, rfl, isGood v computed⟩

theorem Carries.ofComputes {f : Value H → Except RunError (Value H)}
    (computes : ∀ v stack, Computes p env code (v :: stack) ((f v).map (· :: stack)))
    (isGood : ∀ v w, good v → f v = .ok w → good' w) : Carries p env good code good' := by
  intro offset v stack before
  refine (computes v stack).runs ?_ offset
  intro stack' done
  obtain ⟨w, computed, rfl⟩ := map_ok done
  exact ⟨w, rfl, isGood v w before computed⟩

theorem Adds.turns (adds : Adds p env k code) (n : Nat) : Turns p env n code (k + n) := by
  intro offset values stack count
  refine (adds offset (values ++ stack)).mono ?_ fun _ _ => trivial
  rintro _ ⟨more, count', rfl⟩
  exact ⟨more ++ values, by simp [count, count'], by simp⟩

theorem Adds.thenTurns (adds : Adds p env n a) (turns : Turns p env n b m) : Adds p env m (a ++ b) := by
  intro offset stack
  refine (adds offset stack).append ?_
  rintro _ ⟨values, count, rfl⟩
  exact turns _ values stack count

theorem Adds.ofPushes {result : Except RunError (Value H)} (pushes : Pushes p env code result) :
    Adds p env 1 code := by
  intro offset stack
  have computes : Computes p env code ([] ++ stack) (result.map fun v => [v] ++ stack) := pushes stack
  exact computes.leaves (fun _ => rfl) offset

namespace Turns

theorem nil : Turns p env n [] n := fun _ values _ count => .nil ⟨values, count, rfl⟩

theorem append (first : Turns p env n a m) (second : Turns p env m b k) : Turns p env n (a ++ b) k := by
  intro offset values stack count
  refine (first offset values stack count).append ?_
  rintro _ ⟨values', count', rfl⟩
  exact second _ values' stack count'

theorem carries (turns : Turns p env 1 code 1) : Carries p env (fun _ => True) code fun _ => True := by
  intro offset v stack _
  refine (turns offset [v] stack rfl).mono ?_ fun _ _ => trivial
  rintro _ ⟨values, one, rfl⟩
  obtain ⟨w, rfl⟩ := List.length_eq_one_iff.mp one
  exact ⟨w, rfl, trivial⟩

/-- What more there is below stays. -/
theorem above (turns : Turns p env n code m) (k : Nat) : Turns p env (n + k) code (m + k) := by
  intro offset values stack count
  have split : values ++ stack = values.take n ++ (values.drop n ++ stack) := by
    rw [← List.append_assoc, List.take_append_drop]
  rw [split]
  refine (turns offset (values.take n) _ (by simp [count])).mono ?_ fun _ _ => trivial
  rintro _ ⟨values', count', rfl⟩
  exact ⟨values' ++ values.drop n, by simp [count, count'], by simp⟩

theorem unary {f : Value H → Except RunError (Value H)}
    (computes : ∀ v stack, Computes p env code (v :: stack) ((f v).map (· :: stack))) :
    Turns p env 1 code 1 := by
  intro offset values stack one
  obtain ⟨v, rfl⟩ := List.length_eq_one_iff.mp one
  exact (computes v stack).leaves (g := fun w => [w]) (fun _ => rfl) offset

theorem binary {f : Value H → Value H → Except RunError (Value H)}
    (computes : ∀ v w stack, Computes p env code (w :: v :: stack) ((f v w).map (· :: stack))) :
    Turns p env 2 code 1 := by
  intro offset values stack two
  obtain ⟨w, v, rfl⟩ := List.length_eq_two.mp two
  exact (computes v w stack).leaves (g := fun x => [x]) (fun _ => rfl) offset

theorem pop : Turns p env 1 (Code.ofOps line [.pop]) 0 := by
  intro offset values stack one
  obtain ⟨v, rfl⟩ := List.length_eq_one_iff.mp one
  exact Computes.leaves (x := .ok ()) (g := fun _ => []) (.bare (by simp) rfl) (fun _ => rfl) offset

theorem swap : Turns p env 2 (Code.ofOps line [.swap]) 2 := by
  intro offset values stack two
  obtain ⟨w, v, rfl⟩ := List.length_eq_two.mp two
  exact Computes.leaves (x := .ok ()) (g := fun _ => [v, w]) (.bare (by simp) rfl) (fun _ => rfl) offset

theorem unbox : Turns p env 1 (Code.ofOps line [.unbox]) 1 := unary fun _ _ => .unbox

theorem conversion {conversion : Conversion} : Turns p env 1 (Code.ofOps line conversion.code) 1 :=
  unary fun _ _ => .conversion

theorem coercion {source : Ty} {target : Kind} :
    Turns p env 1 (Code.ofOps line (source.coercionCode target)) 1 := unary fun _ _ => .coercion

theorem check {t : Ty} (checks : p.tables.Checks line t code) : Turns p env 1 code 1 :=
  unary fun _ _ => .check checks

theorem index : Turns p env 2 (Code.ofOps line [.index]) 1 := binary fun _ _ _ => .bare (by simp) runBare_index

/-- The values on top are collected in one. -/
theorem collect {op : Opcode} {count : UInt16} {f : List (Value H) → Value H} (notJump : isJump op = false)
    (computed : ∀ stack, runWide p env op count.toNat stack =
      (takeTop count.toNat [] stack).map fun taken => f taken.1 :: taken.2) :
    Turns p env count.toNat [(line, .wide op count)] 1 := by
  intro offset values stack length
  have taken : takeTop count.toNat [] (values ++ stack) = .ok (values.reverse, stack) := by
    rw [← length, takeTop_append, List.append_nil]
  refine Computes.leaves (x := .ok ()) (g := fun _ => [f values.reverse]) (.wide notJump ?_) (fun _ => rfl) offset
  rw [computed, taken]
  rfl

/-- Past a value that is null, the code is skipped and the value stays. -/
theorem guarded {nullSafe : Bool} {body access : Code} (laid : Generation.guarded line nullSafe body = .ok access)
    (accessed : Turns p env 1 body 1) : Turns p env 1 access 1 := by
  unfold Generation.guarded at laid
  split at laid
  · obtain ⟨past, size, rfl⟩ := skipping_ok laid
    intro offset values stack one
    refine .skip rfl size trivial (fun _ _ => trivial) (fun _ => ⟨values, one, rfl⟩) fun _ => ?_
    exact accessed _ values stack one
  · cases laid
    exact accessed

theorem callMethod {m : Method H} {f : UInt16} {n : UInt8} (target : p.tables.Links f m) :
    Turns p env (n.toNat + 1) [(line, .call .callMethod f n)] 1 := by
  obtain ⟨entry, _, found⟩ := function_of_links target
  intro offset values stack length
  rcases List.eq_nil_or_concat' values with rfl | ⟨args, receiver, rfl⟩
  · cases length
  have count : args.reverse.length = n.toNat := by simpa using length
  have computes : Computes p env [(line, .call .callMethod f n)] (args ++ [receiver] ++ stack)
      ((invoke entry receiver args.reverse).map fun v => [v] ++ stack) := by
    refine .instr (by simp) fun offset => ?_
    have stepped : step p env (.call .callMethod f n) ⟨args.reverse.reverse ++ receiver :: stack, offset⟩ = _ :=
      step_callMethod found count
    rw [List.reverse_reverse] at stepped
    rw [List.append_assoc]
    refine stepped.trans ?_
    cases invoke entry receiver args.reverse <;> rfl
  exact computes.leaves (fun _ => rfl) offset

theorem callStatic {m : Method H} {f : UInt16} {n : UInt8} (target : p.tables.Links f m) :
    Turns p env n.toNat [(line, .call .callStatic f n)] 1 := by
  obtain ⟨entry, _, found⟩ := function_of_links target
  intro offset values stack length
  have count : values.reverse.length = n.toNat := by simpa using length
  have computes : Computes p env [(line, .call .callStatic f n)] (values ++ stack)
      ((entry.native .null values.reverse).map fun v => [v] ++ stack) := by
    refine .instr (by simp) fun offset => ?_
    have stepped : step p env (.call .callStatic f n) ⟨values.reverse.reverse ++ stack, offset⟩ = _ :=
      step_callStatic found count
    rw [List.reverse_reverse] at stepped
    refine stepped.trans ?_
    cases entry.native .null values.reverse <;> rfl
  exact computes.leaves (fun _ => rfl) offset

end Turns

theorem Adds.condition (adds : Adds p env 1 code) (isBoxed : Bool) :
    Adds p env 1 (Generation.condition line code isBoxed) := by
  cases isBoxed with
  | true => exact adds.thenTurns .unbox
  | false => exact adds

theorem Yields.afterPop (yields : Yields p env code good') :
    Carries p env good (Code.ofOps line [.pop] ++ code) good' := by
  intro offset v stack _
  refine (Turns.pop offset [v] stack rfl).append ?_
  rintro _ ⟨values, none, rfl⟩
  cases List.eq_nil_of_length_eq_zero none
  exact yields _ stack

/-- A jump decides which of two pieces of code leaves the value; the first one drops the value tested. -/
theorem Yields.choice {tested b b' d : Code} {op : Opcode} {distance past : UInt16} (yields : Yields p env tested good)
    (isJump : isJump op = true) (size : distance.toNat = (b ++ b').size + 4) (pastSize : past.toNat = d.size)
    (passed : Yields p env (b ++ b') good') (taken : Carries p env good d good') :
    Yields p env (tested ++ [(line, .wide op distance), (line, .bare .pop)] ++ b ++ b'
      ++ (line, .wide .jump past) :: d) good' := by
  have chosen : Carries p env good ((line, .wide op distance) ::
      (Code.ofOps line [.pop] ++ (b ++ b') ++ (line, .wide .jump past) :: d)) good' := by
    intro offset v stack isGood
    refine .branch isJump ?_ pastSize trivial (fun _ => trivial) (fun _ _ => trivial) (fun _ => ?_) fun _ => ?_
    · rw [size, Code.size_append (Code.ofOps _ _), Code.size_ofOps, List.length_singleton]
      omega
    · exact taken _ v stack isGood
    · exact passed.afterPop _ v stack isGood
  simpa [Code.ofOps] using yields.thenCarries chosen

/-- Operands laid out as a chain leave one value. -/
theorem Adds.chain {op : LogicalOp} {codes : List Code} (some : codes ≠ [])
    (each : ∀ x ∈ codes, Adds p env 1 x) (laid : layChain line (exitOp op) (chainSize codes) codes = .ok code) :
    Adds p env 1 code := by
  induction codes generalizing code with
  | nil => exact absurd rfl some
  | cons x rest ih =>
    cases rest with
    | nil =>
      cases laid
      exact each _ (by simp)
    | cons y rest =>
      obtain ⟨distance, others, reach, inner, rfl⟩ := layChain_cons laid
      have later := ih (by simp) (fun z member => each z (by simp [member])) inner
      have size : distance.toNat = (Code.ofOps line [.pop] ++ others).size := by simp [reach, layChain_size inner]
      have dropped : Turns p env 1 (Code.ofOps line [.pop] ++ others) 1 := Turns.pop.append (later.turns 0)
      refine (each x (by simp)).thenTurns ?_
      intro offset values stack one
      exact .skip (isJump_exitOp op) size trivial (fun _ _ => trivial) (fun _ => ⟨values, one, rfl⟩) fun _ =>
        dropped _ values stack one

end Machine

/-- What the draft of an expression adds to the stack. -/
def Draft.Adds (p : Program H) (env : Environment H) : Draft → Prop
  | .closed code => Machine.Adds p env 1 code
  | .concat n code => Machine.Adds p env n code
  | .chain _ operands => operands ≠ [] ∧ ∀ x ∈ operands, Machine.Adds p env 1 x.1

section Nodes

variable {p : Program H} {env : Environment H} {line : Nat}

theorem Pushes.getArgument {n : UInt16} : Pushes p env [(line, .wide .getArgument n)]
    ((env.argument n.toNat).elim (.error (.missingArgument n.toNat)) .ok) := by
  intro stack
  refine .wide rfl ?_
  simp only [runWide]
  cases env.argument n.toNat <;> rfl

theorem Pushes.getThis : Pushes p env (Code.ofOps line [.getThis])
    (env.this.elim (.error .missingThis) .ok) := fun _ => .bare (by simp) runBare_getThis

theorem passing_adds {s : Selection H} {args : List (Typed H)} {codes : List Code} {passing : Code} {n : UInt8}
    (chosen : s.ChosenFor p.catalog (args.map Typed.type)) (typed : ∀ a ∈ args, a.WellTyped p.catalog)
    (same : codes.length = args.length)
    (each : ∀ x ∈ args.zip codes, x.1.WellTyped p.catalog → (Draft.closed x.2).Adds p env)
    (passed : passArguments line s codes = .ok passing) (count : n.toNat = s.arity) :
    Machine.Adds p env n.toNat passing := by
  have all : ∀ code ∈ codes, Machine.Adds p env 1 code :=
    forall_of_zip same fun x member => each x member (typed x.1 (List.of_mem_zip member).1)
  rw [count]
  rcases chosen.passes.adds (same.trans (List.length_map _).symm) all with
    ⟨code, passed', adds⟩ | ⟨_, _, _, failed⟩
  · cases passed.symm.trans passed'
    exact adds
  · cases passed.symm.trans failed

/-- Two numbers, each coerced as soon as it is there, and an operation on both. -/
theorem coerced_adds {a b : Code} {left right : Ty} {kind : Kind} {o : Opcode}
    {f : Value H → Value H → Except RunError (Value H)} (first : Machine.Adds p env 1 a)
    (second : Machine.Adds p env 1 b) (goesOn : o ≠ .return)
    (computed : ∀ v w stack, Machine.runBare env o (w :: v :: stack) = (f v w).map (· :: stack)) :
    Machine.Adds p env 1 (a ++ Code.ofOps line (left.coercionCode kind) ++ b
      ++ Code.ofOps line (right.coercionCode kind) ++ Code.ofOps line [o]) :=
  (((first.thenTurns .coercion).thenTurns (second.turns 1)).thenTurns (Turns.coercion.above 1)).thenTurns
    (.binary fun _ _ _ => .bare goesOn (computed _ _ _))

/-- Laid out code adds the value of its expression. -/
theorem Layout.adds {t : Typed H} {d : Draft} (layout : Layout p.catalog p.tables t d)
    (typed : t.WellTyped p.catalog) : d.Adds p env := by
  induction layout with
  | literal loads => exact .ofPushes (.literal loads)
  | numeric _ _ operation ihl ihr =>
    cases typed with
    | numeric left right =>
      exact coerced_adds (ihl left) (ihr right) (arithmeticOp?_plain operation).2
        fun _ _ _ => runBare_arithmetic operation
  | text _ ih => exact ih typed
  | @join _ n m _ _ _ _ _ _ ihl ihr =>
    cases typed with
    | concat left right =>
      rw [Nat.add_comm n m]
      exact (ihl left).thenTurns ((ihr right).turns n)
  | concat _ number ih =>
    refine Machine.Adds.thenTurns (ih typed) ?_
    subst number
    refine .collect rfl (f := fun values => .string (String.join (values.map Value.text))) fun stack => ?_
    rw [← bind_pure_map]
    rfl
  | negate _ operation ih =>
    cases typed with
    | negate operand =>
      exact ((ih operand).thenTurns .coercion).thenTurns
        (.unary fun _ _ => .bare (negationOp?_plain operation).2 (runBare_negation operation))
  | operand _ ih => exact ⟨by simp, List.forall_mem_singleton.mpr (ih typed)⟩
  | chain _ _ ihl ihr =>
    cases typed with
    | logical left right =>
      obtain ⟨some, first⟩ := ihl left
      obtain ⟨_, second⟩ := ihr right
      exact ⟨by simp [some], List.forall_mem_append.mpr ⟨first, second⟩⟩
  | logical _ laid ih =>
    obtain ⟨some, each⟩ := ih typed
    refine .chain (by simpa using some) ?_ laid
    exact List.forall_mem_map.mpr fun x member => (each x member).condition x.2
  | not _ ih =>
    cases typed with
    | not operand => exact ((ih operand).condition _).thenTurns (.unary fun _ _ => .bare (by simp) runBare_not)
  | empty _ ih =>
    cases typed with
    | empty operand =>
      exact (ih operand).thenTurns (.unary (f := fun v => .ok (.bool (isEmpty v))) fun _ _ => .bare (by simp) rfl)
  | @equality _ negated _ _ _ _ _ _ ihl ihr =>
    cases typed with
    | equality left right =>
      have operands := (ihl left).thenTurns ((ihr right).turns 1)
      have equals {line : Nat} : Turns p env 2 (Code.ofOps line [.eqValue]) 1 :=
        .binary (f := fun v w => .ok (.bool (v.equals w))) fun _ _ _ => .bare (by simp) runBare_eqValue
      cases negated with
      | false => exact operands.thenTurns equals
      | true => exact operands.thenTurns (equals.append (.unary fun _ _ => .bare (by simp) runBare_not))
  | ordering _ _ operation ihl ihr =>
    cases typed with
    | ordering left right =>
      exact coerced_adds (ihl left) (ihr right) (relationalOp?_plain operation).2
        fun _ _ _ => runBare_relation operation
  | @comparison line op s isLeft l r _ _ conversion f o _ _ argument target operation ihl ihr =>
    cases typed with
    | comparison left right =>
      have operands := (ihl left).thenTurns ((ihr right).turns 1)
      have placed : Turns p env 2 (Code.ofOps line (if isLeft then [] else [.swap])) 2 := by
        cases isLeft with
        | true => exact .nil
        | false => exact .swap
      have called : Turns p env 2 [(line, .call .callMethod f 1)] 1 := .callMethod (n := 1) target
      have zero : Pushes p env (Code.ofOps line [.pushZero]) (.ok (.int 0)) := fun _ => .bare (by simp) rfl
      have related : Turns p env 2 (Code.ofOps line [o]) 1 :=
        .binary fun _ _ _ => .bare (relationalOp?_plain operation).2 (runBare_relation operation)
      exact ((((operands.thenTurns placed).thenTurns (Turns.conversion.above 1)).thenTurns
        called).thenTurns ((Machine.Adds.ofPushes zero).turns 1)).thenTurns related
  | @instanceOf _ t _ _ _ _ entry ih =>
    cases typed with
    | instanceOf operand =>
      refine (ih operand).thenTurns (.unary (f := fun v => .ok (.bool (p.catalog.isInstance v t))) fun _ _ =>
        .wide rfl ?_)
      simp only [runWide, constantType_of_names entry]
      rfl
  | @«matches» _ pattern _ _ _ _ entry ih =>
    cases typed with
    | «matches» operand =>
      refine (ih operand).thenTurns (.unary (f := fun v => (matchesPattern pattern v).map .bool) fun v _ =>
        .wide rfl ?_)
      simp only [runWide, patternAt, entry, ok_bind]
      cases matchesPattern pattern v <;> rfl
  | ternary _ _ _ _ _ toElseSize pastSize ihc iht ihe =>
    cases typed with
    | ternary condition thenBranch elseBranch =>
      refine adds_one.mpr ((adds_one.mp ((ihc condition).condition _)).choice rfl toElseSize pastSize ?_ ?_)
      · exact adds_one.mp ((iht thenBranch).thenTurns .conversion)
      · exact ((Turns.pop.append ((ihe elseBranch).turns 0)).append .conversion).carries
  | elvis _ _ _ _ presentSize pastSize ihl ihr =>
    cases typed with
    | elvis left right =>
      refine adds_one.mpr ((adds_one.mp (ihl left)).choice rfl presentSize pastSize ?_ Turns.conversion.carries)
      exact adds_one.mp ((ihr right).thenTurns .conversion)
  | arrayIndex _ _ ihe ihi =>
    cases typed with
    | arrayIndex target position =>
      exact ((ihe target).thenTurns (((ihi position).condition _).turns 1)).thenTurns .index
  | listIndex _ _ checked ihe ihi =>
    cases typed with
    | listIndex target position =>
      exact (((ihe target).thenTurns (((ihi position).condition _).turns 1)).thenTurns .index).thenTurns
        (.check checked)
  | mapIndex _ _ checked ihe ihi =>
    cases typed with
    | mapIndex target position =>
      exact (((ihe target).thenTurns ((ihi position).turns 1)).thenTurns
        (.binary fun _ _ _ => .bare (by simp) runBare_mapGet)).thenTurns (.check checked)
  | arrayLength _ laid ih =>
    cases typed with
    | arrayLength receiver =>
      exact (ih receiver).thenTurns (.guarded laid (.unary fun _ _ => .bare (by simp) runBare_arrayLength))
  | property _ target laid ih =>
    cases typed with
    | property receiver => exact (ih receiver).thenTurns (.guarded laid (.callMethod (n := 0) target))
  | call _ same _ passed target count laid ih iha =>
    cases typed with
    | call receiver arguments values declared chosen =>
      have passes := passing_adds chosen arguments same iha passed count
      refine (ih receiver).thenTurns (.guarded laid ?_)
      split
      · exact (Turns.pop.append (passes.turns 0)).append (.callStatic target)
      · exact (passes.turns 1).append (.callMethod target)
  | staticCall same _ passed target count iha =>
    cases typed with
    | staticCall arguments values declared isStatic chosen =>
      exact (passing_adds chosen arguments same iha passed count).thenTurns (.callStatic target)
  | contextStaticCall _ same _ passed target count iha =>
    cases typed with
    | contextCall arguments values chosen =>
      exact (passing_adds chosen arguments same iha passed count).thenTurns (.callStatic target)
  | contextCall _ entry same _ passed target count iha =>
    cases typed with
    | contextCall arguments values chosen =>
      have passes := passing_adds chosen arguments same iha passed count
      exact ((Machine.Adds.ofPushes fun _ => .getBean entry).thenTurns (passes.turns 1)).thenTurns
        (.callMethod target)
  | parameter _ checked => exact (Machine.Adds.ofPushes .getArgument).thenTurns (.check checked)
  | contextProperty entry target =>
    exact (Machine.Adds.ofPushes fun _ => .getBean entry).thenTurns (.callMethod (n := 0) target)
  | this checked => exact (Machine.Adds.ofPushes .getThis).thenTurns (.check checked)
  | bean entry => exact .ofPushes fun _ => .getBean entry
  | environment _ ih =>
    cases typed with
    | environment key => exact (ih key).thenTurns (.unary fun _ _ => .bare (by simp) runBare_getEnv)

end Nodes

end TypedExpr
