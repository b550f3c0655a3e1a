import Mathlib.Data.List.Nodup
import TypedExpr.Host.Record
import TypedExpr.Proofs.Computing
/-!
# Compiled programs compute the value of their expression

The run of a compiled program gives what the evaluation of the resolved expression gives: the same value or
the same error. The code of each node computes the value of that node, wherever it stands and whatever is on
the stack; a chain of one logical operator computes what its nested operators do pair by pair, and joined
texts what joining two at a time does.
-/

namespace TypedExpr

open Machine Operation Evaluation Generation

variable {H : Type} [HostObject H]

/-- The value of a chain of a logical operator: of the first operand that decides, or of the last one. -/
def chainResult (op : LogicalOp) : List (Except RunError (Value H)) → Except RunError (Value H)
  | [] => .ok .null
  | [last] => last
  | first :: rest => do
    let a ← first
    if ← decides op a then return a else chainResult op rest

theorem chainResult_cons {op : LogicalOp} {first : Except RunError (Value H)}
    {rest : List (Except RunError (Value H))} (more : rest ≠ []) :
    chainResult op (first :: rest) = (do
      let a ← first
      if ← decides op a then return a else chainResult op rest) := by
  cases rest with
  | nil => exact absurd rfl more
  | cons _ _ => rfl

/-- A chain of chains is one chain: what decided the first one decides the whole. -/
theorem chainResult_append {op : LogicalOp} {as bs : List (Except RunError (Value H))} (first : as ≠ [])
    (second : bs ≠ []) :
    chainResult op (as ++ bs) = (do
      let a ← chainResult op as
      if ← decides op a then return a else chainResult op bs) := by
  induction as with
  | nil => exact absurd rfl first
  | cons x rest ih =>
    cases rest with
    | nil => exact chainResult_cons second
    | cons y rest =>
      rw [List.cons_append, chainResult_cons (by simp), chainResult_cons (by simp), ih (by simp)]
      cases x with
      | error e => rfl
      | ok a =>
        show (decides op a >>= _) = ((decides op a >>= _) >>= _)
        cases decided : decides op a with
        | error e => rfl
        | ok isDecided =>
          cases isDecided with
          | false => rfl
          | true =>
            show _ = (decides op a >>= _)
            rw [decided]
            rfl

variable {p : Program H} {env : Environment H} {stack : List (Value H)} {line : Nat}

theorem Pushes.literal {v : Literal} {i : Instr} (loads : p.tables.Loads v i) :
    Pushes p env [(line, i)] (.ok v.value) := by
  intro stack
  cases loads with
  | bool b => cases b <;> exact .bare (by simp) rfl
  | zero | one | null => exact .bare (by simp) rfl
  | narrow entry same =>
    refine .instr (by simp) fun offset => ?_
    simp only [step, runNarrow, constantValue, entry, Option.bind_some, same]
    rfl
  | wide entry same =>
    refine .wide rfl ?_
    simp only [runWide, constantValue, entry, Option.bind_some, same]
    rfl

namespace Computes

theorem check {t : Ty} {code : Code} {v : Value H} (checks : p.tables.Checks line t code) :
    Computes p env code (v :: stack) ((checked p.catalog t v).map (· :: stack)) := by
  cases checks with
  | object isObject =>
    rw [checked, if_pos isObject]
    exact .nil
  | cast other entry =>
    refine .wide rfl ?_
    simp only [runWide, constantType_of_names entry, checked, other, Bool.false_eq_true, if_false]
    show (checkCast p.catalog t v >>= fun _ => _) = _
    cases checkCast p.catalog t v <;> rfl

theorem getBean {n : UInt16} {t : Ty} (entry : p.tables.Names n t) :
    Computes p env [(line, .wide .getBean n)] stack ((Evaluation.bean env t).map (· :: stack)) := by
  refine .wide rfl ?_
  simp only [runWide, constantType_of_names entry, Evaluation.bean, ok_bind]
  cases env.bean t <;> rfl

theorem newArray {n : UInt16} {values : List (Value H)} (count : values.length = n.toNat) :
    Computes p env [(line, .wide .newArray n)] (values.reverse ++ stack) (.ok (.array values :: stack)) := by
  refine .wide rfl ?_
  simp only [runWide, takeTop_pushed count]
  rfl

theorem concat {n : UInt16} {values : List (Value H)} (count : values.length = n.toNat) :
    Computes p env [(line, .wide .concat n)] (values.reverse ++ stack)
      (.ok (.string (String.join (values.map Value.text)) :: stack)) := by
  refine .wide rfl ?_
  simp only [runWide, takeTop_pushed count]
  rfl

end Computes

/-- The entry of the table does what the method does, under the same signature. -/
def Method.Serves (entry m : Method H) : Prop := entry.native = m.native ∧ entry.signature = m.signature

/-- The method of every call site in the expression is served by its entry. -/
def Program.Serves (p : Program H) (t : Typed H) : Prop :=
  ∀ u ∈ t.nodes, ∀ m type, u.site? = some (m, type) →
    ∀ entry, p.tables.linked? m = some entry → entry.Serves m

omit [HostObject H] in
theorem Program.Serves.child {t u : Typed H} (serves : p.Serves t) (child : u ∈ t.children) : p.Serves u :=
  fun v below => serves v (Typed.mem_nodes_of_child child below)

omit [HostObject H] in
theorem Method.Serves.invoke {entry m : Method H} (serves : entry.Serves m) (receiver : Value H)
    (args : List (Value H)) : Operation.invoke entry receiver args = Operation.invoke m receiver args := by
  simp only [Operation.invoke, serves.1, serves.2]

namespace Computes

variable {f : UInt16} {n : UInt8} {m : Method H} {args : List (Value H)} {receiver : Value H}

theorem callMethod (target : p.tables.Links f m)
    (serves : ∀ entry, p.tables.linked? m = some entry → entry.Serves m) (count : args.length = n.toNat) :
    Computes p env [(line, .call .callMethod f n)] (args.reverse ++ receiver :: stack)
      ((invoke m receiver args).map (· :: stack)) := by
  obtain ⟨entry, linked, found⟩ := function_of_links target
  refine .instr (by simp) fun offset => ?_
  rw [step_callMethod found count, (serves entry linked).invoke]
  cases Operation.invoke m receiver args <;> rfl

theorem callStatic (target : p.tables.Links f m)
    (serves : ∀ entry, p.tables.linked? m = some entry → entry.Serves m) (count : args.length = n.toNat) :
    Computes p env [(line, .call .callStatic f n)] (args.reverse ++ stack)
      ((m.native .null args).map (· :: stack)) := by
  obtain ⟨entry, linked, found⟩ := function_of_links target
  refine .instr (by simp) fun offset => ?_
  rw [step_callStatic found count, (serves entry linked).1]
  cases m.native .null args <;> rfl

theorem pop {v : Value H} {code : Code} {result : Except RunError (List (Value H))}
    (rest : Computes p env code stack result) :
    Computes p env (Code.ofOps line [.pop] ++ code) (v :: stack) result := after (by simp) rfl rest

end Computes

theorem jumps_exitOp {op : LogicalOp} {v : Value H} : jumps (exitOp op) (v :: stack) = decides op v := by
  cases op with
  | and =>
    show (asBool v >>= fun b => pure (!b)) = _
    rw [bind_pure_map]
    rfl
  | or => rfl

/-- Operands laid out as a chain compute the value of the chain. -/
theorem Pushes.chain {op : LogicalOp} {parts : List (Code × Except RunError (Value H))} {code : Code}
    (some : parts ≠ []) (each : ∀ x ∈ parts, Pushes p env x.1 x.2)
    (laid : layChain line (exitOp op) (chainSize (parts.map Prod.fst)) (parts.map Prod.fst) = .ok code) :
    Pushes p env code (chainResult op (parts.map Prod.snd)) := by
  induction parts generalizing code with
  | nil => exact absurd rfl some
  | cons x rest ih =>
    cases rest with
    | nil =>
      cases laid
      exact each x (by simp)
    | cons y rest =>
      obtain ⟨distance, others, reach, inner, rfl⟩ := layChain_cons laid
      have later := ih (by simp) (fun z member => each z (by simp [member])) inner
      rw [List.map_cons, chainResult_cons (by simp)]
      refine (each x (by simp)).bind fun v stack => ?_
      -- An operand that decides is the value: its jump leads behind all others.
      have size : distance.toNat = (Code.ofOps line [.pop] ++ others).size := by
        simp [reach, layChain_size inner]
      refine .skip (isJump_exitOp op) size (.pop (later stack)) ?_
      rw [map_bind, jumps_exitOp]
      cases decides op v with
      | error e => rfl
      | ok isDecided => cases isDecided <;> rfl

theorem Pushes.finished {op : LogicalOp} {parts : List ((Code × Bool) × Except RunError (Value H))} {code : Code}
    (some : parts ≠ []) (each : ∀ x ∈ parts, Pushes p env (Generation.condition line x.1.1 x.1.2) x.2)
    (laid : finish line (.chain op (parts.map Prod.fst)) = .ok code) :
    Pushes p env code (chainResult op (parts.map Prod.snd)) := by
  have results : parts.map Prod.snd =
      (parts.map fun x => (Generation.condition line x.1.1 x.1.2, x.2)).map Prod.snd := by simp
  rw [results]
  refine .chain (by simpa using some) ?_ (by simpa [finish, Function.comp_def] using laid)
  intro x member
  obtain ⟨y, inParts, rfl⟩ := List.mem_map.mp member
  exact each y inParts

theorem Computes.arguments {args : List (Typed H)} {codes : List Code} (conversions : List Conversion)
    (stack : List (Value H)) (same : codes.length = args.length)
    (each : ∀ x ∈ args.zip codes, Pushes p env x.2 (x.1.eval p.catalog env)) :
    Computes p env (convertEach line codes conversions) stack
      ((Typed.evalArguments p.catalog env args conversions).map fun vs => vs.reverse ++ stack) := by
  induction args generalizing codes conversions stack with
  | nil =>
    cases List.length_eq_zero_iff.mp same
    exact .nil
  | cons t ts ih =>
    cases codes with
    | nil => cases same
    | cons code codes =>
      cases conversions with
      | nil => exact .nil
      | cons conversion conversions =>
        have first : Pushes p env code (t.eval p.catalog env) := each (t, code) (by simp)
        have later (v : Value H) := ih conversions (v :: stack) (Nat.succ.inj same)
          fun x member => each x (by simp [member])
        simp only [convertEach, List.zipWith_cons_cons, List.flatten_cons, List.append_assoc,
          Typed.evalArguments, map_bind] at later ⊢
        refine (first stack).append fun a _ => Computes.conversion.append fun v _ => ?_
        have pushed : (Typed.evalArguments p.catalog env ts conversions >>= fun vs =>
            ((pure (v :: vs) : Except RunError (List (Value H))).map fun vs => vs.reverse ++ stack)) =
            (Typed.evalArguments p.catalog env ts conversions).map fun vs => vs.reverse ++ v :: stack := by
          rw [← bind_pure_map]
          simp only [pure, Except.pure, Except.map, List.reverse_cons, List.append_assoc, List.singleton_append]
        rw [pushed]
        exact later v

theorem evalArguments_length {c : Catalog H} {args : List (Typed H)} {conversions : List Conversion}
    {values : List (Value H)} (h : Typed.evalArguments c env args conversions = .ok values) :
    values.length = min args.length conversions.length := by
  induction args generalizing conversions values with
  | nil =>
    cases h
    simp
  | cons t ts ih =>
    cases conversions with
    | nil =>
      cases h
      simp
    | cons conversion conversions =>
      simp only [Typed.evalArguments] at h
      obtain ⟨a, _, h⟩ := bind_ok h
      obtain ⟨v, _, h⟩ := bind_ok h
      obtain ⟨vs, found, h⟩ := bind_ok h
      cases h
      simp only [List.length_cons, ih found]
      omega

theorem collect_length {c : Catalog H} {s : Selection H} {args : List (Typed H)} {values : List (Value H)}
    (passes : s.Passes c (args.map Typed.type))
    (h : Typed.evalArguments c env args s.conversions = .ok values) : (collect s values).length = s.arity := by
  have count := evalArguments_length h
  have lengths := passes.length
  rw [List.length_map] at lengths
  unfold collect
  split
  next none =>
    have fixed := passes.fixed none
    rw [List.length_map] at fixed
    omega
  next start found =>
    obtain ⟨inside, arity⟩ := passes.collected start found
    rw [List.length_map] at inside
    simp
    omega

/-- Passing arguments leaves them on the stack as the method takes them. -/
theorem Computes.passing {s : Selection H} {args : List (Typed H)} {codes : List Code} {code : Code}
    (passes : s.Passes p.catalog (args.map Typed.type)) (same : codes.length = args.length)
    (each : ∀ x ∈ args.zip codes, Pushes p env x.2 (x.1.eval p.catalog env))
    (passed : passArguments line s codes = .ok code) :
    Computes p env code stack
      ((Typed.evalArguments p.catalog env args s.conversions).map fun vs => (collect s vs).reverse ++ stack) := by
  have pushed := @Computes.arguments H _ p env line args codes s.conversions stack same each
  have lengths := passes.length
  rw [List.length_map] at lengths
  unfold passArguments at passed
  split at passed
  next none =>
    cases passed
    simpa only [collect, none] using pushed
  next start found =>
    dsimp only at passed
    split at passed
    · cases passed
    next matching =>
      obtain ⟨i, counted, rfl⟩ := map_ok passed
      obtain ⟨n, rfl, number⟩ := countInstr_ok counted
      obtain ⟨inside, _⟩ := passes.collected start found
      rw [List.length_map] at inside
      rw [← convertEach_split, ← bind_pure_map]
      refine pushed.append fun vs evaluated => ?_
      have count := evalArguments_length evaluated
      rw [List.length_drop] at number
      rw [collect, found]
      -- The arguments to collect were pushed last.
      have whole : vs.reverse ++ stack = (vs.drop start).reverse ++ ((vs.take start).reverse ++ stack) := by
        rw [← List.append_assoc, ← List.reverse_append, List.take_append_drop]
      rw [whole, List.reverse_append, List.append_assoc]
      exact .newArray (by rw [List.length_drop]; omega)

section Invocation

variable {s : Selection H} {args : List (Typed H)} {codes : List Code} {passing : Code} {f : UInt16} {n : UInt8}

theorem Computes.passToMethod {receiver : Value H} (passes : s.Passes p.catalog (args.map Typed.type))
    (same : codes.length = args.length)
    (each : ∀ x ∈ args.zip codes, Pushes p env x.2 (x.1.eval p.catalog env))
    (passed : passArguments line s codes = .ok passing) (target : p.tables.Links f s.method)
    (served : ∀ entry, p.tables.linked? s.method = some entry → entry.Serves s.method)
    (count : n.toNat = s.arity) :
    Computes p env (passing ++ [(line, .call .callMethod f n)]) (receiver :: stack)
      ((Typed.evalArguments p.catalog env args s.conversions >>= fun vs =>
        invoke s.method receiver (collect s vs)).map (· :: stack)) := by
  rw [map_bind]
  refine (Computes.passing passes same each passed).append fun vs evaluated => ?_
  exact .callMethod target served ((collect_length passes evaluated).trans count.symm)

theorem Computes.passToStatic (passes : s.Passes p.catalog (args.map Typed.type))
    (same : codes.length = args.length)
    (each : ∀ x ∈ args.zip codes, Pushes p env x.2 (x.1.eval p.catalog env))
    (passed : passArguments line s codes = .ok passing) (target : p.tables.Links f s.method)
    (served : ∀ entry, p.tables.linked? s.method = some entry → entry.Serves s.method)
    (count : n.toNat = s.arity) :
    Computes p env (passing ++ [(line, .call .callStatic f n)]) stack
      ((Typed.evalArguments p.catalog env args s.conversions >>= fun vs =>
        s.method.native .null (collect s vs)).map (· :: stack)) := by
  rw [map_bind]
  refine (Computes.passing passes same each passed).append fun vs evaluated => ?_
  exact .callStatic target served ((collect_length passes evaluated).trans count.symm)

end Invocation

/-- What the draft of an expression computes. -/
def Draft.Means (p : Program H) (env : Environment H) (t : Typed H) : Draft → Prop
  | .closed code => Pushes p env code (t.eval p.catalog env)
  | .chain op operands =>
    ∃ parts : List ((Code × Bool) × Except RunError (Value H)), parts ≠ [] ∧ parts.map Prod.fst = operands ∧
      (∀ x ∈ parts, ∀ line, Pushes p env (Generation.condition line x.1.1 x.1.2) x.2) ∧
      chainResult op (parts.map Prod.snd) = (t.eval p.catalog env >>= Evaluation.condition t.type)
  | .concat n code =>
    ∃ values : Except RunError (List (Value H)), (∀ vs, values = .ok vs → vs.length = n) ∧
      (∀ stack, Computes p env code stack (values.map fun vs => vs.reverse ++ stack)) ∧
      (t.eval p.catalog env).map Value.text = values.map fun vs => String.join (vs.map Value.text)

omit [HostObject H] in
theorem Evaluation.condition_boolean (x : Except RunError (Value H)) :
    (x >>= Evaluation.condition .boolean) = x := by cases x <;> rfl

theorem Evaluation.branch_of_conversion {c : Catalog H} {source target : Ty} {conversion : Conversion}
    (found : c.conversion? source target = some conversion) :
    Evaluation.branch c source target = convert conversion := by
  funext v
  simp only [Evaluation.branch, found]

theorem Typed.eval_concat {c : Catalog H} {l r : Typed H} :
    ((Typed.concat line l r).eval c env) =
      (((Typed.concat line l r).eval c env).map Value.text).map Value.string := by
  simp only [Typed.eval]
  cases l.eval c env with
  | error e => rfl
  | ok a => cases r.eval c env <;> rfl

theorem Pushes.converted {code : Code} {result : Except RunError (Value H)} {conversion : Conversion}
    (pushes : Pushes p env code result) :
    Pushes p env (code ++ Code.ofOps line conversion.code) (result >>= convert conversion) :=
  pushes.bind fun _ _ => .conversion

/-- One of two pieces of code; the first one drops the value that decided. -/
theorem Computes.choice {op : Opcode} {n past : UInt16} {v : Value H} {first second : Code}
    {result result' whole : Except RunError (List (Value H))} (isJump : isJump op = true)
    (size : n.toNat = first.size + 4) (pastSize : past.toNat = second.size)
    (passed : Computes p env first stack result) (taken : Computes p env second (v :: stack) result')
    (computed : (jumps op (v :: stack) >>= fun isTaken => if isTaken then result' else result) = whole) :
    Computes p env ([(line, .wide op n), (line, .bare .pop)] ++ (first ++ (line, .wide .jump past) :: second))
      (v :: stack) whole :=
  have popped : Computes p env (Code.ofOps line [.pop] ++ first) (v :: stack) result := passed.pop
  .branch isJump (by simp [size]; omega) pastSize popped taken computed

theorem Computes.guarded {nullSafe : Bool} {body access : Code} {v : Value H} {result : Except RunError (Value H)}
    (accessed : Computes p env body (v :: stack) (result.map (· :: stack)))
    (laid : Generation.guarded line nullSafe body = .ok access) :
    Computes p env access (v :: stack)
      (((if nullSafe && v.isNull then pure .null else result) : Except RunError (Value H)).map (· :: stack)) := by
  unfold Generation.guarded at laid
  split at laid
  next isSafe =>
    obtain ⟨past, size, rfl⟩ := skipping_ok laid
    refine .skip rfl size accessed ?_
    simp only [jumps, top, ok_bind, isSafe, Bool.true_and]
    cases v <;> rfl
  next notSafe =>
    cases laid
    simpa [notSafe] using accessed

/-- Generated code computes the value of its expression. -/
theorem Layout.means {t : Typed H} {d : Draft} (layout : Layout p.catalog p.tables t d)
    (typed : t.WellTyped p.catalog) (serves : p.Serves t) : d.Means p env t := by
  -- The layout has the cases; what resolution guarantees of the node is inverted in each of them.
  induction layout with
  | literal loads => exact .literal loads
  | numeric _ _ operation ihl ihr =>
    cases typed with
    | numeric left right =>
      intro stack
      have first := ihl left (serves.child (by simp))
      have second := ihr right (serves.child (by simp))
      simp only [Typed.eval, map_bind, List.append_assoc]
      refine (first stack).append fun _ _ => Computes.coercion.append fun a _ => (second (a :: stack)).append
        fun _ _ => Computes.coercion.append fun b _ => ?_
      exact .bare (arithmeticOp?_plain operation).2 (runBare_arithmetic operation)
  | @text t _ _ ih =>
    refine ⟨(t.eval p.catalog env).map fun v => [v], ?_, ?_, ?_⟩
    · intro vs same
      obtain ⟨v, _, rfl⟩ := map_ok same
      rfl
    · intro stack
      have pushed := ih typed serves stack
      cases h : t.eval p.catalog env <;> rw [h] at pushed <;> exact pushed
    · cases t.eval p.catalog env <;> simp [Except.map, String.join]
  | @join line _ _ l r _ _ _ _ ihl ihr =>
    cases typed with
    | concat left right =>
      obtain ⟨lefts, leftCount, leftCode, leftText⟩ := ihl left (serves.child (by simp))
      obtain ⟨rights, rightCount, rightCode, rightText⟩ :=
        ihr right (serves.child (by simp))
      refine ⟨lefts >>= fun vs => rights.map fun ws => vs ++ ws, ?_, ?_, ?_⟩
      · intro all same
        obtain ⟨vs, isLeft, same⟩ := bind_ok same
        obtain ⟨ws, isRight, rfl⟩ := map_ok same
        simp [leftCount vs isLeft, rightCount ws isRight]
      · intro stack
        rw [map_bind]
        refine (leftCode stack).append fun vs _ => ?_
        have pushed := rightCode (vs.reverse ++ stack)
        cases rights <;> simpa [Except.map] using pushed
      · simp only [Typed.eval]
        cases h : l.eval p.catalog env <;> cases h' : r.eval p.catalog env <;> cases lefts <;> cases rights <;>
          simp_all [Except.map, Bind.bind, Except.bind, Pure.pure, Except.pure, Value.text]
  | @concat line _ l r _ _ _ number ih =>
    intro stack
    obtain ⟨values, count, code, text⟩ := ih typed serves
    rw [Typed.eval_concat, text]
    have joined : ((values.map fun vs => String.join (vs.map Value.text)).map Value.string).map (· :: stack) =
        values >>= fun vs => .ok (Value.string (String.join (vs.map Value.text)) :: stack) := by
      cases values <;> rfl
    rw [joined]
    exact (code stack).append fun vs found => .concat ((count vs found).trans number.symm)
  | negate _ operation ih =>
    cases typed with
    | negate operand =>
      intro stack
      have first := ih operand (serves.child (by simp))
      simp only [Typed.eval, map_bind, List.append_assoc]
      refine (first stack).append fun _ _ => Computes.coercion.append fun a _ => ?_
      exact .bare (negationOp?_plain operation).2 (runBare_negation operation)
  | operand _ ih =>
    refine ⟨[(_, _)], by simp, rfl, ?_, rfl⟩
    simpa using fun line => (ih typed serves).condition
  | @chain _ op l r _ _ _ _ ihl ihr =>
    cases typed with
    | logical left right =>
      obtain ⟨lefts, some, rfl, each, value⟩ := ihl left (serves.child (by simp))
      obtain ⟨rights, some', rfl, each', value'⟩ := ihr right (serves.child (by simp))
      refine ⟨lefts ++ rights, by simp [some], by simp, ?_, ?_⟩
      · intro x member
        exact (List.mem_append.mp member).elim (each x) (each' x)
      · rw [List.map_append, chainResult_append (by simpa using some) (by simpa using some'), value, value']
        show _ = (Typed.eval p.catalog env (.logical _ op l r) >>= Evaluation.condition .boolean)
        rw [Evaluation.condition_boolean]
        simp only [Typed.eval, bind_assoc]
  | @logical line op l r operands code _ laid ih =>
    obtain ⟨parts, some, rfl, each, value⟩ := ih typed serves
    have whole := value.trans (Evaluation.condition_boolean _)
    rw [Draft.Means, ← whole]
    exact .finished some (fun x member => each x member line) laid
  | not _ ih =>
    cases typed with
    | not operand =>
      intro stack
      have first := ih operand (serves.child (by simp))
      simp only [Typed.eval, map_bind]
      refine first.conditionThen fun v => .bare (by simp) (runBare_not.trans ?_)
      cases asBool v <;> rfl
  | empty _ ih =>
    cases typed with
    | empty operand =>
      intro stack
      have first := ih operand (serves.child (by simp))
      simp only [Typed.eval, map_bind]
      exact (first stack).append fun v _ => .bare (by simp) rfl
  | @equality _ negated _ _ _ _ _ _ ihl ihr =>
    cases typed with
    | equality left right =>
      intro stack
      have first := ihl left (serves.child (by simp))
      have second := ihr right (serves.child (by simp))
      simp only [Typed.eval, map_bind, List.append_assoc]
      refine (first stack).append fun a _ => (second (a :: stack)).append fun b _ => ?_
      cases negated with
      | false => exact .bare (by simp) (by rw [runBare_eqValue, Bool.bne_false]; rfl)
      | true =>
        show Computes p env (Code.ofOps _ [.eqValue] ++ Code.ofOps _ [.not]) _ _
        refine .after (by simp) runBare_eqValue (.bare (by simp) ?_)
        rw [runBare_not, Bool.bne_true]
        rfl
  | ordering _ _ operation ihl ihr =>
    cases typed with
    | ordering left right =>
      intro stack
      have first := ihl left (serves.child (by simp))
      have second := ihr right (serves.child (by simp))
      simp only [Typed.eval, map_bind, List.append_assoc]
      refine (first stack).append fun _ _ => Computes.coercion.append fun a _ => (second (a :: stack)).append
        fun _ _ => Computes.coercion.append fun b _ => ?_
      exact .bare (relationalOp?_plain operation).2 (runBare_relation operation)
  | @comparison line op s isLeft l r _ _ conversion f o _ _ argument target operation ihl ihr =>
    have served := serves _ (Typed.mem_nodes _) _ _ rfl
    cases typed with
    | comparison left right =>
      intro stack
      have first := ihl left (serves.child (by simp))
      have second := ihr right (serves.child (by simp))
      have headD : s.conversions.headD .identity = conversion := by
        rw [List.headD_eq_head?_getD, argument, Option.getD_some]
      simp only [Typed.eval, map_bind, List.append_assoc, headD]
      refine (first stack).append fun a _ => (second (a :: stack)).append fun b _ => ?_
      have related (receiver x : Value H) : Computes p env (Code.ofOps line conversion.code
          ++ ([(line, .call .callMethod f 1)] ++ (Code.ofOps line [.pushZero] ++ Code.ofOps line [o])))
          (x :: receiver :: stack) (convert conversion x >>= fun x => invoke s.method receiver [x] >>=
            fun result => (relation (if isLeft then op else op.invert) result).map (· :: stack)) := by
        refine Computes.conversion.append fun x _ => ?_
        have called : Computes p env [(line, .call .callMethod f 1)] ([x].reverse ++ receiver :: stack) _ :=
          .callMethod target served rfl
        refine called.append fun result _ => ?_
        refine .after (by simp) rfl ?_
        exact .bare (relationalOp?_plain operation).2 (runBare_relation operation)
      cases isLeft with
      | true => exact related a b
      | false =>
        -- The receiver was pushed last and has to lie below its argument.
        exact .after (by simp) rfl (related b a)
  | instanceOf _ entry ih =>
    cases typed with
    | instanceOf operand =>
      intro stack
      have first := ih operand (serves.child (by simp))
      simp only [Typed.eval, map_bind]
      refine (first stack).append fun v _ => .wide rfl ?_
      simp only [runWide, constantType_of_names entry, ok_bind]
      rfl
  | @«matches» _ pattern _ _ _ _ entry ih =>
    cases typed with
    | «matches» operand =>
      intro stack
      have first := ih operand (serves.child (by simp))
      simp only [Typed.eval, map_bind]
      refine (first stack).append fun v _ => .wide rfl ?_
      simp only [runWide, patternAt, entry, ok_bind]
      cases matchesPattern pattern v <;> rfl
  | ternary _ _ _ thenConverts elseConverts toElseSize pastSize ihc iht ihe =>
    cases typed with
    | ternary condition thenBranch elseBranch =>
      intro stack
      have test := ihc condition (serves.child (by simp))
      have first := iht thenBranch (serves.child (by simp))
      have second := ihe elseBranch (serves.child (by simp))
      simp only [Typed.eval, map_bind, List.append_assoc, Evaluation.branch_of_conversion thenConverts,
        Evaluation.branch_of_conversion elseConverts]
      refine test.conditionThen fun v => ?_
      rw [← List.append_assoc _ _ (_ :: _)]
      refine .choice rfl toElseSize (by simpa using pastSize) (first.converted stack)
        (second.converted stack).pop ?_
      simp only [jumps, top, ok_bind]
      cases asBool v with
      | error e => rfl
      | ok truth => cases truth <;> rfl
  | elvis _ _ leftConverts rightConverts presentSize pastSize ihl ihr =>
    cases typed with
    | elvis left right =>
      intro stack
      have first := ihl left (serves.child (by simp))
      have second := ihr right (serves.child (by simp))
      simp only [Typed.eval, map_bind, List.append_assoc, Evaluation.branch_of_conversion leftConverts,
        Evaluation.branch_of_conversion rightConverts]
      refine (first stack).append fun v _ => ?_
      rw [← List.append_assoc _ _ (_ :: _)]
      refine .choice rfl presentSize pastSize (second.converted stack) .conversion ?_
      simp only [jumps, top, ok_bind]
      cases v <;> rfl
  | arrayIndex _ _ ihe ihi =>
    cases typed with
    | arrayIndex target position =>
      intro stack
      have first := ihe target (serves.child (by simp))
      have second := ihi position (serves.child (by simp))
      simp only [Typed.eval, map_bind, List.append_assoc]
      refine (first stack).append fun v _ => second.conditionThen fun w => .bare (by simp) ?_
      rw [runBare_index, map_bind]
  | listIndex _ _ checked ihe ihi =>
    cases typed with
    | listIndex target position =>
      intro stack
      have first := ihe target (serves.child (by simp))
      have second := ihi position (serves.child (by simp))
      simp only [Typed.eval, map_bind, List.append_assoc]
      refine (first stack).append fun v _ => second.conditionThen fun w => ?_
      rw [← bind_assoc]
      exact Computes.append (.bare (by simp) runBare_index) fun x _ => .check checked
  | mapIndex _ _ checked ihe ihi =>
    cases typed with
    | mapIndex target position =>
      intro stack
      have first := ihe target (serves.child (by simp))
      have second := ihi position (serves.child (by simp))
      simp only [Typed.eval, map_bind, List.append_assoc]
      refine (first stack).append fun v _ => (second (v :: stack)).append fun w _ => ?_
      exact Computes.append (.bare (by simp) runBare_mapGet) fun x _ => .check checked
  | arrayLength _ laid ih =>
    cases typed with
    | arrayLength receiver =>
      intro stack
      have first := ih receiver (serves.child (by simp))
      simp only [Typed.eval, map_bind]
      exact (first stack).append fun v _ => .guarded (.bare (by simp) runBare_arrayLength) laid
  | property _ target laid ih =>
    have served := serves _ (Typed.mem_nodes _) _ _ rfl
    cases typed with
    | property receiver =>
      intro stack
      have first := ih receiver (serves.child (by simp))
      simp only [Typed.eval, map_bind]
      refine (first stack).append fun v _ => .guarded ?_ laid
      exact .callMethod target served rfl
  | @call _ _ s _ _ _ _ _ _ _ _ _ same _ passed target count laid ih iha =>
    have served := serves _ (Typed.mem_nodes _) _ _ rfl
    cases typed with
    | call receiver arguments values declared chosen =>
      intro stack
      have first := ih receiver (serves.child (by simp))
      have each := fun x member => iha x member (arguments _ (List.of_mem_zip member).1) (serves.child
        (by simp [(List.of_mem_zip member).1]))
      simp only [Typed.eval, map_bind]
      refine (first stack).append fun v _ => .guarded ?_ laid
      cases kind : s.method.isStatic with
      | true => exact (Computes.passToStatic chosen.passes same each passed target served count).pop
      | false => exact .passToMethod chosen.passes same each passed target served count
  | staticCall same _ passed target count iha =>
    have served := serves _ (Typed.mem_nodes _) _ _ rfl
    cases typed with
    | staticCall arguments values declared isStatic chosen =>
      intro stack
      have each := fun x member => iha x member (arguments _ (List.of_mem_zip member).1) (serves.child
        (by simp [(List.of_mem_zip member).1]))
      simp only [Typed.eval]
      exact .passToStatic chosen.passes same each passed target served count
  | @parameter line position t _ _ number isChecked =>
    intro stack
    have read : Typed.eval p.catalog env (.parameter line position t) =
        (env.argument position).elim (.error (.missingArgument position)) .ok >>= checked p.catalog t := by
      simp only [Typed.eval]
      cases env.argument position <;> rfl
    rw [read, map_bind]
    refine Computes.append (a := [_]) (.wide rfl ?_) fun v _ => .check isChecked
    simp only [runWide, number]
    cases env.argument position <;> rfl
  | contextProperty entry target =>
    have served := serves _ (Typed.mem_nodes _) _ _ rfl
    intro stack
    simp only [Typed.eval, map_bind]
    exact (Computes.getBean entry).append fun v _ => .callMethod target served rfl
  | contextCall onBean entry same _ passed target count iha =>
    have served := serves _ (Typed.mem_nodes _) _ _ rfl
    cases typed with
    | contextCall arguments values chosen =>
      intro stack
      have each := fun x member => iha x member (arguments _ (List.of_mem_zip member).1) (serves.child
        (by simp [(List.of_mem_zip member).1]))
      simp only [Typed.eval, onBean, Bool.false_eq_true, if_false, List.append_assoc]
      rw [map_bind]
      exact (Computes.getBean entry).append fun v _ =>
        .passToMethod chosen.passes same each passed target served count
  | contextStaticCall isStatic same _ passed target count iha =>
    have served := serves _ (Typed.mem_nodes _) _ _ rfl
    cases typed with
    | contextCall arguments values chosen =>
      intro stack
      have each := fun x member => iha x member (arguments _ (List.of_mem_zip member).1) (serves.child
        (by simp [(List.of_mem_zip member).1]))
      simp only [Typed.eval, isStatic, if_true]
      exact .passToStatic chosen.passes same each passed target served count
  | @this line t _ isChecked =>
    intro stack
    have read : Typed.eval p.catalog env (.this line t) =
        env.this.elim (.error .missingThis) .ok >>= checked p.catalog t := by
      simp only [Typed.eval]
      cases env.this <;> rfl
    rw [read, map_bind]
    exact Computes.append (.bare (by simp) runBare_getThis) fun v _ => .check isChecked
  | bean entry => exact fun stack => .getBean entry
  | environment _ ih =>
    cases typed with
    | environment key =>
      intro stack
      have first := ih key (serves.child (by simp))
      simp only [Typed.eval, map_bind]
      refine (first stack).append fun v _ => .bare (by simp) (runBare_getEnv.trans ?_)
      cases asString "environment key" v <;> rfl

/-- Code at the start of a program decides its run. -/
theorem Pushes.run {code : Code} {result : Except RunError (Value H)} (pushes : Pushes p env code result)
    (whole : p.chunk = Code.chunk (code ++ Code.ofOps line [.return])) (sized : code.WellSized) :
    p.run env = result := by
  have held : p.chunk.Holds 0 (code ++ Code.ofOps line [.return]) := by
    rw [whole]
    exact Code.chunk_holds (by simp +decide [sized])
  rw [Chunk.holds_append] at held
  have led := pushes [] 0 held.1 .refl
  have ending (s : State H) (atEnd : result.map (· :: []) = .ok s.stack ∧ s.offset = 0 + code.size) :
      p.chunk.instrAt? s.offset = some (.bare .return) := atEnd.2 ▸ held.2.1
  rcases led.run ending with ⟨s, ⟨computed, _⟩, ran⟩ | ⟨e, failed, ran⟩
  · obtain ⟨v, rfl, pushed⟩ := map_ok computed
    rw [ran, ← pushed]
    rfl
  · rw [ran]
    cases result with
    | error e' =>
      cases failed
      rfl
    | ok v => cases failed

/-- Methods that are selected in the expression under one digest do the same under the same signature. -/
def Typed.Consistent (t : Typed H) : Prop :=
  ∀ m ∈ t.selected, ∀ n ∈ t.selected, m.digest = n.digest → m.Serves n

omit [HostObject H] in
theorem Typed.Consistent.serves {t : Typed H} (consistent : t.Consistent)
    (grows : Tables.empty.Grows t.selected p.tables) : p.Serves t := by
  intro u member m type site entry linked
  rw [grows.linked?] at linked
  have isSelected : m ∈ t.selected :=
    List.mem_map.mpr ⟨(m, type), List.mem_filterMap.mpr ⟨u, member, site⟩, rfl⟩
  exact consistent entry (List.mem_of_find?_eq_some linked) m isSelected (by simpa using List.find?_some linked)

/-- The run of a compiled expression gives the value of the resolved expression, or its error. -/
theorem Expr.run_eq_eval {ctx : Context H} {e : Expr} {p : Program H} (compiled : e.compile ctx = .ok p) :
    ∃ t, (e.resolve ctx .blank).1 = .ok t ∧
      (t.Consistent → ∀ env, p.run env = t.eval ctx.catalog env) := by
  obtain ⟨t, code, resolved, typed, layout, grows, whole, _, sameCatalog⟩ := Expr.compile_ok compiled
  refine ⟨t, resolved, fun consistent env => ?_⟩
  have sized : code.WellSized := layout.wellSized
  rw [← sameCatalog] at typed layout ⊢
  exact (layout.means typed (consistent.serves grows)).run whole sized

omit [HostObject H] in
/-- Where all digests differ, nothing can be mistaken. -/
theorem Typed.consistent_of_nodup {t : Typed H} (distinct : (t.selected.map Method.digest).Nodup) :
    t.Consistent := by
  intro m isSelected n isSelected' same
  cases List.inj_on_of_nodup_map distinct isSelected isSelected' same
  exact ⟨rfl, rfl⟩

/-- A declared type with a number and a text. -/
def orderType : TypeDef Record where
  name := "Order"
  methods := [.declare (.ofName "Order") "total" [] .int fun _ _ => .ok (.int 7),
    .declare (.ofName "Order") "name" [] .string fun _ _ => .ok (.string "books")]

def orderContext : Context Record where
  catalog := ⟨[orderType]⟩
  scope := (({} : Declarations Record).parameter "order" (.ofName "Order")).scope

/-- The expression `order.total() > 5 ? order.name() : 'none'`. -/
def orderExpr : Expr :=
  .ternary default
    (.relational default .gt (.call default (.name default "order") "total" [] false)
      (.literal default (.int 5)))
    (.call default (.name default "order") "name" [] false) (.literal default (.string "none"))

theorem orderExpr_run_eq_eval : ∃ p t, orderExpr.compile orderContext = .ok p ∧
    (orderExpr.resolve orderContext .blank).1 = .ok t ∧ t.Consistent ∧
    ∀ env, p.run env = t.eval orderContext.catalog env := by
  have succeeds : (orderExpr.compile orderContext).toOption.isSome = true := by decide +kernel
  obtain ⟨p, found⟩ := Option.isSome_iff_exists.mp succeeds
  obtain ⟨t, resolved, agree⟩ := Expr.run_eq_eval (toOption_some found)
  have distinct : ((orderExpr.resolve orderContext .blank).1.toOption.map fun t =>
      decide (t.selected.map Method.digest).Nodup) = some true := by decide +kernel
  have consistent : t.Consistent := by
    rw [resolved] at distinct
    exact Typed.consistent_of_nodup (of_decide_eq_true (Option.some.inj distinct))
  exact ⟨p, t, toOption_some found, resolved, consistent, agree consistent⟩

end TypedExpr
