import TypedExpr.Proofs.WellTyped
import TypedExpr.Session
/-!
# What the resolution of a node does

Resolution works on the nodes below one after the other, each with its own memory, and succeeds only after all of
them have. This is said once for all forms of expressions (`Expr.resolve_traverses`); what a resolution remembers
and what it depends on follow from it (`Expr.resolve_open`, `Expr.resolve_agree`).
-/

namespace TypedExpr

variable {H : Type}

/-- The conversions and the cut of a selection go with a number of arguments. -/
def Selection.Fits (s : Selection H) (count : Nat) : Prop :=
  s.conversions.length = count ∧ ∀ start, s.varargsStart = some start → start ≤ count

theorem Selection.ChosenFor.fits {c : Catalog H} {s : Selection H} {types : List Ty}
    (chosen : s.ChosenFor c types) : s.Fits types.length := by
  have passes := chosen.passes
  exact ⟨passes.length, fun start isStart => (passes.collected start isStart).1⟩

/-- A resolved expression for a node, over the resolved expressions of the nodes below it. -/
inductive Expr.ResolvesTo : Expr → List (Typed H) → Typed H → Prop where
  | literal {span : Span} {v : Literal} : ResolvesTo (.literal span v) [] (.literal span.line v)
  | numeric {span : Span} {op : ArithmeticOp} {kind : Kind} {l r : Expr} {l' r' : Typed H} :
      ResolvesTo (.arithmetic span op l r) [l', r'] (.numeric span.line op kind l' r')
  | concat {span : Span} {l r : Expr} {l' r' : Typed H} :
      ResolvesTo (.arithmetic span .add l r) [l', r'] (.concat span.line l' r')
  | negate {span : Span} {kind : Kind} {e : Expr} {e' : Typed H} (number : e'.type.numericKind? = some kind) :
      ResolvesTo (.negate span e) [e'] (.negate span.line kind e')
  | logical {span : Span} {op : LogicalOp} {l r : Expr} {l' r' : Typed H} :
      ResolvesTo (.logical span op l r) [l', r'] (.logical span.line op l' r')
  | not {span : Span} {e : Expr} {e' : Typed H} : ResolvesTo (.not span e) [e'] (.not span.line e')
  | empty {span : Span} {e : Expr} {e' : Typed H} : ResolvesTo (.empty span e) [e'] (.empty span.line e')
  | equality {span : Span} {negated : Bool} {l r : Expr} {l' r' : Typed H} :
      ResolvesTo (.equality span negated l r) [l', r'] (.equality span.line negated l' r')
  | ordering {span : Span} {op : RelationalOp} {kind : Kind} {l r : Expr} {l' r' : Typed H} :
      ResolvesTo (.relational span op l r) [l', r'] (.ordering span.line op kind l' r')
  | comparison {span : Span} {op : RelationalOp} {s : Selection H} {isLeft : Bool} {l r : Expr}
      {l' r' : Typed H} :
      ResolvesTo (.relational span op l r) [l', r'] (.comparison span.line op s isLeft l' r')
  | instanceOf {span : Span} {typeName : String} {t : Ty} {e : Expr} {e' : Typed H} :
      ResolvesTo (.instanceOf span e typeName) [e'] (.instanceOf span.line t e')
  | matches {span : Span} {source : String} {p : Pattern} {e : Expr} {e' : Typed H} :
      ResolvesTo (.matches span e source) [e'] (.matches span.line p e')
  | ternary {span : Span} {type : Ty} {c t e : Expr} {c' t' e' : Typed H} :
      ResolvesTo (.ternary span c t e) [c', t', e'] (.ternary span.line type c' t' e')
  | elvis {span : Span} {type : Ty} {l r : Expr} {l' r' : Typed H} :
      ResolvesTo (.elvis span l r) [l', r'] (.elvis span.line type l' r')
  | index {span : Span} {form : IndexForm} {type : Ty} {t i : Expr} {t' i' : Typed H} :
      ResolvesTo (.index span t i) [t', i'] (.index span.line form type t' i')
  | arrayLength {span : Span} {name : String} {nullSafe : Bool} {e : Expr} {e' : Typed H} :
      ResolvesTo (.property span e name nullSafe) [e'] (.arrayLength span.line nullSafe e')
  | property {span : Span} {name : String} {nullSafe : Bool} {p : Property H} {e : Expr} {e' : Typed H} :
      ResolvesTo (.property span e name nullSafe) [e'] (.property span.line nullSafe p e')
  | call {span : Span} {name : String} {nullSafe : Bool} {s : Selection H} {e : Expr} {args : List Expr}
      {e' : Typed H} {args' : List (Typed H)} (count : args'.length = args.length) (fits : s.Fits args.length) :
      ResolvesTo (.call span e name args nullSafe) (e' :: args') (.call span.line nullSafe s e' args')
  | staticCall {span : Span} {typeName name : String} {s : Selection H} {args : List Expr}
      {args' : List (Typed H)} (count : args'.length = args.length) (fits : s.Fits args.length) :
      ResolvesTo (.staticCall span typeName name args) args' (.staticCall span.line s args')
  | parameter {span : Span} {name : String} {index : Nat} {t : Ty} :
      ResolvesTo (.name span name) [] (.parameter span.line index t)
  | contextProperty {span : Span} {name : String} {owner : Ty} {p : Property H} :
      ResolvesTo (.name span name) [] (.contextProperty span.line owner p)
  | contextMethod {span : Span} {name : String} {s : Selection H} (fits : s.Fits 0) :
      ResolvesTo (.name span name) [] (.contextCall span.line s [])
  | contextCall {span : Span} {name : String} {s : Selection H} {args : List Expr} {args' : List (Typed H)}
      (count : args'.length = args.length) (fits : s.Fits args.length) :
      ResolvesTo (.contextCall span name args) args' (.contextCall span.line s args')
  | this {span : Span} {t : Ty} : ResolvesTo (.this span) [] (.this span.line t)
  | bean {span : Span} {typeName : String} {t : Ty} : ResolvesTo (.bean span typeName) [] (.bean span.line t)
  | environment {span : Span} {k : Expr} {k' : Typed H} :
      ResolvesTo (.environment span k) [k'] (.environment span.line k')

theorem Expr.ResolvesTo.line {e : Expr} {ts : List (Typed H)} {t : Typed H} (resolves : e.ResolvesTo ts t) :
    t.line = e.span.line := by
  cases resolves <;> rfl

theorem Expr.ResolvesTo.length {e : Expr} {ts : List (Typed H)} {t : Typed H} (resolves : e.ResolvesTo ts t) :
    ts.length = e.children.length := by
  cases resolves with
  | call count => simp [count]
  | staticCall count | contextCall count => exact count
  | _ => rfl

namespace Resolution

variable {c : Catalog H} {ctx : Context H} {span : Span} {l r e : Expr} {l' r' e' t : Typed H}

theorem arithmetic_resolvesTo {op : ArithmeticOp} (h : arithmetic span op l' r' = .ok t) :
    (Expr.arithmetic span op l r).ResolvesTo [l', r'] t := by
  unfold arithmetic at h
  split at h
  next texts =>
    cases h
    obtain ⟨rfl, _⟩ : op = .add ∧ _ := by simpa only [Bool.and_eq_true, decide_eq_true_eq] using texts
    exact .concat
  · split at h
    · cases h
    · cases h
      exact .numeric

theorem relational_resolvesTo {op : RelationalOp} (h : relational c span op l' r' = .ok t) :
    (Expr.relational span op l r).ResolvesTo [l', r'] t := by
  unfold relational at h
  split at h
  · cases h
    exact .ordering
  · obtain ⟨isLeft, _, h⟩ := bind_ok h
    obtain ⟨s, _, h⟩ := bind_ok h
    split at h
    · cases h
    · cases h
      exact .comparison

theorem index_resolvesTo (h : index c span l' r' = .ok t) : (Expr.index span l r).ResolvesTo [l', r'] t := by
  simp only [index] at h
  repeat' split at h
  all_goals cases h
  all_goals exact .index

theorem property_resolvesTo {name : String} {nullSafe : Bool} (h : property c span e' name nullSafe = .ok t) :
    (Expr.property span e name nullSafe).ResolvesTo [e'] t := by
  unfold property at h
  split at h
  · cases h
    exact .arrayLength
  · split at h
    · cases h
    · cases h
      exact .property
    · cases h

theorem name_resolvesTo {name : String} (h : Resolution.name ctx span name = .ok t) :
    (Expr.name span name).ResolvesTo [] t := by
  unfold Resolution.name at h
  split at h
  · cases h
  · cases h
    exact .parameter
  · cases h
    exact .contextProperty
  · obtain ⟨s, selected, rfl⟩ := map_ok h
    exact .contextMethod (Catalog.selectMethod_chosen selected).2.fits
  · cases h

theorem this_resolvesTo (h : Resolution.this ctx span = .ok t) : (Expr.this span).ResolvesTo [] t := by
  unfold Resolution.this at h
  split at h
  · cases h
    exact .this
  · cases h

theorem bean_resolvesTo {typeName : String} (h : bean ctx span typeName = .ok t) :
    (Expr.bean span typeName).ResolvesTo [] t := by
  obtain ⟨u, _, h⟩ := bind_ok h
  split at h
  · cases h
  · cases h
    exact .bean

theorem instanceOf_resolvesTo {typeName : String} (h : instanceOf ctx span e' typeName = .ok t) :
    (Expr.instanceOf span e typeName).ResolvesTo [e'] t := by
  obtain ⟨u, _, h⟩ := bind_ok h
  split at h
  · cases h
  · cases h
    exact .instanceOf

theorem matches_resolvesTo {source : String} (h : Resolution.matches ctx span e' source = .ok t) :
    (Expr.matches span e source).ResolvesTo [e'] t := by
  unfold Resolution.matches at h
  split at h
  · cases h
  · split at h
    · cases h
      exact .matches
    · cases h

theorem selected_fits {name : String} {candidates : List (Method H)} {args : List Expr} {args' : List (Typed H)}
    {s : Selection H} (count : args'.length = args.length)
    (selected : c.selectMethod name candidates (args'.map Typed.type) span = .ok s) : s.Fits args.length := by
  have fits := (Catalog.selectMethod_chosen selected).2.fits
  rwa [List.length_map, count] at fits

/-- A visit resolves the next node with its memory, which is blank if there is none. -/
theorem visit_run (attempt : Attempt H) (done ms : List (Memo H)) :
    visit attempt ⟨done, ms⟩ =
      ((attempt (ms.headD .blank)).1, ⟨(attempt (ms.headD .blank)).2 :: done, ms.tail⟩) := by
  cases ms <;> rfl

theorem visitValue_bind_run {α : Type} (e : Expr) (attempt : Attempt H) (work : Typed H → Visit H α)
    (done ms : List (Memo H)) : (visitValue e attempt >>= work) ⟨done, ms⟩ =
      match attempt (ms.headD .blank) with
      | (.error err, m) => (.error err, ⟨m :: done, ms.tail⟩)
      | (.ok t, m) =>
        if t.type.isVoid then (.error (.mismatch (.noValue e.text) e.span), ⟨m :: done, ms.tail⟩)
        else work t ⟨m :: done, ms.tail⟩ := by
  rcases attempted : attempt (ms.headD .blank) with ⟨result, m⟩
  simp only [visitValue, Bind.bind, ExceptT.bind, ExceptT.mk, StateT.bind, visit_run, attempted]
  cases result with
  | error err => rfl
  | ok t =>
    simp only [ExceptT.bindCont]
    cases t.type.isVoid <;> rfl

end Resolution

open Resolution (visitValue settle)

/-- Each of the nodes was resolved with its memory, or left as it was. -/
def Memo.Touched (ctx : Context H) (es : List Expr) (before after : List (Memo H)) : Prop :=
  ∀ i e, es[i]? = some e → after.getD i .blank = (e.resolve ctx (before.getD i .blank)).2 ∨
    after.getD i .blank = before.getD i .blank

/-- All the nodes were resolved, with these results. -/
def Memo.AllResolved (ctx : Context H) (es : List Expr) (ts : List (Typed H)) (before after : List (Memo H)) :
    Prop :=
  ∀ i e, es[i]? = some e → ∃ t, ts[i]? = some t ∧
    e.resolve ctx (before.getD i .blank) = (.ok t, after.getD i .blank)

section

variable {ctx : Context H} {e : Expr} {es : List Expr} {m : Memo H} {before after : List (Memo H)}

theorem Memo.Touched.refl : Memo.Touched ctx es before before := fun _ _ _ => .inr rfl

theorem Memo.Touched.cons (first : (e.resolve ctx (before.headD .blank)).2 = m)
    (rest : Memo.Touched ctx es before.tail after) : Memo.Touched ctx (e :: es) before (m :: after) := by
  intro i e' here
  cases i with
  | zero =>
    cases here
    left
    cases before <;> exact first.symm
  | succ i =>
    have later := rest i e' here
    cases before <;> exact later

theorem Memo.AllResolved.cons {t : Typed H} {ts : List (Typed H)}
    (first : e.resolve ctx (before.headD .blank) = (.ok t, m))
    (rest : Memo.AllResolved ctx es ts before.tail after) :
    Memo.AllResolved ctx (e :: es) (t :: ts) before (m :: after) := by
  intro i e' here
  cases i with
  | zero =>
    cases here
    refine ⟨t, rfl, ?_⟩
    cases before <;> exact first
  | succ i =>
    have later := rest i e' here
    cases before <;> exact later

end

/-- The work on a node visits nodes below it one after the other. Where it succeeds it has visited all of them,
and its result is as expected for what they yield. -/
inductive Visit.Traverses (ctx : Context H) {α : Type} :
    List Expr → Visit H α → (List (Typed H) → α → Prop) → Prop where
  | yield {x : Except CompileError α} {expected : List (Typed H) → α → Prop}
      (result : ∀ a, x = .ok a → expected [] a) : Traverses ctx [] (liftExcept x) expected
  | fail {es : List Expr} {err : CompileError} {expected : List (Typed H) → α → Prop} :
      Traverses ctx es (throw err) expected
  | next {e : Expr} {es : List Expr} {work : Typed H → Visit H α} {expected : List (Typed H) → α → Prop}
      (rest : ∀ t, Traverses ctx es (work t) fun ts => expected (t :: ts)) :
      Traverses ctx (e :: es) (visitValue e (e.resolve ctx) >>= work) expected

namespace Visit.Traverses

variable {ctx : Context H} {α β : Type} {es : List Expr} {expected : List (Typed H) → α → Prop}

theorem done {a : α} (result : expected [] a) : Traverses ctx [] (pure a) expected :=
  .yield (x := .ok a) fun b same => by
    cases same
    exact result

theorem check {x : Except CompileError β} {work : β → Visit H α}
    (rest : ∀ b, x = .ok b → Traverses ctx es (work b) expected) :
    Traverses ctx es (liftExcept x >>= work) expected := by
  cases x with
  | error err => exact .fail
  | ok b => exact rest b rfl

theorem weaken {work : Visit H α} {expected' : List (Typed H) → α → Prop}
    (traverses : Traverses ctx es work expected)
    (weaker : ∀ ts a, ts.length = es.length → expected ts a → expected' ts a) :
    Traverses ctx es work expected' := by
  induction traverses generalizing expected' with
  | yield result => exact .yield fun a same => weaker [] a rfl (result a same)
  | fail => exact .fail
  | next rest ih => exact .next fun t => ih t fun ts a count => weaker (t :: ts) a (congrArg Nat.succ count)

theorem arguments {args : List Expr} {work : List (Typed H) → Visit H α}
    (rest : ∀ ts, ts.length = args.length → Traverses ctx [] (work ts) fun _ => expected ts) :
    Traverses ctx args (Expr.resolveArguments ctx args >>= work) expected := by
  induction args generalizing work expected with
  | nil =>
    refine (rest [] rfl).weaken fun ts a none result => ?_
    rwa [List.eq_nil_of_length_eq_zero none]
  | cons e args ih =>
    simp only [Expr.resolveArguments, bind_assoc, pure_bind]
    apply next
    intro t
    apply ih
    intro ts count
    exact rest (t :: ts) (by simp [count])

/-- The nodes below are resolved with their own memories, as far as the work goes. -/
theorem run {work : Visit H α} (traverses : Traverses ctx es work expected) (done ms : List (Memo H)) :
    ∃ after : List (Memo H), (work ⟨done, ms⟩).2.all = done.reverse ++ after ∧ Memo.Touched ctx es ms after ∧
      ∀ a, (work ⟨done, ms⟩).1 = .ok a → ∃ ts, expected ts a ∧ Memo.AllResolved ctx es ts ms after := by
  induction traverses generalizing done ms with
  | @yield x expected result =>
    have unchanged : (liftExcept x : Visit H α) ⟨done, ms⟩ = (x, ⟨done, ms⟩) := by cases x <;> rfl
    rw [unchanged]
    exact ⟨ms, List.reverseAux_eq, .refl, fun a same => ⟨[], result a same, nofun⟩⟩
  | fail => exact ⟨ms, List.reverseAux_eq, .refl, nofun⟩
  | @next e es work expected rest ih =>
    rw [Resolution.visitValue_bind_run]
    rcases resolved : e.resolve ctx (ms.headD .blank) with ⟨err | t, m⟩
    · exact ⟨m :: ms.tail, by simp [Visited.all], .cons (by rw [resolved]) .refl, nofun⟩
    by_cases hasNoValue : t.type.isVoid
    · simp only [hasNoValue, if_true]
      refine ⟨m :: ms.tail, by simp [Visited.all], .cons (by rw [resolved]) .refl, ?_⟩
      intro a fails
      cases fails
    simp only [hasNoValue]
    obtain ⟨after, all, touched, succeeds⟩ := ih t (m :: done) ms.tail
    refine ⟨m :: after, by simpa using all, touched.cons (by rw [resolved]), ?_⟩
    intro a same
    obtain ⟨ts, result, visited⟩ := succeeds a same
    exact ⟨t :: ts, result, visited.cons resolved⟩

/-- The result depends on the memories only through the results of the nodes below. -/
theorem agree {work : Visit H α} (traverses : Traverses ctx es work expected) (done ms done' ms' : List (Memo H))
    (same : ∀ (i : Nat) (e : Expr), es[i]? = some e →
      (e.resolve ctx (ms.getD i .blank)).1 = (e.resolve ctx (ms'.getD i .blank)).1) :
    (work ⟨done, ms⟩).1 = (work ⟨done', ms'⟩).1 := by
  induction traverses generalizing done ms done' ms' with
  | @yield x expected result => cases x <;> rfl
  | fail => rfl
  | @next e es work expected rest ih =>
    have first : (e.resolve ctx (ms.headD .blank)).1 = (e.resolve ctx (ms'.headD .blank)).1 := by
      have here := same 0 e rfl
      cases ms <;> cases ms' <;> exact here
    rw [Resolution.visitValue_bind_run, Resolution.visitValue_bind_run]
    rcases resolved : e.resolve ctx (ms.headD .blank) with ⟨result, m⟩
    rcases resolved' : e.resolve ctx (ms'.headD .blank) with ⟨result', m'⟩
    obtain rfl : result = result' := by rwa [resolved, resolved'] at first
    cases result with
    | error err => rfl
    | ok t =>
      by_cases hasNoValue : t.type.isVoid
      · simp only [hasNoValue, if_true]
      simp only [hasNoValue]
      apply ih
      intro i e' here
      have later := same (i + 1) e' here
      cases ms <;> cases ms' <;> exact later

end Visit.Traverses

open Visit.Traverses in
/-- Resolution visits the nodes below from left to right. -/
theorem Expr.resolve_traverses (ctx : Context H) (e : Expr) :
    ∃ work, e.resolve ctx = settle work ∧ Visit.Traverses ctx e.children work e.ResolvesTo := by
  cases e with
  | literal span v => exact ⟨_, rfl, done .literal⟩
  | arithmetic span op l r =>
    exact ⟨_, rfl, .next fun _ => .next fun _ => .yield fun _ => Resolution.arithmetic_resolvesTo⟩
  | negate span e =>
    refine ⟨_, rfl, .next fun operand => ?_⟩
    cases number : operand.type.numericKind? with
    | none => exact .fail
    | some kind => exact done (.negate number)
  | logical span op l r =>
    exact ⟨_, rfl, .next fun _ => check fun _ _ => .next fun _ => check fun _ _ => done .logical⟩
  | not span e => exact ⟨_, rfl, .next fun _ => check fun _ _ => done .not⟩
  | empty span e => exact ⟨_, rfl, .next fun _ => done .empty⟩
  | equality span negated l r => exact ⟨_, rfl, .next fun _ => .next fun _ => done .equality⟩
  | relational span op l r =>
    exact ⟨_, rfl, .next fun _ => .next fun _ => .yield fun _ => Resolution.relational_resolvesTo⟩
  | instanceOf span e typeName => exact ⟨_, rfl, .next fun _ => .yield fun _ => Resolution.instanceOf_resolvesTo⟩
  | «matches» span e source => exact ⟨_, rfl, .next fun _ => .yield fun _ => Resolution.matches_resolvesTo⟩
  | ternary span c t e =>
    refine ⟨_, rfl, .next fun condition => ?_⟩
    cases condition.type.isBoolean with
    | false => exact .fail
    | true => exact .next fun _ => .next fun _ => done .ternary
  | elvis span l r =>
    refine ⟨_, rfl, .next fun left => ?_⟩
    cases left.type.isReference with
    | false => exact .fail
    | true => exact .next fun _ => done .elvis
  | index span t i => exact ⟨_, rfl, .next fun _ => .next fun _ => .yield fun _ => Resolution.index_resolvesTo⟩
  | property span e name nullSafe => exact ⟨_, rfl, .next fun _ => .yield fun _ => Resolution.property_resolvesTo⟩
  | call span e name args nullSafe =>
    exact ⟨_, rfl, .next fun _ => check fun _ _ => arguments fun _ count => check fun _ selected =>
      done (.call count (Resolution.selected_fits count selected))⟩
  | staticCall span typeName name args =>
    exact ⟨_, rfl, check fun _ _ => check fun _ _ => arguments fun _ count => check fun _ selected =>
      done (.staticCall count (Resolution.selected_fits count selected))⟩
  | name span name => exact ⟨_, rfl, .yield fun _ => Resolution.name_resolvesTo⟩
  | contextCall span name args =>
    exact ⟨_, rfl, check fun _ _ => arguments fun _ count => check fun _ selected =>
      done (.contextCall count (Resolution.selected_fits count selected))⟩
  | this span => exact ⟨_, rfl, .yield fun _ => Resolution.this_resolvesTo⟩
  | bean span typeName => exact ⟨_, rfl, .yield fun _ => Resolution.bean_resolvesTo⟩
  | environment span k =>
    refine ⟨_, rfl, .next fun key => ?_⟩
    cases key.type.isStringLike with
    | false => exact .fail
    | true => exact done .environment

/-- A node that remembers its outcome is not worked on again. -/
theorem Expr.resolve_cached {ctx : Context H} {e : Expr} {m : Memo H} {t : Typed H} (cached : m.outcome = some t) :
    e.resolve ctx m = (.ok t, m) := by
  obtain ⟨work, same, _⟩ := e.resolve_traverses ctx
  simp only [same, settle, cached]

/-- All that the resolution of an open node does: the nodes below are resolved or left as they were, the node
remembers its result if it is a success, and then they were all resolved. -/
theorem Expr.resolve_open (ctx : Context H) (e : Expr) {m : Memo H} (unsettled : m.outcome = none) :
    (e.resolve ctx m).2.outcome = (e.resolve ctx m).1.toOption ∧
      Memo.Touched ctx e.children m.children (e.resolve ctx m).2.children ∧
      ∀ t, (e.resolve ctx m).1 = .ok t → ∃ ts, e.ResolvesTo ts t ∧
        Memo.AllResolved ctx e.children ts m.children (e.resolve ctx m).2.children := by
  obtain ⟨work, same, traverses⟩ := e.resolve_traverses ctx
  obtain ⟨after, all, touched, succeeds⟩ := traverses.run [] m.children
  have ran : e.resolve ctx m = ((work ⟨[], m.children⟩).1, .node (work ⟨[], m.children⟩).1.toOption after) := by
    rw [List.reverse_nil, List.nil_append] at all
    rw [← all]
    simp only [same, settle, unsettled]
    rfl
  rw [ran]
  exact ⟨rfl, touched, succeeds⟩

/-- Resolutions of an open node agree if those of the nodes below do. -/
theorem Expr.resolve_agree {ctx : Context H} {e : Expr} {m m' : Memo H} (unsettled : m.outcome = none)
    (unsettled' : m'.outcome = none)
    (same : ∀ (i : Nat) (below : Expr), e.children[i]? = some below →
      (below.resolve ctx (m.child i)).1 = (below.resolve ctx (m'.child i)).1) :
    (e.resolve ctx m).1 = (e.resolve ctx m').1 := by
  obtain ⟨work, isWork, traverses⟩ := e.resolve_traverses ctx
  simp only [isWork, settle, unsettled, unsettled']
  exact traverses.agree [] m.children [] m'.children same

theorem Expr.sizeOf_child {e below : Expr} (member : below ∈ e.children) : sizeOf below < sizeOf e := by
  cases e with
  | call span e name args nullSafe =>
    rcases List.mem_cons.mp member with rfl | argument
    · simp only [Expr.call.sizeOf_spec]
      omega
    · have smaller := List.sizeOf_lt_of_mem argument
      simp only [Expr.call.sizeOf_spec]
      omega
  | staticCall span typeName name args =>
    have smaller : sizeOf below < sizeOf args := List.sizeOf_lt_of_mem member
    simp only [Expr.staticCall.sizeOf_spec]
    omega
  | contextCall span name args =>
    have smaller : sizeOf below < sizeOf args := List.sizeOf_lt_of_mem member
    simp only [Expr.contextCall.sizeOf_spec]
    omega
  | literal | name | this | bean => cases member
  | ternary span c t e =>
    simp only [Expr.children, List.mem_cons, List.not_mem_nil, or_false] at member
    simp only [Expr.ternary.sizeOf_spec]
    rcases member with rfl | rfl | rfl <;> omega
  | negate | not | empty | instanceOf | «matches» | property | environment =>
    obtain rfl := List.mem_singleton.mp member
    simp only [negate.sizeOf_spec, not.sizeOf_spec, empty.sizeOf_spec, instanceOf.sizeOf_spec, matches.sizeOf_spec,
      property.sizeOf_spec, environment.sizeOf_spec]
    omega
  | arithmetic | logical | equality | relational | elvis | index =>
    simp only [arithmetic.sizeOf_spec, logical.sizeOf_spec, equality.sizeOf_spec, relational.sizeOf_spec,
      elvis.sizeOf_spec, index.sizeOf_spec]
    rcases List.mem_cons.mp member with rfl | member
    · omega
    · obtain rfl := List.mem_singleton.mp member
      omega

/-- Induction over the nodes of an expression, whatever their forms. -/
theorem Expr.induction_below {property : Expr → Prop}
    (step : ∀ e : Expr, (∀ below ∈ e.children, property below) → property e) (e : Expr) : property e :=
  step e fun below _ => Expr.induction_below step below
termination_by sizeOf e
decreasing_by exact Expr.sizeOf_child ‹_›

end TypedExpr
