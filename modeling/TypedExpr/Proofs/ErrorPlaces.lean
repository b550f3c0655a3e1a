import TypedExpr.Proofs.History
/-!
# Where an error points

An attempt to resolve an expression fails at one node. The work on a node fails with an error at the place of the
node, unless a node below stops it (`Expr.resolve_error`). So an error leads to a node above which nothing is resolved
(`Expr.resolve_error_path`), while what was resolved beside that node is resolved all the way down
(`Expr.resolve_error_place`).
-/

namespace TypedExpr

variable {H α β : Type}

theorem Ty.isVoid_iff {t : Ty} : t.isVoid = true ↔ t = .void := by cases t <;> simp [Ty.isVoid]

/-- The place to which an error points; faults of code generation have none. -/
def CompileError.place? : CompileError → Option Span
  | .internal _ => none
  | err => some err.span

theorem CompileError.place?_eq_some {err : CompileError} {span : Span} (isPlace : err.place? = some span) :
    err.span = span ∧ ∀ fault, err ≠ .internal fault := by
  cases err with
  | internal fault => cases isPlace
  | _ =>
    cases isPlace
    simp [CompileError.span]

/-- Where the computation fails, the error is at the place. -/
def FailsAt (span : Span) (x : Except CompileError α) : Prop := ∀ err, x = .error err → err.place? = some span

namespace FailsAt

variable {span : Span} {x : Except CompileError α}

theorem ok {a : α} : FailsAt span (.ok a : Except CompileError α) := by
  intro err same
  cases same

theorem error {err : CompileError} (isPlace : err.place? = some span) :
    FailsAt span (.error err : Except CompileError α) := by
  intro err' same
  cases same
  exact isPlace

theorem bind {f : α → Except CompileError β} (first : FailsAt span x) (later : ∀ a, FailsAt span (f a)) :
    FailsAt span (x >>= f) := by
  cases x with
  | error err => exact error (first err rfl)
  | ok a => exact later a

theorem map {f : α → β} (first : FailsAt span x) : FailsAt span (x.map f) := by
  cases x with
  | error err => exact error (first err rfl)
  | ok a => exact ok

end FailsAt

section

variable {c : Catalog H} {ctx : Context H} {span : Span} {l r e : Typed H}

theorem Catalog.selectMethod_failsAt {name : String} {candidates : List (Method H)} {arguments : List Ty} :
    FailsAt span (c.selectMethod name candidates arguments span) := by
  unfold selectMethod
  split
  · exact .ok
  · exact .error rfl
  · exact .error rfl

theorem Context.lookupType_failsAt {name : String} : FailsAt span (ctx.lookupType name span) := by
  unfold lookupType
  split
  · exact .ok
  · exact .error rfl

namespace Resolution

theorem arithmetic_failsAt {op : ArithmeticOp} : FailsAt span (arithmetic span op l r) := by
  unfold arithmetic
  split
  · exact .ok
  · split
    · exact .error rfl
    · exact .ok

theorem receiverIsLeft_failsAt {op : RelationalOp} {left right : Ty} :
    FailsAt span (receiverIsLeft c span op left right) := by
  unfold receiverIsLeft
  split
  · split
    · exact .ok
    · exact .error rfl
  · exact .ok
  · exact .ok
  · exact .error rfl

theorem relational_failsAt {op : RelationalOp} : FailsAt span (relational c span op l r) := by
  unfold relational
  split
  · exact .ok
  · refine receiverIsLeft_failsAt.bind fun isLeft => Catalog.selectMethod_failsAt.bind fun s => ?_
    split
    · exact .error rfl
    · exact .ok

theorem index_failsAt : FailsAt span (index c span l r) := by
  simp only [index]
  repeat' split
  all_goals first | exact .ok | exact .error rfl

theorem property_failsAt {name : String} {nullSafe : Bool} : FailsAt span (property c span e name nullSafe) := by
  unfold property
  split
  · exact .ok
  · dsimp only
    split
    · exact .error rfl
    · exact .ok
    · exact .error rfl

theorem name_failsAt {name : String} : FailsAt span (Resolution.name ctx span name) := by
  unfold Resolution.name
  split
  · exact .error rfl
  · exact .ok
  · exact .ok
  · exact Catalog.selectMethod_failsAt.map
  · exact .error rfl

theorem this_failsAt : FailsAt span (Resolution.this ctx span) := by
  unfold Resolution.this
  split
  · exact .ok
  · exact .error rfl

theorem bean_failsAt {typeName : String} : FailsAt span (bean ctx span typeName) := by
  refine Context.lookupType_failsAt.bind fun t => ?_
  split
  · exact .error rfl
  · exact .ok

theorem instanceOf_failsAt {typeName : String} : FailsAt span (instanceOf ctx span e typeName) := by
  refine Context.lookupType_failsAt.bind fun t => ?_
  split
  · exact .error rfl
  · exact .ok

theorem matches_failsAt {source : String} : FailsAt span (Resolution.matches ctx span e source) := by
  unfold Resolution.matches
  split
  · exact .error rfl
  · split
    · exact .ok
    · exact .error rfl

theorem booleanOperand_failsAt {symbol : String} : FailsAt span (booleanOperand span symbol e) := by
  unfold booleanOperand
  split
  · exact .ok
  · exact .error rfl

theorem argumentLimit_failsAt {args : List Expr} : FailsAt span (argumentLimit ctx span args) := by
  unfold argumentLimit
  dsimp only
  split
  · exact .error rfl
  · exact .ok

end Resolution
end

open Resolution (visitValue settle)

/-- The node stops the work on the node above it with the error: it fails with that, or it is resolved but yields no
value, and the error is at its place. -/
def Expr.Stops (ctx : Context H) (e : Expr) (before after : Memo H) (err : CompileError) : Prop :=
  e.resolve ctx before = (.error err, after) ∨
    ∃ t, e.resolve ctx before = (.ok t, after) ∧ t.type = .void ∧ err.place? = some e.span

/-- The work on a node visits nodes below it one after the other, and its own errors are at the place. -/
inductive Visit.Blames (ctx : Context H) (span : Span) {α : Type} : List Expr → Visit H α → Prop where
  | yield {x : Except CompileError α} (own : FailsAt span x) : Blames ctx span [] (liftExcept x)
  | fail {es : List Expr} {err : CompileError} (own : err.place? = some span) : Blames ctx span es (throw err)
  | next {e : Expr} {es : List Expr} {work : Typed H → Visit H α} (rest : ∀ t, Blames ctx span es (work t)) :
      Blames ctx span (e :: es) (visitValue e (e.resolve ctx) >>= work)

namespace Visit.Blames

variable {ctx : Context H} {span : Span} {es : List Expr}

theorem done {a : α} : Blames ctx span [] (pure a : Visit H α) := .yield (x := .ok a) .ok

theorem check {x : Except CompileError β} {work : β → Visit H α} (own : FailsAt span x)
    (rest : ∀ b, Blames ctx span es (work b)) : Blames ctx span es (liftExcept x >>= work) := by
  cases x with
  | error err => exact .fail (own err rfl)
  | ok b => exact rest b

theorem arguments {args : List Expr} {work : List (Typed H) → Visit H α}
    (rest : ∀ ts, Blames ctx span [] (work ts)) :
    Blames ctx span args (Expr.resolveArguments ctx args >>= work) := by
  induction args generalizing work with
  | nil => exact rest []
  | cons e args ih =>
    simp only [Expr.resolveArguments, bind_assoc, pure_bind]
    exact .next fun t => ih fun ts => rest (t :: ts)

/-- Work that fails does so with an error at the place, or one of the nodes stopped it. -/
theorem run {work : Visit H α} (blames : Blames ctx span es work) {done ms : List (Memo H)} {err : CompileError}
    (failed : (work ⟨done, ms⟩).1 = .error err) :
    err.place? = some span ∨ ∃ after, (work ⟨done, ms⟩).2.all = done.reverse ++ after ∧
      ∃ (i : Nat) (e : Expr), es[i]? = some e ∧ e.Stops ctx (ms.getD i .blank) (after.getD i .blank) err := by
  induction blames generalizing done ms with
  | @yield x own =>
    left
    apply own
    cases x with
    | error err' => exact failed
    | ok a => cases failed
  | fail own =>
    left
    cases failed
    exact own
  | @next e es work rest ih =>
    have first : ms.headD .blank = ms.getD 0 .blank := by cases ms <;> rfl
    rw [Resolution.visitValue_bind_run] at failed ⊢
    rcases resolved : e.resolve ctx (ms.headD .blank) with ⟨err' | t, m⟩
    · rw [resolved] at failed
      cases failed
      right
      exact ⟨m :: ms.tail, by simp [Visited.all], 0, e, rfl, .inl (first ▸ resolved)⟩
    rw [resolved] at failed
    by_cases hasNoValue : t.type.isVoid
    · simp only [hasNoValue, if_true] at failed ⊢
      cases failed
      right
      exact ⟨m :: ms.tail, by simp [Visited.all], 0, e, rfl,
        .inr ⟨t, first ▸ resolved, Ty.isVoid_iff.mp hasNoValue, rfl⟩⟩
    simp only [hasNoValue] at failed ⊢
    rcases ih t failed with own | ⟨after, all, i, e', here, stops⟩
    · exact .inl own
    · have later : ms.tail.getD i .blank = ms.getD (i + 1) .blank := by cases ms <;> rfl
      right
      exact ⟨m :: after, by simpa using all, i + 1, e', here, later ▸ stops⟩

end Visit.Blames

open Visit.Blames in
theorem Expr.resolve_blames (ctx : Context H) (e : Expr) :
    ∃ work, e.resolve ctx = settle work ∧ Visit.Blames ctx e.span e.children work := by
  cases e with
  | literal span v => exact ⟨_, rfl, done⟩
  | arithmetic span op l r => exact ⟨_, rfl, .next fun _ => .next fun _ => .yield Resolution.arithmetic_failsAt⟩
  | negate span e =>
    refine ⟨_, rfl, .next fun operand => ?_⟩
    cases operand.type.numericKind? with
    | none => exact .fail rfl
    | some kind => exact done
  | logical span op l r =>
    exact ⟨_, rfl, .next fun _ => check Resolution.booleanOperand_failsAt fun _ => .next fun _ =>
      check Resolution.booleanOperand_failsAt fun _ => done⟩
  | not span e => exact ⟨_, rfl, .next fun _ => check Resolution.booleanOperand_failsAt fun _ => done⟩
  | empty span e => exact ⟨_, rfl, .next fun _ => done⟩
  | equality span negated l r => exact ⟨_, rfl, .next fun _ => .next fun _ => done⟩
  | relational span op l r => exact ⟨_, rfl, .next fun _ => .next fun _ => .yield Resolution.relational_failsAt⟩
  | instanceOf span e typeName => exact ⟨_, rfl, .next fun _ => .yield Resolution.instanceOf_failsAt⟩
  | «matches» span e source => exact ⟨_, rfl, .next fun _ => .yield Resolution.matches_failsAt⟩
  | ternary span c t e =>
    refine ⟨_, rfl, .next fun condition => ?_⟩
    cases condition.type.isBoolean with
    | false => exact .fail rfl
    | true => exact .next fun _ => .next fun _ => done
  | elvis span l r =>
    refine ⟨_, rfl, .next fun left => ?_⟩
    cases left.type.isReference with
    | false => exact .fail rfl
    | true => exact .next fun _ => done
  | index span t i => exact ⟨_, rfl, .next fun _ => .next fun _ => .yield Resolution.index_failsAt⟩
  | property span e name nullSafe => exact ⟨_, rfl, .next fun _ => .yield Resolution.property_failsAt⟩
  | call span e name args nullSafe =>
    exact ⟨_, rfl, .next fun _ => check Resolution.argumentLimit_failsAt fun _ => arguments fun _ =>
      check Catalog.selectMethod_failsAt fun _ => done⟩
  | staticCall span typeName name args =>
    exact ⟨_, rfl, check Context.lookupType_failsAt fun _ => check Resolution.argumentLimit_failsAt fun _ =>
      arguments fun _ => check Catalog.selectMethod_failsAt fun _ => done⟩
  | name span name => exact ⟨_, rfl, .yield Resolution.name_failsAt⟩
  | contextCall span name args =>
    exact ⟨_, rfl, check Resolution.argumentLimit_failsAt fun _ => arguments fun _ =>
      check Catalog.selectMethod_failsAt fun _ => done⟩
  | this span => exact ⟨_, rfl, .yield Resolution.this_failsAt⟩
  | bean span typeName => exact ⟨_, rfl, .yield Resolution.bean_failsAt⟩
  | environment span k =>
    refine ⟨_, rfl, .next fun key => ?_⟩
    cases key.type.isStringLike with
    | false => exact .fail rfl
    | true => exact done

namespace Expr

variable {ctx : Context H} {e : Expr} {m m' : Memo H} {err : CompileError}

/-- A node whose resolution fails stays open. The error is at its place, or a node below stopped it. -/
theorem resolve_error (failed : e.resolve ctx m = (.error err, m')) :
    m'.outcome = none ∧ (err.place? = some e.span ∨
      ∃ (i : Nat) (below : Expr), e.children[i]? = some below ∧ below.Stops ctx (m.child i) (m'.child i) err) := by
  obtain ⟨work, same, blames⟩ := e.resolve_blames ctx
  rw [same] at failed
  cases cached : m.outcome with
  | some t =>
    simp only [settle, cached] at failed
    cases failed
  | none =>
    simp only [settle, cached] at failed
    obtain ⟨result, rfl⟩ := Prod.mk.inj failed
    have result : (work ⟨[], m.children⟩).1 = .error err := result
    refine ⟨congrArg Except.toOption result, ?_⟩
    rcases blames.run result with own | ⟨after, all, i, below, here, stops⟩
    · exact .inl own
    · rw [List.reverse_nil, List.nil_append] at all
      subst all
      exact .inr ⟨i, below, here, stops⟩

/-- An error leads down to a node at its place. The nodes above that stay open, and so does the node itself unless it
was resolved and yields no value. -/
theorem resolve_error_path (failed : e.resolve ctx m = (.error err, m')) :
    ∃ path node, e.follow? path = some node ∧ err.place? = some node.span ∧
      (∀ above, above <+: path → above ≠ path → (m'.follow above).outcome = none) ∧
      ((m'.follow path).outcome = none ∨ ∃ t, (m'.follow path).outcome = some t ∧ t.type = .void) := by
  induction e using Expr.induction_below generalizing m m' with
  | step e ih =>
    obtain ⟨unsettled, place⟩ := resolve_error failed
    rcases place with own | ⟨i, below, here, stops⟩
    · refine ⟨[], e, rfl, own, ?_, .inl unsettled⟩
      intro above isPrefix proper
      exact absurd (List.prefix_nil.mp isPrefix) proper
    rcases stops with inner | ⟨t, resolved, hasNoValue, isPlace⟩
    · obtain ⟨path, node, isNode, isPlace, onTheWay, last⟩ := ih below (List.mem_of_getElem? here) inner
      refine ⟨i :: path, node, follow?_cons.mpr ⟨below, here, isNode⟩, isPlace, ?_, last⟩
      intro above isPrefix proper
      rcases List.prefix_cons_iff.mp isPrefix with rfl | ⟨rest, rfl, inside⟩
      · exact unsettled
      · exact onTheWay rest inside fun same => proper (congrArg _ same)
    · refine ⟨[i], below, follow?_cons.mpr ⟨below, here, rfl⟩, isPlace, ?_, ?_⟩
      · intro above isPrefix proper
        rcases List.prefix_cons_iff.mp isPrefix with rfl | ⟨rest, rfl, inside⟩
        · exact unsettled
        · exact absurd (congrArg _ (List.prefix_nil.mp inside)) proper
      · exact .inr ⟨t, resolve_remembers resolved, hasNoValue⟩

/-- Whichever nodes were resolved before, an attempt to resolve an expression that fails does so with an error at the
place of one of its nodes. Afterwards the nodes above that are unresolved, and so is the node itself unless it is
resolved and yields no value. Of every node that is resolved all nodes below are. -/
theorem resolve_error_place (ctx : Context H) (e : Expr) (calls : List (Call H)) {err : CompileError} {m : Memo H}
    (failed : e.resolve ctx (e.after calls) = (.error err, m)) :
    (∀ fault, err ≠ .internal fault) ∧
    (∃ path node, e.follow? path = some node ∧ err.span = node.span ∧
      (∀ above, above <+: path → above ≠ path → (m.follow above).outcome = none) ∧
      ((m.follow path).outcome = none ∨ ∃ t, (m.follow path).outcome = some t ∧ t.type = .void)) ∧
    ∀ path node t, e.follow? path = some node → (m.follow path).outcome = some t →
      ∀ below sub, node.follow? below = some sub → ∃ u, ((m.follow path).follow below).outcome = some u := by
  obtain ⟨path, node, isNode, isPlace, onTheWay, last⟩ := resolve_error_path failed
  obtain ⟨span, notInternal⟩ := CompileError.place?_eq_some isPlace
  refine ⟨notInternal, ⟨path, node, isNode, span, onTheWay, last⟩, ?_⟩
  have coherent : (e.resolve ctx (e.after calls)).2.Coherent e := Memo.Coherent.resolve (e.after_coherent calls)
  rw [failed] at coherent
  intro path' node' t isNode' cached below sub isSub
  have inside : (m.follow path').Coherent node' := coherent.follow isNode'
  exact inside.closed cached isSub

end Expr

/-- The expression `empty price || !(price - 'x')`. -/
def remainderExpr : Expr :=
  .logical ⟨1, 13, 2⟩ .or (.empty ⟨1, 1, 5⟩ (.name ⟨1, 7, 5⟩ "price"))
    (.not ⟨1, 16, 1⟩ (.arithmetic ⟨1, 24, 1⟩ .sub (.name ⟨1, 18, 5⟩ "price") (.literal ⟨1, 26, 3⟩ (.string "x"))))

/-- The error is at the difference. What stands left of the disjunction is resolved. -/
theorem remainderExpr_resolve_error_place :
    ∃ err m, remainderExpr.resolve priceContext (remainderExpr.after []) = (.error err, m) ∧ err.span = ⟨1, 24, 1⟩ ∧
      (∃ path node, remainderExpr.follow? path = some node ∧ node.span = ⟨1, 24, 1⟩ ∧
        ∀ above, above <+: path → above ≠ path → (m.follow above).outcome = none) ∧
      (m.follow [0]).outcome.isSome = true ∧ ∃ u, (m.follow [0, 0]).outcome = some u := by
  have place : ((remainderExpr.resolve priceContext (remainderExpr.after [])).1.map fun _ => ()) =
      .error (.mismatch (.binaryOperator "-" .int .string) ⟨1, 24, 1⟩) := by rfl
  have beside : ((remainderExpr.resolve priceContext (remainderExpr.after [])).2.follow [0]).outcome.isSome = true := by
    decide +kernel
  rcases attempted : remainderExpr.resolve priceContext (remainderExpr.after []) with ⟨err | t, m⟩
  · rw [attempted] at place beside
    cases place
    obtain ⟨_, ⟨path, node, isNode, span, onTheWay, _⟩, closed⟩ :=
      Expr.resolve_error_place priceContext remainderExpr [] attempted
    obtain ⟨t, cached⟩ := Option.isSome_iff_exists.mp beside
    exact ⟨_, m, rfl, rfl, ⟨path, node, isNode, span.symm, onTheWay⟩, beside, closed [0] _ t rfl cached [0] _ rfl⟩
  · rw [attempted] at place
    cases place

end TypedExpr
