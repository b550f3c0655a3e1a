import TypedExpr.Proofs.Correctness
import TypedExpr.Proofs.Traversal
/-!
# Expressions on their own

What an expression resolves to when none of its nodes remembers anything: the operands are resolved on their
own from left to right, and the form of the expression decides what becomes of them. Where no two of its methods
can be mistaken for each other, its program computes the value of what it resolves to.
-/

namespace TypedExpr

open Resolution (visitValue settle)

variable {H : Type} {ctx : Context H} {α β : Type}

/-- An operand on its own; it has to yield a value. -/
def Expr.value (ctx : Context H) (e : Expr) : Except CompileError (Typed H) := do
  let t ← (e.resolve ctx .blank).1
  if t.type.isVoid then .error (.mismatch (.noValue e.text) e.span) else return t

theorem Expr.value_ok {e : Expr} {t : Typed H} :
    e.value ctx = .ok t ↔ (e.resolve ctx .blank).1 = .ok t ∧ t.type.isVoid = false := by
  unfold Expr.value
  constructor
  · intro h
    obtain ⟨u, resolved, h⟩ := bind_ok h
    split at h
    · cases h
    next hasValue =>
      cases h
      exact ⟨resolved, by simpa using hasValue⟩
  · rintro ⟨resolved, hasValue⟩
    rw [resolved, ok_bind, if_neg (by simp [hasValue])]
    rfl

/-- Where nothing is remembered, the work has this result. -/
def Visit.Fresh (work : Visit H α) (result : Except CompileError α) : Prop :=
  ∀ done, ∃ done', work ⟨done, []⟩ = (result, ⟨done', []⟩)

namespace Visit.Fresh

theorem pure (a : α) : Fresh (Pure.pure a : Visit H α) (.ok a) := fun done => ⟨done, rfl⟩

theorem lift (x : Except CompileError α) : Fresh (liftExcept x : Visit H α) x := by
  intro done
  cases x <;> exact ⟨done, rfl⟩

theorem bind {x : Visit H α} {f : α → Visit H β} {result : Except CompileError α}
    {g : α → Except CompileError β} (first : Fresh x result) (second : ∀ a, Fresh (f a) (g a)) :
    Fresh (x >>= f) (result >>= g) := by
  intro done
  obtain ⟨done', ran⟩ := first done
  simp only [Bind.bind, ExceptT.bind, ExceptT.mk, StateT.bind, ran]
  cases result with
  | error err => exact ⟨done', rfl⟩
  | ok a => exact second a done'

theorem bind_ok {x : Visit H α} {f : α → Visit H β} {a : α} {result : Except CompileError β} (first : Fresh x (.ok a))
    (second : Fresh (f a) result) : Fresh (x >>= f) result := by
  intro done
  obtain ⟨done', ran⟩ := first done
  simp only [Bind.bind, ExceptT.bind, ExceptT.mk, StateT.bind, ran]
  exact second done'

theorem operand (e : Expr) : Fresh (visitValue e (e.resolve ctx)) (e.value ctx) := by
  intro done
  have ran := Resolution.visitValue_bind_run e (e.resolve ctx) Pure.pure done []
  rw [bind_pure] at ran
  refine ⟨(e.resolve ctx .blank).2 :: done, ran.trans ?_⟩
  unfold Expr.value
  rcases resolved : e.resolve ctx .blank with ⟨err | t, m⟩
  · simp only [List.headD_nil, resolved]
    rfl
  · simp only [List.headD_nil, resolved, ok_bind]
    cases t.type.isVoid <;> rfl

theorem arguments (args : List Expr) : Fresh (Expr.resolveArguments ctx args) (args.mapM (Expr.value ctx)) := by
  induction args with
  | nil => exact pure []
  | cons e args ih =>
    rw [Expr.resolveArguments, List.mapM_cons]
    exact (operand e).bind fun t => ih.bind fun ts => pure (t :: ts)

theorem settle {work : Visit H (Typed H)} {result : Except CompileError (Typed H)} (fresh : Fresh work result) :
    (Resolution.settle work .blank).1 = result := by
  obtain ⟨done, ran⟩ := fresh []
  have started : work.run ⟨[], Memo.blank.children⟩ = (result, ⟨done, []⟩) := ran
  simp only [Resolution.settle, Memo.blank, Memo.outcome] at started ⊢
  rw [started]

end Visit.Fresh

/-- A selection succeeds where exactly one candidate takes the arguments. -/
theorem Catalog.selectMethod_ok {c : Catalog H} {name : String} {candidates : List (Method H)}
    {types : List Ty} {span : Span} {s : Selection H} :
    c.selectMethod name candidates types span = .ok s ↔
      candidates.filterMap (fun m => c.select? m types) = [s] := by
  unfold selectMethod
  split
  next only => simp [only]
  next none => simp [none]
  next several _ _ =>
    refine ⟨nofun, fun one => ?_⟩
    simp_all

namespace Expr

variable {span : Span} {l r e : Expr}

theorem resolve_literal {v : Literal} :
    ((Expr.literal span v).resolve ctx .blank).1 = .ok (.literal span.line v) := by
  exact (Visit.Fresh.pure _).settle

theorem resolve_name {n : String} : ((Expr.name span n).resolve ctx .blank).1 = Resolution.name ctx span n := by
  exact (Visit.Fresh.lift _).settle

theorem resolve_arithmetic {op : ArithmeticOp} :
    ((Expr.arithmetic span op l r).resolve ctx .blank).1 =
      l.value ctx >>= fun a => r.value ctx >>= Resolution.arithmetic span op a := by
  exact ((Visit.Fresh.operand l).bind fun a => (Visit.Fresh.operand r).bind fun b => .lift _).settle

theorem resolve_negate {t : Typed H} {kind : Kind} (operand : e.value ctx = .ok t)
    (number : t.type.numericKind? = some kind) :
    ((Expr.negate span e).resolve ctx .blank).1 = .ok (.negate span.line kind t) := by
  have first : Visit.Fresh (visitValue e (e.resolve ctx)) (.ok t) := operand ▸ .operand e
  refine (first.bind_ok ?_).settle
  rw [number]
  exact .pure _

theorem resolve_relational {op : RelationalOp} :
    ((Expr.relational span op l r).resolve ctx .blank).1 =
      l.value ctx >>= fun a => r.value ctx >>= Resolution.relational ctx.catalog span op a := by
  exact ((Visit.Fresh.operand l).bind fun a => (Visit.Fresh.operand r).bind fun b => .lift _).settle

theorem resolve_elvis :
    ((Expr.elvis span l r).resolve ctx .blank).1 = (do
      let a ← l.value ctx
      if !a.type.isReference then .error (.mismatch (.elvisOperand a.type) span)
      let b ← r.value ctx
      return .elvis span.line (Resolution.commonType ctx.catalog a.type b.type) a b) := by
  refine ((Visit.Fresh.operand l).bind fun a => ?_).settle
  cases a.type.isReference with
  | false => exact .lift (.error _)
  | true => exact (Visit.Fresh.operand r).bind fun b => .pure _

theorem resolve_not :
    ((Expr.not span e).resolve ctx .blank).1 = (do
      let a ← e.value ctx
      Resolution.booleanOperand span "!" a
      return .not span.line a) := by
  exact ((Visit.Fresh.operand e).bind fun a => (Visit.Fresh.lift _).bind fun _ => .pure _).settle

theorem resolve_ternary :
    ((Expr.ternary span e l r).resolve ctx .blank).1 = (do
      let d ← e.value ctx
      if !d.type.isBoolean then .error (.mismatch (.condition d.type) span)
      let a ← l.value ctx
      let b ← r.value ctx
      return .ternary span.line (Resolution.commonType ctx.catalog a.type b.type) d a b) := by
  refine ((Visit.Fresh.operand e).bind fun d => ?_).settle
  cases d.type.isBoolean with
  | false => exact .lift (.error _)
  | true => exact (Visit.Fresh.operand l).bind fun a => (Visit.Fresh.operand r).bind fun b => .pure _

theorem resolve_index :
    ((Expr.index span l r).resolve ctx .blank).1 =
      l.value ctx >>= fun a => r.value ctx >>= Resolution.index ctx.catalog span a := by
  exact ((Visit.Fresh.operand l).bind fun a => (Visit.Fresh.operand r).bind fun b => .lift _).settle

theorem resolve_matches {source : String} :
    ((Expr.matches span e source).resolve ctx .blank).1 =
      e.value ctx >>= fun operand => Resolution.matches ctx span operand source := by
  exact ((Visit.Fresh.operand e).bind fun operand => .lift _).settle

theorem resolve_property {member : String} {nullSafe : Bool} :
    ((Expr.property span e member nullSafe).resolve ctx .blank).1 =
      e.value ctx >>= fun receiver => Resolution.property ctx.catalog span receiver member nullSafe := by
  exact ((Visit.Fresh.operand e).bind fun receiver => .lift _).settle

theorem resolve_call {member : String} {args : List Expr} {nullSafe : Bool} :
    ((Expr.call span e member args nullSafe).resolve ctx .blank).1 = (do
      let receiver ← e.value ctx
      Resolution.argumentLimit ctx span args
      let arguments ← args.mapM (Expr.value ctx)
      let selection ← ctx.catalog.selectMethod member (ctx.catalog.methods receiver.type.box member)
        (arguments.map Typed.type) span
      return .call span.line nullSafe selection receiver arguments) := by
  exact ((Visit.Fresh.operand e).bind fun receiver => (Visit.Fresh.lift _).bind fun _ =>
    (Visit.Fresh.arguments args).bind fun ts => (Visit.Fresh.lift _).bind fun s => .pure _).settle

end Expr

theorem Expr.compile_type {e : Expr} {p : Program H} {t : Typed H} (compiled : e.compile ctx = .ok p)
    (resolved : (e.resolve ctx .blank).1 = .ok t) : p.type = t.type := by
  obtain ⟨u, _, resolved', _, _, _, _, type, _⟩ := Expr.compile_ok compiled
  cases resolved.symm.trans resolved'
  exact type

/-- Where methods under one digest do the same, the run gives the value of the resolved expression. -/
theorem Expr.compile_evaluates [HostObject H] {e : Expr} {p : Program H} {t : Typed H}
    (compiled : e.compile ctx = .ok p) (resolved : (e.resolve ctx .blank).1 = .ok t) (consistent : t.Consistent)
    (env : Environment H) : p.run env = t.eval ctx.catalog env := by
  obtain ⟨u, code, resolved', typed, layout, grows, whole, _, sameCatalog⟩ := Expr.compile_ok compiled
  cases resolved.symm.trans resolved'
  have sized : code.WellSized := layout.wellSized
  rw [← sameCatalog] at typed layout ⊢
  exact (layout.means typed (consistent.serves grows)).run whole sized

theorem Typed.Consistent.mono {t u : Typed H} (consistent : t.Consistent)
    (fewer : ∀ m ∈ u.selected, m ∈ t.selected) : u.Consistent :=
  fun m isSelected n isSelected' => consistent m (fewer m isSelected) n (fewer n isSelected')

/-- The error with which the program of an expression fails, if there is one. -/
def Expr.failure? [HostObject H] (ctx : Context H) (env : Environment H) (e : Expr) : Option RunError :=
  match e.compile ctx with
  | .error _ => none
  | .ok p => match p.run env with
    | .error cause => some cause
    | .ok _ => none

theorem Expr.exists_of_failure? [HostObject H] {env : Environment H} {e : Expr} {cause : RunError}
    (fails : e.failure? ctx env = some cause) : ∃ p, e.compile ctx = .ok p ∧ p.run env = .error cause := by
  unfold Expr.failure? at fails
  split at fails
  · cases fails
  next p compiled =>
    split at fails
    next ran =>
      cases fails
      exact ⟨p, compiled, ran⟩
    · cases fails

end TypedExpr
