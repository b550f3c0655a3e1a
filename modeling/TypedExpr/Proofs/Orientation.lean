import TypedExpr.Proofs.Soundness
import TypedExpr.Proofs.Standalone
/-!
# Relations with exchanged operands

A relation `l < r` and its inverse `r > l` are the same comparison: of numbers of one kind, or by the `compareTo`
of one operand. They give the same result or both fail; only where neither operand is a number of its type may they
fail for different reasons (`Expr.relational_exchanged`).
-/

namespace TypedExpr

open Operation Resolution Evaluation

theorem RelationalOp.invert_invert (op : RelationalOp) : op.invert.invert = op := by cases op <;> rfl

theorem Ty.commonKind?_comm (a b : Ty) : a.commonKind? b = b.commonKind? a := by
  unfold commonKind?
  cases left : a.numericKind? with
  | none => cases b.numericKind? <;> rfl
  | some k =>
    cases right : b.numericKind? with
    | none => rfl
    | some k' =>
      have number := (Option.filter_eq_some_iff.mp left).2
      have number' := (Option.filter_eq_some_iff.mp right).2
      revert number number'
      cases k <;> cases k' <;> decide

variable {H : Type}

/-- The operands are numbers, or just one of them can be compared with the other. -/
def Oriented (c : Catalog H) (a b : Ty) : Prop :=
  (a.commonKind? b).isSome = true ∨ (comparisonTarget? c a b).isSome ≠ (comparisonTarget? c b a).isSome

/-- The same comparison with its operands exchanged: of the same kind, or by the same method of the same
receiver. -/
inductive Typed.Exchanged (a b : Typed H) : Typed H → Typed H → Prop where
  | ordering {line line' : Nat} {op : RelationalOp} {kind : Kind} (meet : a.type.commonKind? b.type = some kind) :
      Exchanged a b (.ordering line op kind a b) (.ordering line' op.invert kind b a)
  | comparison {line line' : Nat} {op : RelationalOp} {s : Selection H} {isLeft : Bool}
      (apart : a.type.commonKind? b.type = none) :
      Exchanged a b (.comparison line op s isLeft a b) (.comparison line' op.invert s (!isLeft) b a)

section Resolution

variable {c : Catalog H} {span : Span} {op : RelationalOp} {a b : Ty}

theorem receiverIsLeft_exchanged (span' : Span) {isLeft : Bool}
    (one : (comparisonTarget? c a b).isSome ≠ (comparisonTarget? c b a).isSome)
    (h : receiverIsLeft c span op a b = .ok isLeft) : receiverIsLeft c span' op.invert b a = .ok (!isLeft) := by
  unfold receiverIsLeft at h ⊢
  cases left : comparisonTarget? c a b with
  | none =>
    cases right : comparisonTarget? c b a with
    | none => simp [left, right] at one
    | some _ =>
      simp only [left, right] at h
      cases h
      rfl
  | some _ =>
    cases right : comparisonTarget? c b a with
    | some _ => simp [left, right] at one
    | none =>
      simp only [left, right] at h
      cases h
      rfl

theorem relational_ok {left right t : Typed H} (span' : Span) (oriented : Oriented c left.type right.type)
    (h : relational c span op left right = .ok t) :
    ∃ t', relational c span' op.invert right left = .ok t' ∧ Typed.Exchanged left right t t' := by
  unfold relational at h ⊢
  rw [Ty.commonKind?_comm right.type]
  cases meet : left.type.commonKind? right.type with
  | some kind =>
    rw [meet] at h
    cases h
    exact ⟨_, rfl, .ordering meet⟩
  | none =>
    have one := oriented.resolve_left (by simp [meet])
    rw [meet] at h
    obtain ⟨isLeft, found, h⟩ := bind_ok h
    -- Exchanging the operands exchanges the sides, so receiver and argument stay what they are.
    obtain ⟨receiver, argument, roles, roles'⟩ : ∃ receiver argument,
        (if isLeft = true then (left.type, right.type) else (right.type, left.type)) = (receiver, argument) ∧
        (if (!isLeft) = true then (right.type, left.type) else (left.type, right.type)) =
          (receiver, argument) := by
      cases isLeft <;> exact ⟨_, _, rfl, rfl⟩
    rw [roles] at h
    obtain ⟨s, selected, h⟩ := bind_ok h
    split at h
    · cases h
    next usable =>
      cases h
      refine ⟨.comparison span'.line op.invert s (!isLeft) right left, ?_, .comparison meet⟩
      have selected' : c.selectMethod "compareTo" (c.methods receiver.box "compareTo") [argument] span' = .ok s :=
        Catalog.selectMethod_ok.mpr (Catalog.selectMethod_ok.mp selected)
      simp only [receiverIsLeft_exchanged span' one found, ok_bind, roles', selected']
      rw [if_neg usable]

end Resolution

theorem Typed.Exchanged.selected {a b t t' : Typed H} (exchanged : Exchanged a b t t') {m : Method H} :
    m ∈ t'.selected ↔ m ∈ t.selected := by
  cases exchanged with
  | ordering | comparison =>
    rw [Typed.selected_eq, Typed.selected_eq]
    simp only [Typed.children, Typed.site?, List.mem_append, List.flatMap_cons, List.flatMap_nil]
    tauto

theorem Typed.Exchanged.consistent {a b t t' : Typed H} (exchanged : Exchanged a b t t')
    (consistent : t.Consistent) : t'.Consistent := consistent.mono fun _ => exchanged.selected.mp

section Values

variable [HostObject H] {op : RelationalOp} {kind source : Kind} {A B : Except RunError (Value H)}

theorem relate_invert {α : Type} (lt le : α → α → Bool) (op : RelationalOp) (x y : α) :
    relate lt le op.invert y x = relate lt le op x y := by
  cases op <;> rfl

/-- A relation reads both operands in one way, the left one first, and then compares what it has read. -/
theorem order_reads (number : kind.isNumeric = true) :
    ∃ (α : Type) (read : Value H → Except RunError α) (lt le : α → α → Bool),
      (∀ v, (∃ x, read v = .ok x) ↔ v.kind? = some kind) ∧ ∀ op a b, order op kind a b =
        read a >>= fun x => read b >>= fun y => .ok (.bool (relate lt le op x y)) := by
  cases kind with
  | bool => cases number
  | int => exact ⟨_, asInt, _, _, fun v => by cases v <;> simp [asInt, Value.asInt?, Value.kind?], fun _ _ _ => rfl⟩
  | long =>
    exact ⟨_, asLong, _, _, fun v => by cases v <;> simp [asLong, Value.asLong?, Value.kind?], fun _ _ _ => rfl⟩
  | float =>
    exact ⟨_, asFloat, _, _, fun v => by cases v <;> simp [asFloat, Value.asFloat?, Value.kind?], fun _ _ _ => rfl⟩
  | double =>
    exact ⟨_, asDouble, _, _, fun v => by cases v <;> simp [asDouble, Value.asDouble?, Value.kind?],
      fun _ _ _ => rfl⟩

theorem order_ok {v : Value H} (number : kind.isNumeric = true)
    (h : (A >>= fun x => B >>= fun y => order op kind x y) = .ok v) :
    (∃ x, A = .ok x ∧ x.kind? = some kind) ∧ ∃ y, B = .ok y ∧ y.kind? = some kind := by
  obtain ⟨α, read, lt, le, reads, same⟩ := order_reads (H := H) number
  obtain ⟨x, isLeft, h⟩ := bind_ok h
  obtain ⟨y, isRight, h⟩ := bind_ok h
  rw [same] at h
  obtain ⟨m, readLeft, h⟩ := bind_ok h
  obtain ⟨n, readRight, _⟩ := bind_ok h
  exact ⟨⟨x, isLeft, (reads x).mp ⟨m, readLeft⟩⟩, y, isRight, (reads y).mp ⟨n, readRight⟩⟩

/-- Where one operand is a number of the kind, only the other one can fail. -/
theorem order_exchanged (number : kind.isNumeric = true)
    (fit : (∃ x, A = .ok x ∧ x.kind? = some kind) ∨ ∃ y, B = .ok y ∧ y.kind? = some kind) :
    (A >>= fun x => B >>= fun y => order op kind x y) =
      B >>= fun y => A >>= fun x => order op.invert kind y x := by
  obtain ⟨α, read, lt, le, reads, same⟩ := order_reads (H := H) number
  simp only [same, relate_invert]
  rcases fit with ⟨x, rfl, isKind⟩ | ⟨y, rfl, isKind⟩
  · obtain ⟨m, isRead⟩ := (reads x).mpr isKind
    simp only [ok_bind, isRead]
  · obtain ⟨n, isRead⟩ := (reads y).mpr isKind
    simp only [ok_bind, isRead]

theorem widen_fits (number : source.isNumeric = true) (widens : source.widensTo kind = true) (v : Value H) :
    (∃ x, widen source kind v = .ok x ∧ x.kind? = some kind) ↔ v.kind? = some source := by
  revert number widens
  cases source <;> cases kind <;> intro number widens <;> first
    | contradiction
    | cases v <;> simp [widen, asInt, asLong, asFloat, Value.asInt?, Value.asLong?, Value.asFloat?, Value.kind?,
        Except.map]

theorem coerce_fits {t : Ty} (number : t.numericKind? = some source) (widens : source.widensTo kind = true)
    (v : Value H) : (∃ x, coerce t kind v = .ok x ∧ x.kind? = some kind) ↔ v.kind? = t.numericKind? := by
  have widened := widen_fits (Option.filter_eq_some_iff.mp number).2 widens v
  simp only [coerce, number]
  cases t.isBoxed with
  | false => exact widened
  | true =>
    cases v with
    | null => simp [unboxed, Bind.bind, Except.bind, Value.kind?]
    | _ => exact widened

end Values

variable [HostObject H] {c : Catalog H} {env : Environment H} {a b t t' : Typed H} {v w : Value H}

theorem Typed.Exchanged.eval (exchanged : Exchanged a b t t') (left : a.eval c env = .ok v)
    (right : b.eval c env = .ok w) :
    ((a.type.commonKind? b.type = none ∨ v.kind? = a.type.numericKind? ∨ w.kind? = b.type.numericKind?) →
      t.eval c env = t'.eval c env) ∧
    ∀ result, t.eval c env = .ok result ↔ t'.eval c env = .ok result := by
  cases exchanged with
  | @ordering _ _ op kind meet =>
    obtain ⟨k, k', number, number', widens, widens'⟩ := commonKind?_widens meet
    have isNumeric : kind.isNumeric = true := by
      have numeric := (Option.filter_eq_some_iff.mp number).2
      revert numeric widens
      cases k <;> cases kind <;> decide
    have fits := coerce_fits number widens v
    have fits' := coerce_fits number' widens' w
    simp only [Typed.eval, left, right, ok_bind]
    have same : ((∃ x, coerce a.type kind v = .ok x ∧ x.kind? = some kind) ∨
        ∃ y, coerce b.type kind w = .ok y ∧ y.kind? = some kind) →
        (coerce a.type kind v >>= fun x => coerce b.type kind w >>= fun y => order op kind x y) =
          coerce b.type kind w >>= fun y => coerce a.type kind v >>= fun x => order op.invert kind y x :=
      order_exchanged isNumeric
    refine ⟨?_, fun result => ⟨fun h => ?_, fun h => ?_⟩⟩
    · rintro (apart | fit)
      · rw [meet] at apart
        cases apart
      · exact same (fit.imp fits.mpr fits'.mpr)
    · exact (same (.inl (order_ok isNumeric h).1)).symm.trans h
    · exact (same (.inl (order_ok isNumeric h).2)).trans h
  | @comparison line line' op s isLeft apart =>
    have same : Typed.eval c env (.comparison line op s isLeft a b) =
        Typed.eval c env (.comparison line' op.invert s (!isLeft) b a) := by
      simp only [Typed.eval, left, right, ok_bind]
      cases isLeft <;> simp [RelationalOp.invert_invert]
    exact ⟨fun _ => same, fun result => by rw [same]⟩

/-- A relation and its inverse resolve to the same comparison and give the same result or both fail, with the same
error unless they compare numbers and neither operand is a number of its type. -/
theorem Expr.relational_exchanged {ctx : Context H} {span : Span} {op : RelationalOp} {l r : Expr}
    (left : (l.resolve ctx .blank).1 = .ok a) (right : (r.resolve ctx .blank).1 = .ok b)
    (resolved : ((Expr.relational span op l r).resolve ctx .blank).1 = .ok t)
    (oriented : Oriented ctx.catalog a.type b.type) (span' : Span) :
    ∃ t', ((Expr.relational span' op.invert r l).resolve ctx .blank).1 = .ok t' ∧ Typed.Exchanged a b t t' ∧
      (∀ env v w, a.eval ctx.catalog env = .ok v → b.eval ctx.catalog env = .ok w →
        ((a.type.commonKind? b.type = none ∨ v.kind? = a.type.numericKind? ∨ w.kind? = b.type.numericKind?) →
          t.eval ctx.catalog env = t'.eval ctx.catalog env) ∧
        ∀ result, t.eval ctx.catalog env = .ok result ↔ t'.eval ctx.catalog env = .ok result) ∧
      ∀ p q, (Expr.relational span op l r).compile ctx = .ok p →
        (Expr.relational span' op.invert r l).compile ctx = .ok q → t.Consistent →
        ∀ env, p.run env = t.eval ctx.catalog env ∧ q.run env = t'.eval ctx.catalog env := by
  have related := resolved
  rw [Expr.resolve_relational] at related
  obtain ⟨a', leftValue, related⟩ := bind_ok related
  obtain ⟨b', rightValue, related⟩ := bind_ok related
  cases left.symm.trans (Expr.value_ok.mp leftValue).1
  cases right.symm.trans (Expr.value_ok.mp rightValue).1
  obtain ⟨t', inverse, exchanged⟩ := relational_ok span' oriented related
  have resolved' : ((Expr.relational span' op.invert r l).resolve ctx .blank).1 = .ok t' := by
    rw [Expr.resolve_relational, rightValue, ok_bind, leftValue, ok_bind, inverse]
  refine ⟨t', resolved', exchanged, fun env v w => exchanged.eval, fun p q compiled compiled' consistent env => ?_⟩
  exact ⟨Expr.compile_evaluates compiled resolved consistent env,
    Expr.compile_evaluates compiled' resolved' (exchanged.consistent consistent) env⟩

/-- Amounts are compared with numbers. -/
def amountType : TypeDef Record where
  name := "Amount"
  supertypes := [.comparableTo (.boxed .int)]
  methods := [.declare (.ofName "Amount") "compareTo" [.boxed .int] .int fun _ _ => .ok (.int 1)]

def amountContext : Context Record where
  catalog := ⟨[{ name := "Comparable", parameters := ["T"] }, amountType]⟩
  scope := (({} : Declarations Record).parameter "amount" (.ofName "Amount")).scope

/-- The relations `3 <= amount` and `amount >= 3` both call `amount.compareTo(3)`. -/
theorem amount_exchanged : ∃ a b t t', ((Expr.literal default (.int 3)).resolve amountContext .blank).1 = .ok a ∧
    ((Expr.name default "amount").resolve amountContext .blank).1 = .ok b ∧
    Oriented amountContext.catalog a.type b.type ∧
    ((Expr.relational default .le (.literal default (.int 3)) (.name default "amount")).resolve
      amountContext .blank).1 = .ok t ∧
    ((Expr.relational default .ge (.name default "amount") (.literal default (.int 3))).resolve
      amountContext .blank).1 = .ok t' ∧ Typed.Exchanged a b t t' ∧
    ∀ env v w, a.eval amountContext.catalog env = .ok v → b.eval amountContext.catalog env = .ok w →
      t.eval amountContext.catalog env = t'.eval amountContext.catalog env := by
  have left : ((Expr.literal default (.int 3)).resolve amountContext .blank).1.toOption.map Typed.type =
      some .int := by decide +kernel
  have right : ((Expr.name default "amount").resolve amountContext .blank).1.toOption.map Typed.type =
      some (.ofName "Amount") := by decide +kernel
  have related : ((Expr.relational default .le (.literal default (.int 3)) (.name default "amount")).resolve
      amountContext .blank).1.toOption.isSome = true := by decide +kernel
  have one : (comparisonTarget? amountContext.catalog .int (.ofName "Amount")).isSome ≠
      (comparisonTarget? amountContext.catalog (.ofName "Amount") .int).isSome := by decide +kernel
  obtain ⟨a, isLeft, leftType⟩ := Option.map_eq_some_iff.mp left
  obtain ⟨b, isRight, rightType⟩ := Option.map_eq_some_iff.mp right
  obtain ⟨t, isRelation⟩ := Option.isSome_iff_exists.mp related
  have oriented : Oriented amountContext.catalog a.type b.type := by
    rw [leftType, rightType]
    exact .inr one
  obtain ⟨t', inverse, exchanged, same, _⟩ := Expr.relational_exchanged (toOption_some isLeft)
    (toOption_some isRight) (toOption_some isRelation) oriented default
  refine ⟨a, b, t, t', toOption_some isLeft, toOption_some isRight, oriented, toOption_some isRelation, inverse,
    exchanged, fun env v w leftValue rightValue => (same env v w leftValue rightValue).1 (.inl ?_)⟩
  rw [leftType, rightType]
  rfl

/-- A generic type whose values are compared with those of its argument. -/
def rankedType : TypeDef Record where
  name := "Ranked"
  parameters := ["T"]
  supertypes := [.comparableTo (.var 0)]
  methods := [.declare (.declared "Ranked" [.var 0]) "compareTo" [.var 0] .int fun _ _ => .ok (.int 1)]

def rankedContext : Context Record where
  catalog := ⟨[{ name := "Comparable", parameters := ["T"] }, rankedType]⟩
  scope := (((((({} : Declarations Record).parameter "texts" (.declared "Ranked" [.string])).parameter "numbers"
    (.declared "Ranked" [.boxed .int])).parameter "truths" (.declared "Ranked" [.boxed .bool])).parameter "grades"
    (.array .int)).parameter "limit" (.boxed .long)).scope

/-- The values for texts and numbers are there, the others are missing. -/
def rankedEnvironment : Environment Record where
  argument index := ([.object (.mk (.ofName "Ranked") 0 [] none), .object (.mk (.ofName "Ranked") 1 [] none),
    .null, .array [.null], .null] : List (Value Record))[index]?

/-- The expression `texts.compareTo('x') == 0 ? truths : truths`. -/
def truthsExpr : Expr :=
  .ternary default (.equality default false
    (.call default (.name default "texts") "compareTo" [.literal default (.string "x")] false)
    (.literal default (.int 0))) (.name default "truths") (.name default "truths")

/-- The expression `numbers.compareTo(3) == 0`. -/
def numbersExpr : Expr :=
  .equality default false
    (.call default (.name default "numbers") "compareTo" [.literal default (.int 3)] false)
    (.literal default (.int 0))

/-- The expression `grades[0]`. -/
def firstGrade : Expr := .index default (.name default "grades") (.literal default (.int 0))

/-- The relations `grades[0] < limit` and `truths < numbers`, with the operands above, fail for another reason
than their inverses. In the first one neither operand is a number; in the second one the error names the method
that comes first in the table. -/
theorem rankedExpr_errors_differ : ∃ p q p' q',
    (Expr.relational default .lt firstGrade (.name default "limit")).compile rankedContext = .ok p ∧
    (Expr.relational default .gt (.name default "limit") firstGrade).compile rankedContext = .ok q ∧
    (Expr.relational default .lt truthsExpr numbersExpr).compile rankedContext = .ok p' ∧
    (Expr.relational default .gt numbersExpr truthsExpr).compile rankedContext = .ok q' ∧
    p.run rankedEnvironment = .error (.nullValue "int") ∧
    q.run rankedEnvironment = .error (.nullValue "primitive value") ∧
    p'.run rankedEnvironment = .error (.nullValue "receiver of compareTo(String)") ∧
    q'.run rankedEnvironment = .error (.nullValue "receiver of compareTo(Integer)") ∧
    ∀ e ∈ [firstGrade, .name default "limit", truthsExpr, numbersExpr],
      ∃ u v, e.compile rankedContext = .ok u ∧ u.run rankedEnvironment = .ok v := by
  have fail : (Expr.relational default .lt firstGrade (.name default "limit")).failure? rankedContext
        rankedEnvironment = some (.nullValue "int") ∧
      (Expr.relational default .gt (.name default "limit") firstGrade).failure? rankedContext
        rankedEnvironment = some (.nullValue "primitive value") ∧
      (Expr.relational default .lt truthsExpr numbersExpr).failure? rankedContext
        rankedEnvironment = some (.nullValue "receiver of compareTo(String)") ∧
      (Expr.relational default .gt numbersExpr truthsExpr).failure? rankedContext
        rankedEnvironment = some (.nullValue "receiver of compareTo(Integer)") := by decide +kernel
  obtain ⟨p, compiled, failed⟩ := Expr.exists_of_failure? fail.1
  obtain ⟨q, inverse, failed'⟩ := Expr.exists_of_failure? fail.2.1
  obtain ⟨p', compared, lacking⟩ := Expr.exists_of_failure? fail.2.2.1
  obtain ⟨q', exchanged, lacking'⟩ := Expr.exists_of_failure? fail.2.2.2
  refine ⟨p, q, p', q', compiled, inverse, compared, exchanged, failed, failed', lacking, lacking', ?_⟩
  intro e operand
  have valued : ∀ e ∈ [firstGrade, .name default "limit", truthsExpr, numbersExpr],
      ((e.compile rankedContext).toOption.bind fun u => (u.run rankedEnvironment).toOption).isSome = true := by
    decide +kernel
  obtain ⟨v, found⟩ := Option.isSome_iff_exists.mp (valued e operand)
  obtain ⟨u, isProgram, ran⟩ := Option.bind_eq_some_iff.mp found
  exact ⟨u, v, toOption_some isProgram, toOption_some ran⟩

end TypedExpr
