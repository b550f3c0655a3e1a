import TypedExpr.Proofs.ArrayItems
import TypedExpr.Proofs.Orientation
import TypedExpr.Proofs.Totality
/-!
# Conditionals with exchanged branches

The branches of a conditional meet in the same type in either order, unless each of the two types may stand for the
other; then the first branch decides (`commonType_comm_iff`). A conditional and the one with its condition negated
and its branches exchanged have the same outcome, except that a null `Boolean` is refused where the first branch is
a primitive (`Expr.ternary_exchanged`).
-/

namespace TypedExpr

open Resolution (commonType)
open Operation Evaluation

variable {H : Type} {c : Catalog H} {a b : Ty}

theorem Ty.eq_of_isBoolean (truth : a.isBoolean = true) : a = .boolean ∨ a = .boxed .bool := by
  have isKind := isKind_of_isBoolean truth
  cases a with
  | primitive k =>
    cases isKind
    exact .inl rfl
  | boxed k =>
    cases isKind
    exact .inr rfl
  | _ => cases isKind

theorem Ty.isPrimitive_of_isReference (reference : a.isReference = true) : a.isPrimitive = false := by
  cases a <;> first | rfl | cases reference

namespace Catalog

/-- Two types each of which may stand for the other, though they are no numbers that are widened: `boolean` and its
box, or types below each other, as with and without arguments. -/
def Interchangeable (c : Catalog H) (a b : Ty) : Prop :=
  a ≠ b ∧ (a.isBoolean = true ∧ b.isBoolean = true ∨ c.isSubtype a b = true ∧ c.isSubtype b a = true)

theorem Interchangeable.symm (h : c.Interchangeable a b) : c.Interchangeable b a :=
  ⟨h.1.symm, h.2.imp And.symm And.symm⟩

theorem isReference_of_distinct (different : a ≠ b) (sub : c.isSubtype a b = true) :
    a.isReference = true ∧ b.isReference = true := by
  cases arrays : a.isArray && b.isArray with
  | true =>
    obtain ⟨isArray, isArray'⟩ := Bool.and_eq_true_iff.mp arrays
    constructor
    · cases a <;> first | rfl | cases isArray
    · cases b <;> first | rfl | cases isArray'
  | false =>
    rw [isSubtype_of_not_array arrays, if_neg different] at sub
    split at sub
    · cases sub
    next references => simpa using references

theorem isAssignable_converts (assignable : c.isAssignable a b = true) : ∃ conversion, c.Converts a b conversion := by
  obtain ⟨conversion, found⟩ := Option.isSome_iff_exists.mp assignable
  exact ⟨conversion, conversion?_converts found⟩

theorem isAssignable_of_isSubtype (sub : c.isSubtype a b = true) : c.isAssignable a b = true := by
  unfold isAssignable conversion?
  split
  · rfl
  next different =>
    obtain ⟨reference, reference'⟩ := isReference_of_distinct different sub
    cases a <;> cases b <;> simp_all [conversionOfDistinct?, Ty.isReference]

/-- A kind becomes itself or a wider one; either both are numbers, or neither is. -/
theorem kinds_meet {k l : Kind} (isKind : a.kind? = some k) (isKind' : b.kind? = some l)
    (related : k = l ∨ ∃ op, k.wideningOp? l = some op) :
    a.isBoolean = true ∧ b.isBoolean = true ∨ (a.commonKind? b).isSome = true := by
  have numbers (number : k.isNumeric = true) (number' : l.isNumeric = true) : (a.commonKind? b).isSome = true := by
    simp [Ty.commonKind?, Ty.numericKind?, isKind, isKind', Option.filter, number, number']
  cases number : k.isNumeric with
  | true =>
    refine .inr (numbers number ?_)
    rcases related with rfl | ⟨op, widens⟩
    · exact number
    · cases k <;> cases l <;> first | rfl | cases widens
  | false =>
    obtain rfl : k = .bool := by simpa [Kind.isNumeric] using number
    rcases related with rfl | ⟨op, widens⟩
    · exact .inl ⟨by simp [Ty.isBoolean, isKind], by simp [Ty.isBoolean, isKind']⟩
    · cases widens

/-- Only primitives and boxes become primitives. -/
theorem kind?_of_isAssignable {k : Kind} (assignable : c.isAssignable a (.primitive k) = true) :
    ∃ l, a.kind? = some l ∧ (l = k ∨ ∃ op, l.wideningOp? k = some op) := by
  obtain ⟨conversion, converts⟩ := isAssignable_converts assignable
  cases converts with
  | identity | unboxing => exact ⟨k, rfl, .inl rfl⟩
  | widening found | unboxAndWiden found => exact ⟨_, rfl, .inr ⟨_, found⟩⟩
  | nullToReference reference => cases reference
  | upcast reference sub =>
    have different : a ≠ .primitive k := by
      rintro rfl
      cases reference
    cases (isReference_of_distinct different sub).2
  | boxing sub => cases (isReference_of_distinct (by simp) sub).2

theorem isSubtype_of_isAssignable (notPrimitive : a.isPrimitive = false) (notPrimitive' : b.isPrimitive = false)
    (assignable : c.isAssignable a b = true) : c.isSubtype a b = true := by
  obtain ⟨conversion, converts⟩ := isAssignable_converts assignable
  cases converts with
  | identity => exact c.isSubtype_self a
  | nullToReference reference => exact isSubtype_null reference
  | upcast _ sub => exact sub
  | boxing | widening => cases notPrimitive
  | unboxing | unboxAndWiden => cases notPrimitive'

/-- Where conversions lead both ways between different types, these are interchangeable or numbers. -/
theorem interchangeable_of_isAssignable (different : a ≠ b)
    (apart : (a.isPrimitive || b.isPrimitive) = true → a.commonKind? b = none)
    (there : c.isAssignable a b = true) (back : c.isAssignable b a = true) : c.Interchangeable a b := by
  refine ⟨different, ?_⟩
  cases isPrimitive : a.isPrimitive with
  | true =>
    cases a with
    | primitive k =>
      obtain ⟨l, isKind, related⟩ := kind?_of_isAssignable back
      refine (kinds_meet isKind rfl related).elim (fun both => .inl both.symm) fun meet => ?_
      rw [Ty.commonKind?_comm, apart rfl] at meet
      cases meet
    | _ => cases isPrimitive
  | false =>
    cases isPrimitive' : b.isPrimitive with
    | true =>
      cases b with
      | primitive k =>
        obtain ⟨l, isKind, related⟩ := kind?_of_isAssignable there
        refine (kinds_meet isKind rfl related).elim .inl fun meet => ?_
        rw [apart (by simp [isPrimitive'])] at meet
        cases meet
      | _ => cases isPrimitive'
    | false =>
      exact .inr ⟨isSubtype_of_isAssignable isPrimitive isPrimitive' there,
        isSubtype_of_isAssignable isPrimitive' isPrimitive back⟩

/-- Interchangeable types are assignable to each other, and they are neither null nor numbers to be widened. -/
theorem Interchangeable.spec (h : c.Interchangeable a b) : c.isAssignable b a = true ∧ a.isNull = false ∧
    b.isNull = false ∧ ((a.isPrimitive || b.isPrimitive) = true → a.commonKind? b = none) := by
  obtain ⟨different, ⟨isBoolean, isBoolean'⟩ | ⟨sub, sub'⟩⟩ := h
  · rcases Ty.eq_of_isBoolean isBoolean with rfl | rfl <;> rcases Ty.eq_of_isBoolean isBoolean' with rfl | rfl
    · exact absurd rfl different
    · exact ⟨by simp [isAssignable, conversion?, conversionOfDistinct?], rfl, rfl, fun _ => rfl⟩
    · exact ⟨c.isAssignable_box, rfl, rfl, fun _ => rfl⟩
    · exact absurd rfl different
  · obtain ⟨reference, reference'⟩ := isReference_of_distinct different sub
    refine ⟨isAssignable_of_isSubtype sub', ?_, ?_, ?_⟩
    · cases a with
      | null => exact absurd (isSubtype_nullType sub').symm different
      | _ => rfl
    · cases b with
      | null => exact absurd (isSubtype_nullType sub) different
      | _ => rfl
    · simp [Ty.isPrimitive_of_isReference reference, Ty.isPrimitive_of_isReference reference']

end Catalog

section CommonType

/-- In which type other branches than numbers meet. -/
theorem commonType_of_apart (different : a ≠ b)
    (apart : (a.isPrimitive || b.isPrimitive) = true → a.commonKind? b = none) :
    commonType c a b = if a.isNull then b.box else if b.isNull then a.box else if c.isAssignable b a then a
      else if c.isAssignable a b then b else .object := by
  unfold commonType
  rw [if_neg different]
  split
  next kind meet isPrimitive =>
    rw [apart isPrimitive] at meet
    cases meet
  · rfl

/-- The first of two interchangeable types is the one in which they meet. -/
theorem commonType_of_interchangeable (h : c.Interchangeable a b) : commonType c a b = a := by
  obtain ⟨assignable, notNull, notNull', apart⟩ := h.spec
  simp [commonType_of_apart h.1 apart, assignable, notNull, notNull']

theorem commonType_comm (separate : ¬ c.Interchangeable a b) : commonType c a b = commonType c b a := by
  by_cases same : a = b
  · rw [same]
  by_cases apart : (a.isPrimitive || b.isPrimitive) = true → a.commonKind? b = none
  · have apart' : (b.isPrimitive || a.isPrimitive) = true → b.commonKind? a = none := by
      rwa [Bool.or_comm, Ty.commonKind?_comm]
    rw [commonType_of_apart same apart, commonType_of_apart (Ne.symm same) apart']
    cases isNull : a.isNull with
    | true =>
      have notNull' : b.isNull = false := by
        cases a <;> cases b <;> first | rfl | exact absurd rfl same | cases isNull
      simp [notNull']
    | false =>
      cases isNull' : b.isNull with
      | true => simp
      | false =>
        cases there : c.isAssignable a b <;> cases back : c.isAssignable b a <;> simp only [Bool.false_eq_true, if_true,
          if_false]
        exact absurd (Catalog.interchangeable_of_isAssignable same apart there back) separate
  · obtain ⟨isPrimitive, meet⟩ := Classical.not_imp.mp apart
    obtain ⟨kind, meet⟩ := Option.ne_none_iff_exists'.mp meet
    have isPrimitive' : (b.isPrimitive || a.isPrimitive) = true := by rwa [Bool.or_comm]
    have meet' : b.commonKind? a = some kind := (Ty.commonKind?_comm b a).trans meet
    simp only [commonType, meet, meet', isPrimitive, isPrimitive', if_neg same, if_neg (Ne.symm same)]

theorem commonType_comm_iff : commonType c a b = commonType c b a ↔ ¬ c.Interchangeable a b := by
  refine ⟨fun same h => h.1 ?_, commonType_comm⟩
  rwa [commonType_of_interchangeable h, commonType_of_interchangeable h.symm] at same

end CommonType

section Resolution

variable {ctx : Context H} {span : Span} {e x y : Expr} {t : Typed H}

theorem Expr.value_not : (Expr.not span e).value ctx = .ok t ↔
    ∃ d, e.value ctx = .ok d ∧ d.type.isBoolean = true ∧ t = .not span.line d := by
  rw [Expr.value_ok, Expr.resolve_not]
  constructor
  · rintro ⟨resolved, -⟩
    obtain ⟨d, isValue, resolved⟩ := bind_ok resolved
    obtain ⟨_, truth, resolved⟩ := bind_ok resolved
    cases resolved
    refine ⟨d, isValue, ?_, rfl⟩
    unfold Resolution.booleanOperand at truth
    split at truth
    next isBoolean => exact isBoolean
    · cases truth
  · rintro ⟨d, isValue, truth, rfl⟩
    simp only [isValue, ok_bind, Resolution.booleanOperand, truth, if_true]
    exact ⟨rfl, rfl⟩

theorem Expr.resolve_ternary_ok : ((Expr.ternary span e x y).resolve ctx .blank).1 = .ok t ↔
    ∃ d a b, e.value ctx = .ok d ∧ d.type.isBoolean = true ∧ x.value ctx = .ok a ∧ y.value ctx = .ok b ∧
      t = .ternary span.line (commonType ctx.catalog a.type b.type) d a b := by
  rw [Expr.resolve_ternary]
  constructor
  · intro resolved
    obtain ⟨d, isValue, resolved⟩ := bind_ok resolved
    cases truth : d.type.isBoolean with
    | false =>
      rw [truth] at resolved
      cases resolved
    | true =>
      rw [truth] at resolved
      obtain ⟨a, first, resolved⟩ := bind_ok resolved
      obtain ⟨b, second, resolved⟩ := bind_ok resolved
      cases resolved
      exact ⟨d, a, b, isValue, truth, first, second, rfl⟩
  · rintro ⟨d, a, b, isValue, truth, first, second, rfl⟩
    simp only [isValue, ok_bind, truth, first, second]
    rfl

end Resolution

section Values

/-- The same outcome, unless the first one fails at a null that the second one gives. -/
def Evaluation.AgreeUnlessNull (strict plain : Except RunError (Value H)) : Prop :=
  strict = plain ∨ strict = .error (.nullValue "primitive value") ∧ plain = .ok .null

/-- How the outcomes of a conditional and of the one with its branches exchanged are related, if the branches have
these types: a null from the box of a boolean is refused if the primitive one comes first. -/
def Evaluation.AgreeFor (a b : Ty) (first second : Except RunError (Value H)) : Prop :=
  if a = .boolean ∧ b = .boxed .bool then AgreeUnlessNull first second
  else if a = .boxed .bool ∧ b = .boolean then AgreeUnlessNull second first
  else first = second

theorem Evaluation.AgreeFor.refl (a b : Ty) (outcome : Except RunError (Value H)) : AgreeFor a b outcome outcome := by
  unfold AgreeFor AgreeUnlessNull
  split
  · exact .inl rfl
  · split
    · exact .inl rfl
    · rfl

theorem Evaluation.AgreeFor.bind {α : Type} (test : Except RunError α) {f g : α → Except RunError (Value H)}
    (agree : ∀ x, AgreeFor a b (f x) (g x)) : AgreeFor a b (test >>= f) (test >>= g) := by
  cases test with
  | error cause => exact AgreeFor.refl a b (.error cause)
  | ok x => exact agree x

theorem unboxed_agrees (v : Value H) : AgreeUnlessNull (unboxed v) (.ok v) := by
  cases v with
  | null => exact .inr ⟨rfl, rfl⟩
  | _ => exact .inl rfl

variable [HostObject H]

theorem branch_self (v : Value H) : branch c a a v = .ok v := by simp [branch, Catalog.conversion?, convert]

/-- Only a conversion to a primitive does anything. -/
theorem branch_of_not_primitive (notPrimitive : b.isPrimitive = false) (v : Value H) : branch c a b v = .ok v := by
  unfold branch
  split
  next conversion found =>
    cases Catalog.conversion?_converts found with
    | identity | nullToReference | upcast | boxing => rfl
    | unboxing | widening | unboxAndWiden => cases notPrimitive
  · rfl

theorem branch_unboxing (v : Value H) : branch c (.boxed .bool) .boolean v = unboxed v := by
  simp [branch, Catalog.conversion?, Catalog.conversionOfDistinct?, convert]

/-- Each branch gives the same in both orders, unless it is the box of a boolean beside a primitive one. -/
theorem branch_agrees {source : Ty} (isBranch : source = a ∨ source = b) (v : Value H) :
    AgreeFor a b (branch c source (commonType c a b) v) (branch c source (commonType c b a) v) := by
  by_cases h : c.Interchangeable a b
  · rw [commonType_of_interchangeable h, commonType_of_interchangeable h.symm]
    obtain ⟨different, ⟨isBoolean, isBoolean'⟩ | ⟨sub, -⟩⟩ := h
    · rcases Ty.eq_of_isBoolean isBoolean with rfl | rfl <;> rcases Ty.eq_of_isBoolean isBoolean' with rfl | rfl
      · exact absurd rfl different
      · rcases isBranch with rfl | rfl
        · rw [branch_self, branch_of_not_primitive rfl]
          exact AgreeFor.refl _ _ _
        · rw [branch_self, branch_unboxing]
          exact unboxed_agrees v
      · rcases isBranch with rfl | rfl
        · rw [branch_self, branch_unboxing]
          exact unboxed_agrees v
        · rw [branch_self, branch_of_not_primitive rfl]
          exact AgreeFor.refl _ _ _
      · exact absurd rfl different
    · obtain ⟨reference, reference'⟩ := Catalog.isReference_of_distinct different sub
      rw [branch_of_not_primitive (Ty.isPrimitive_of_isReference reference),
        branch_of_not_primitive (Ty.isPrimitive_of_isReference reference')]
      exact AgreeFor.refl _ _ _
  · rw [commonType_comm h]
    exact AgreeFor.refl _ _ _

variable {env : Environment H} {d s r : Typed H}

/-- Whether a condition holds. -/
def Typed.holds (c : Catalog H) (env : Environment H) (d : Typed H) : Except RunError Bool := do
  let v ← Evaluation.condition d.type (← d.eval c env)
  asBool v

theorem Typed.eval_ternary (line : Nat) (t : Ty) : (Typed.ternary line t d s r).eval c env =
    d.holds c env >>= fun holds =>
      if holds then s.eval c env >>= branch c s.type t else r.eval c env >>= branch c r.type t := by
  simp only [Typed.eval, Typed.holds, bind_assoc]

theorem Typed.holds_not (line : Nat) :
    (Typed.not line d).holds c env = d.holds c env >>= fun holds => .ok (!holds) := by
  simp only [Typed.eval, Typed.holds, bind_assoc]
  rfl

omit [HostObject H] in
theorem Typed.Consistent.exchanged {line line' line'' : Nat} {t t' : Ty}
    (consistent : (Typed.ternary line t d s r).Consistent) :
    (Typed.ternary line' t' (.not line'' d) r s).Consistent := by
  refine consistent.mono fun m isSelected => ?_
  simp only [Typed.selected_eq (.ternary ..), Typed.selected_eq (.not ..), Typed.children, Typed.site?,
    List.mem_append, List.flatMap_cons, List.flatMap_nil] at isSelected ⊢
  tauto

/-- The negated condition chooses the same branch. -/
theorem Typed.ternary_agrees (line line' line'' : Nat) :
    AgreeFor s.type r.type ((Typed.ternary line (commonType c s.type r.type) d s r).eval c env)
      ((Typed.ternary line' (commonType c r.type s.type) (.not line'' d) r s).eval c env) := by
  rw [Typed.eval_ternary, Typed.eval_ternary, Typed.holds_not, bind_assoc]
  refine AgreeFor.bind _ fun holds => ?_
  cases holds with
  | true => exact AgreeFor.bind _ fun v => branch_agrees (.inl rfl) v
  | false => exact AgreeFor.bind _ fun v => branch_agrees (.inr rfl) v

end Values

/-- A conditional and the one with its condition negated and its branches exchanged resolve together, and their
outcomes agree. Their types are the same unless those of the branches are interchangeable; then each has the type of
its first branch. -/
theorem Expr.ternary_exchanged [HostObject H] (ctx : Context H) (span span' inner : Span) (e x y : Expr) :
    (∀ a b, (commonType ctx.catalog a b = commonType ctx.catalog b a ↔ ¬ ctx.catalog.Interchangeable a b) ∧
      (ctx.catalog.Interchangeable a b → commonType ctx.catalog a b = a)) ∧
    ((∃ t, ((Expr.ternary span e x y).resolve ctx .blank).1 = .ok t) ↔
      ∃ t', ((Expr.ternary span' (.not inner e) y x).resolve ctx .blank).1 = .ok t') ∧
    ∀ t t', ((Expr.ternary span e x y).resolve ctx .blank).1 = .ok t →
      ((Expr.ternary span' (.not inner e) y x).resolve ctx .blank).1 = .ok t' →
      ∃ a b, (x.resolve ctx .blank).1 = .ok a ∧ (y.resolve ctx .blank).1 = .ok b ∧
        t.type = commonType ctx.catalog a.type b.type ∧ t'.type = commonType ctx.catalog b.type a.type ∧
        (∀ env, AgreeFor a.type b.type (t.eval ctx.catalog env) (t'.eval ctx.catalog env)) ∧
        ∀ p q, (Expr.ternary span e x y).compile ctx = .ok p →
          (Expr.ternary span' (.not inner e) y x).compile ctx = .ok q →
          p.type = t.type ∧ q.type = t'.type ∧
            (t.Consistent → ∀ env, AgreeFor a.type b.type (p.run env) (q.run env)) := by
  refine ⟨fun a b => ⟨commonType_comm_iff, commonType_of_interchangeable⟩, ?_, ?_⟩
  · simp only [Expr.resolve_ternary_ok, Expr.value_not]
    constructor
    · rintro ⟨_, d, a, b, condition, truth, first, second, rfl⟩
      exact ⟨_, .not inner.line d, b, a, ⟨d, condition, truth, rfl⟩, rfl, second, first, rfl⟩
    · rintro ⟨_, _, b, a, ⟨d, condition, truth, rfl⟩, -, second, first, rfl⟩
      exact ⟨_, d, a, b, condition, truth, first, second, rfl⟩
  · intro t t' resolved resolved'
    obtain ⟨d, a, b, condition, truth, first, second, rfl⟩ := Expr.resolve_ternary_ok.mp resolved
    obtain ⟨u, b', a', negated, -, second', first', rfl⟩ := Expr.resolve_ternary_ok.mp resolved'
    obtain ⟨d', condition', -, rfl⟩ := Expr.value_not.mp negated
    cases condition.symm.trans condition'
    cases first.symm.trans first'
    cases second.symm.trans second'
    refine ⟨a, b, (Expr.value_ok.mp first).1, (Expr.value_ok.mp second).1, rfl, rfl,
      fun env => Typed.ternary_agrees _ _ _, fun p q compiled compiled' => ?_⟩
    refine ⟨Expr.compile_type compiled resolved, Expr.compile_type compiled' resolved', ?_⟩
    intro consistent env
    rw [Expr.compile_evaluates compiled resolved consistent env,
      Expr.compile_evaluates compiled' resolved' consistent.exchanged env]
    exact Typed.ternary_agrees _ _ _

/-- A generic type with a method that takes a value of its argument. -/
def crateType : TypeDef Record where
  name := "Crate"
  parameters := ["T"]
  methods := [.declare (.declared "Crate" [.var 0]) "takes" [.var 0] .boolean fun _ _ => .ok (.bool true)]

def crateContext : Context Record where
  catalog := ⟨[crateType]⟩
  scope := ((((({} : Declarations Record).parameter "known" (.boxed .bool)).parameter "plain"
    (.ofName "Crate")).parameter "texts" (.declared "Crate" [.string])).parameter "numbers"
    (.declared "Crate" [.boxed .int])).scope

/-- Only the plain crate is there. -/
def crateEnvironment : Environment Record where
  argument index := ([.null, .object (.mk (.ofName "Crate") 0 [] none), .null, .null] : List (Value Record))[index]?

/-- The expression `texts.takes('x')`. -/
def takesText : Expr := .call default (.name default "texts") "takes" [.literal default (.string "x")] false

/-- The expression `numbers.takes(3)`. -/
def takesNumber : Expr := .call default (.name default "numbers") "takes" [.literal default (.int 3)] false

/-- The conditional with a literal as its condition. -/
def choiceExpr (holds : Bool) (x y : Expr) : Expr := .ternary default (.literal default (.bool holds)) x y

/-- The same conditional with its condition negated and its branches exchanged. -/
def exchangedExpr (holds : Bool) (x y : Expr) : Expr :=
  .ternary default (.not default (.literal default (.bool holds))) y x

/-- With `plain` and `texts` as branches the outcomes are the same, though the types are not. -/
theorem crates_exchanged : ∃ p q,
    (choiceExpr false (.name default "plain") (.name default "texts")).compile crateContext = .ok p ∧
    (exchangedExpr false (.name default "plain") (.name default "texts")).compile crateContext = .ok q ∧
    p.type ≠ q.type ∧ ∀ env, p.run env = q.run env := by
  have crates : (((choiceExpr false (.name default "plain") (.name default "texts")).resolve crateContext
        .blank).1.toOption.map fun t => (t.type, decide (t.selected.map Method.digest).Nodup)) =
          some (.ofName "Crate", true) ∧
      ((exchangedExpr false (.name default "plain") (.name default "texts")).resolve crateContext
        .blank).1.toOption.map Typed.type = some (.declared "Crate" [.string]) ∧
      ((Expr.name default "plain").resolve crateContext .blank).1.toOption.map Typed.type = some (.ofName "Crate") ∧
      ((choiceExpr false (.name default "plain") (.name default "texts")).compile crateContext).toOption.isSome ∧
      ((exchangedExpr false (.name default "plain") (.name default "texts")).compile crateContext).toOption.isSome := by
    decide +kernel
  obtain ⟨resolves, resolves', plain, compiles, compiles'⟩ := crates
  obtain ⟨t, resolved, shape⟩ := Option.map_eq_some_iff.mp resolves
  obtain ⟨t', resolved', type'⟩ := Option.map_eq_some_iff.mp resolves'
  obtain ⟨type, nodup⟩ := Prod.mk.inj shape
  obtain ⟨s, isPlain, crate⟩ := Option.map_eq_some_iff.mp plain
  obtain ⟨p, compiled⟩ := Option.isSome_iff_exists.mp compiles
  obtain ⟨q, compiled'⟩ := Option.isSome_iff_exists.mp compiles'
  obtain ⟨-, -, agree⟩ := Expr.ternary_exchanged crateContext default default default
    (.literal default (.bool false)) (.name default "plain") (.name default "texts")
  obtain ⟨a, b, first, _, _, _, _, programs⟩ := agree t t' (toOption_some resolved) (toOption_some resolved')
  obtain ⟨same, same', runs⟩ := programs p q (toOption_some compiled) (toOption_some compiled')
  have firstType : a.type = .ofName "Crate" := by
    cases (toOption_some isPlain).symm.trans first
    exact crate
  refine ⟨p, q, toOption_some compiled, toOption_some compiled', ?_, fun env => ?_⟩
  · rw [same, same', type, type']
    decide
  · have agrees := runs (Typed.consistent_of_nodup (of_decide_eq_true nodup)) env
    rw [firstType] at agrees
    simpa [AgreeFor, Ty.ofName] using agrees

/-- The order of the branches is seen in `false ? true : known`, which has another type and another outcome than
`!false ? known : true`, in the types with `plain` and `texts` as branches, and in the name of the method that lacks
a receiver. -/
theorem crate_branches_ordered :
    (∃ p q, (choiceExpr false (.literal default (.bool true)) (.name default "known")).compile crateContext = .ok p ∧
      (exchangedExpr false (.literal default (.bool true)) (.name default "known")).compile crateContext = .ok q ∧
      p.type = .boolean ∧ q.type = .boxed .bool ∧
      p.run crateEnvironment = .error (.nullValue "primitive value") ∧ q.run crateEnvironment = .ok .null) ∧
    (∃ p q, (choiceExpr false (.name default "plain") (.name default "texts")).compile crateContext = .ok p ∧
      (exchangedExpr false (.name default "plain") (.name default "texts")).compile crateContext = .ok q ∧
      p.type = .ofName "Crate" ∧ q.type = .declared "Crate" [.string]) ∧
    ∃ p q, (choiceExpr true takesText takesNumber).compile crateContext = .ok p ∧
      (exchangedExpr true takesText takesNumber).compile crateContext = .ok q ∧
      p.run crateEnvironment = .error (.nullValue "receiver of takes(String)") ∧
      q.run crateEnvironment = .error (.nullValue "receiver of takes(Integer)") := by
  have known : ((choiceExpr false (.literal default (.bool true)) (.name default "known")).compile
        crateContext).toOption.map (fun p => p.type) = some .boolean ∧
      (choiceExpr false (.literal default (.bool true)) (.name default "known")).failure? crateContext
        crateEnvironment = some (.nullValue "primitive value") ∧
      (((exchangedExpr false (.literal default (.bool true)) (.name default "known")).compile
        crateContext).toOption.bind fun q =>
          (q.run crateEnvironment).toOption.map fun v => (q.type, v.isNull)) = some (.boxed .bool, true) := by
    decide +kernel
  have crates : ((choiceExpr false (.name default "plain") (.name default "texts")).compile
        crateContext).toOption.map (fun p => p.type) = some (.ofName "Crate") ∧
      ((exchangedExpr false (.name default "plain") (.name default "texts")).compile
        crateContext).toOption.map (fun q => q.type) = some (.declared "Crate" [.string]) := by decide +kernel
  have fail : (choiceExpr true takesText takesNumber).failure? crateContext crateEnvironment =
        some (.nullValue "receiver of takes(String)") ∧
      (exchangedExpr true takesText takesNumber).failure? crateContext crateEnvironment =
        some (.nullValue "receiver of takes(Integer)") := by decide +kernel
  refine ⟨?_, ?_, ?_⟩
  · obtain ⟨p, compiled, failed⟩ := Expr.exists_of_failure? known.2.1
    obtain ⟨q, compiled', found⟩ := Option.bind_eq_some_iff.mp known.2.2
    obtain ⟨v, ran, isNull⟩ := Option.map_eq_some_iff.mp found
    have type : p.type = .boolean := by simpa [compiled, Except.toOption] using known.1
    obtain ⟨type', isNull⟩ := Prod.mk.inj isNull
    have null : v = .null := by cases v <;> first | rfl | cases isNull
    exact ⟨p, q, compiled, toOption_some compiled', type, type', failed, null ▸ toOption_some ran⟩
  · obtain ⟨p, compiled, type⟩ := Option.map_eq_some_iff.mp crates.1
    obtain ⟨q, compiled', type'⟩ := Option.map_eq_some_iff.mp crates.2
    exact ⟨p, q, toOption_some compiled, toOption_some compiled', type, type'⟩
  · obtain ⟨p, compiled, failed⟩ := Expr.exists_of_failure? fail.1
    obtain ⟨q, compiled', failed'⟩ := Expr.exists_of_failure? fail.2
    exact ⟨p, q, compiled, compiled', failed, failed'⟩

end TypedExpr
