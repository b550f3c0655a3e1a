import TypedExpr.Proofs.Sequencing
import TypedExpr.Resolution
/-!
# What resolution yields

`WellTyped` lists, node by node, what resolution guarantees about a resolved expression. It speaks of the
catalog only, so it holds whatever names and limits the expression was resolved with.
-/

namespace TypedExpr

variable {H : Type}

/-- The catalog selects the method in this way for arguments of these types. -/
def Selection.ChosenFor (c : Catalog H) (s : Selection H) (types : List Ty) : Prop :=
  c.select? s.method types = some s

/-- A resolved expression as resolution builds it. Operands yield values. -/
inductive Typed.WellTyped (c : Catalog H) : Typed H → Prop where
  | literal {line : Nat} {v : Literal} : WellTyped c (.literal line v)
  | numeric {line : Nat} {op : ArithmeticOp} {kind common : Kind} {l r : Typed H} (left : WellTyped c l)
      (right : WellTyped c r) (meet : l.type.commonKind? r.type = some common)
      (result : kind = if op = .pow then (if common.isIntegral then .long else .double) else common) :
      WellTyped c (.numeric line op kind l r)
  | concat {line : Nat} {l r : Typed H} (left : WellTyped c l) (right : WellTyped c r)
      (texts : (l.type.isStringLike || r.type.isStringLike) = true) : WellTyped c (.concat line l r)
  | negate {line : Nat} {kind : Kind} {e : Typed H} (operand : WellTyped c e)
      (number : e.type.numericKind? = some kind) : WellTyped c (.negate line kind e)
  | logical {line : Nat} {op : LogicalOp} {l r : Typed H} (left : WellTyped c l) (right : WellTyped c r)
      (leftTruth : l.type.isBoolean = true) (rightTruth : r.type.isBoolean = true) :
      WellTyped c (.logical line op l r)
  | not {line : Nat} {e : Typed H} (operand : WellTyped c e) (truth : e.type.isBoolean = true) :
      WellTyped c (.not line e)
  | empty {line : Nat} {e : Typed H} (operand : WellTyped c e) : WellTyped c (.empty line e)
  | equality {line : Nat} {negated : Bool} {l r : Typed H} (left : WellTyped c l) (right : WellTyped c r) :
      WellTyped c (.equality line negated l r)
  | ordering {line : Nat} {op : RelationalOp} {kind : Kind} {l r : Typed H} (left : WellTyped c l)
      (right : WellTyped c r) (meet : l.type.commonKind? r.type = some kind) :
      WellTyped c (.ordering line op kind l r)
  | comparison {line : Nat} {op : RelationalOp} {s : Selection H} {isLeft : Bool} {l r : Typed H} {span : Span}
      (left : WellTyped c l) (right : WellTyped c r) (apart : l.type.commonKind? r.type = none)
      (oriented : Resolution.receiverIsLeft c span op l.type r.type = .ok isLeft)
      (declared : s.method ∈ c.methods (if isLeft then l.type else r.type).box "compareTo")
      (chosen : s.ChosenFor c [if isLeft then r.type else l.type])
      (result : s.returns.numericKind? = some .int) (single : s.varargsStart = none) :
      WellTyped c (.comparison line op s isLeft l r)
  | instanceOf {line : Nat} {t : Ty} {e : Typed H} (operand : WellTyped c e)
      (reference : t.isReference = true) (notNull : t.isNull = false) : WellTyped c (.instanceOf line t e)
  | matches {line : Nat} {p : Pattern} {e : Typed H} {limit : Nat} {source : String} (operand : WellTyped c e)
      (text : e.type.isStringLike = true) (compiled : Pattern.compileWhole? limit source = some p) :
      WellTyped c (.matches line p e)
  | ternary {line : Nat} {cond yes no : Typed H} (condition : WellTyped c cond) (thenBranch : WellTyped c yes)
      (elseBranch : WellTyped c no) (truth : cond.type.isBoolean = true) (thenValue : yes.type.isVoid = false)
      (elseValue : no.type.isVoid = false) :
      WellTyped c (.ternary line (Resolution.commonType c yes.type no.type) cond yes no)
  | elvis {line : Nat} {l r : Typed H} (left : WellTyped c l) (right : WellTyped c r)
      (reference : l.type.isReference = true) (rightValue : r.type.isVoid = false) :
      WellTyped c (.elvis line (Resolution.commonType c l.type r.type) l r)
  | arrayIndex {line : Nat} {t : Ty} {e i : Typed H} (target : WellTyped c e) (position : WellTyped c i)
      (component : e.type.component? = some t) (whole : i.type.numericKind? = some .int) :
      WellTyped c (.index line .array t e i)
  | listIndex {line : Nat} {e i : Typed H} (target : WellTyped c e) (position : WellTyped c i)
      (notArray : e.type.component? = none) (isList : c.isSubtype e.type (.ofName "List") = true)
      (whole : i.type.numericKind? = some .int) :
      WellTyped c (.index line .list (Resolution.typeArgument c e.type "List" 0) e i)
  | mapIndex {line : Nat} {e i : Typed H} (target : WellTyped c e) (position : WellTyped c i)
      (notArray : e.type.component? = none) (isMap : c.isSubtype e.type (.ofName "Map") = true)
      (text : i.type.isStringLike = true) :
      WellTyped c (.index line .map (Resolution.typeArgument c e.type "Map" 1) e i)
  | arrayLength {line : Nat} {nullSafe : Bool} {e : Typed H} (receiver : WellTyped c e)
      (isArray : e.type.isArray = true) : WellTyped c (.arrayLength line nullSafe e)
  | property {line : Nat} {nullSafe : Bool} {p : Property H} {e : Typed H} {name : String}
      (receiver : WellTyped c e) (only : c.properties e.type.box name = [p]) :
      WellTyped c (.property line nullSafe p e)
  | call {line : Nat} {nullSafe : Bool} {s : Selection H} {e : Typed H} {args : List (Typed H)} {name : String}
      (receiver : WellTyped c e) (arguments : ∀ a ∈ args, WellTyped c a)
      (values : ∀ a ∈ args, a.type.isVoid = false) (declared : s.method ∈ c.methods e.type.box name)
      (chosen : s.ChosenFor c (args.map Typed.type)) : WellTyped c (.call line nullSafe s e args)
  | staticCall {line : Nat} {s : Selection H} {args : List (Typed H)} {owner : Ty} {name : String}
      (arguments : ∀ a ∈ args, WellTyped c a) (values : ∀ a ∈ args, a.type.isVoid = false)
      (declared : s.method ∈ c.methods owner.box name) (isStatic : s.method.isStatic = true)
      (chosen : s.ChosenFor c (args.map Typed.type)) : WellTyped c (.staticCall line s args)
  | parameter {line index : Nat} {t : Ty} : WellTyped c (.parameter line index t)
  | contextProperty {line : Nat} {owner : Ty} {p : Property H} : WellTyped c (.contextProperty line owner p)
  | contextCall {line : Nat} {s : Selection H} {args : List (Typed H)} (arguments : ∀ a ∈ args, WellTyped c a)
      (values : ∀ a ∈ args, a.type.isVoid = false) (chosen : s.ChosenFor c (args.map Typed.type)) :
      WellTyped c (.contextCall line s args)
  | this {line : Nat} {t : Ty} : WellTyped c (.this line t)
  | bean {line : Nat} {t : Ty} (reference : t.isPrimitive = false) : WellTyped c (.bean line t)
  | environment {line : Nat} {k : Typed H} (key : WellTyped c k) (text : k.type.isStringLike = true) :
      WellTyped c (.environment line k)

namespace Catalog

variable {c : Catalog H}

theorem select?_method {m : Method H} {types : List Ty} {s : Selection H}
    (selected : c.select? m types = some s) : s.method = m := by
  simp only [select?, Option.or_eq_some_iff] at selected
  rcases selected with exact | ⟨_, expanded⟩
  · simp only [selectExact?] at exact
    split at exact
    · obtain ⟨_, _, rfl⟩ := Option.map_eq_some_iff.mp exact
      rfl
    · cases exact
  · simp only [selectExpanded?] at expanded
    split at expanded
    · split at expanded
      · obtain ⟨_, _, rest⟩ := Option.bind_eq_some_iff.mp expanded
        obtain ⟨_, _, same⟩ := Option.bind_eq_some_iff.mp rest
        cases same
        rfl
      · cases expanded
    · cases expanded

/-- A successful selection is one of the candidates, chosen for the arguments. -/
theorem selectMethod_chosen {name : String} {candidates : List (Method H)} {types : List Ty} {span : Span}
    {s : Selection H} (h : c.selectMethod name candidates types span = .ok s) :
    s.method ∈ candidates ∧ s.ChosenFor c types := by
  unfold selectMethod at h
  split at h
  next _ only =>
    cases h
    have member : s ∈ candidates.filterMap fun m => c.select? m types := by simp [only]
    obtain ⟨m, candidate, found⟩ := List.mem_filterMap.mp member
    have same := select?_method found
    exact ⟨same ▸ candidate, by rw [Selection.ChosenFor, same]; exact found⟩
  · cases h
  · cases h

theorem conversions?_spec {arguments parameters : List Ty} {cs : List Conversion}
    (same : arguments.length = parameters.length) (h : c.conversions? arguments parameters = some cs) :
    cs.length = arguments.length ∧ ∀ x ∈ arguments.zip cs, ∃ target, c.conversion? x.1 target = some x.2 := by
  induction arguments generalizing parameters cs with
  | nil =>
    cases h
    simp
  | cons a as ih =>
    cases parameters with
    | nil => cases same
    | cons p ps =>
      obtain ⟨first, found, h⟩ := Option.bind_eq_some_iff.mp h
      obtain ⟨rest, later, h⟩ := Option.bind_eq_some_iff.mp h
      cases h
      obtain ⟨lengths, converts⟩ := ih (Nat.succ.inj same) later
      exact ⟨by simp [lengths], by simpa using ⟨⟨p, found⟩, by simpa using converts⟩⟩

theorem conversionsTo?_spec {target : Ty} {arguments : List Ty} {cs : List Conversion}
    (h : c.conversionsTo? target arguments = some cs) :
    cs.length = arguments.length ∧ ∀ x ∈ arguments.zip cs, ∃ target, c.conversion? x.1 target = some x.2 := by
  induction arguments generalizing cs with
  | nil =>
    cases h
    simp
  | cons a as ih =>
    obtain ⟨first, found, h⟩ := Option.bind_eq_some_iff.mp h
    obtain ⟨rest, later, h⟩ := Option.bind_eq_some_iff.mp h
    cases h
    obtain ⟨lengths, converts⟩ := ih later
    exact ⟨by simp [lengths], by simpa using ⟨⟨target, found⟩, by simpa using converts⟩⟩

end Catalog

/-- How a selection passes arguments of the types: each is converted, and the converted values fill the
parameters. -/
structure Selection.Passes (c : Catalog H) (s : Selection H) (types : List Ty) : Prop where
  length : s.conversions.length = types.length
  converts : ∀ x ∈ types.zip s.conversions, ∃ target, c.conversion? x.1 target = some x.2
  fixed : s.varargsStart = none → s.arity = types.length
  collected : ∀ start, s.varargsStart = some start → start ≤ types.length ∧ s.arity = start + 1

theorem Selection.ChosenFor.passes {c : Catalog H} {s : Selection H} {types : List Ty}
    (chosen : s.ChosenFor c types) : s.Passes c types := by
  simp only [ChosenFor, Catalog.select?, Option.or_eq_some_iff] at chosen
  rcases chosen with exact | ⟨_, expanded⟩
  · simp only [Catalog.selectExact?] at exact
    split at exact
    next same =>
      obtain ⟨cs, found, whole⟩ := Option.map_eq_some_iff.mp exact
      obtain ⟨lengths, converts⟩ := Catalog.conversions?_spec same found
      rw [← whole]
      exact ⟨lengths, converts, fun _ => by rw [whole]; exact same.symm, nofun⟩
    · cases exact
  · simp only [Catalog.selectExpanded?] at expanded
    split at expanded
    next element last =>
      split at expanded
      next enough =>
        obtain ⟨before, found, h⟩ := Option.bind_eq_some_iff.mp expanded
        obtain ⟨after, found', whole⟩ := Option.bind_eq_some_iff.mp h
        simp only [Bool.and_eq_true, decide_eq_true_eq] at enough
        have positive : 0 < s.method.parameters.length := by
          cases parameters : s.method.parameters <;> simp_all
        obtain ⟨lengths, converts⟩ := Catalog.conversions?_spec (by simp; omega) found
        obtain ⟨lengths', converts'⟩ := Catalog.conversionsTo?_spec found'
        have same : s.conversions = before ++ after ∧ s.varargsStart = some (s.method.parameters.length - 1) := by
          have built := Option.some.inj whole
          exact ⟨(congrArg Selection.conversions built).symm, (congrArg Selection.varargsStart built).symm⟩
        refine ⟨?_, ?_, by simp [same.2], ?_⟩
        · simp only [same.1, List.length_append, lengths, lengths', List.length_take, List.length_drop]
          omega
        · rw [same.1, ← List.take_append_drop (s.method.parameters.length - 1) types, List.zip_append lengths.symm]
          intro x member
          exact (List.mem_append.mp member).elim (converts x) (converts' x)
        · intro start isStart
          rw [same.2] at isStart
          cases isStart
          exact ⟨enough.2, by simp only [Selection.arity]; omega⟩
      · cases expanded
    · cases expanded

/-- All that is remembered was settled by the catalog. -/
inductive Memo.Settled (c : Catalog H) : Memo H → Prop where
  | node {outcome : Option (Typed H)} {children : List (Memo H)}
      (here : ∀ t, outcome = some t → t.WellTyped c) (below : ∀ m ∈ children, Settled c m) :
      Settled c (.node outcome children)

theorem Memo.blank_settled (c : Catalog H) : (Memo.blank : Memo H).Settled c :=
  .node (by simp) (by simp)

def Visited.Settled (c : Catalog H) (v : Visited H) : Prop :=
  (∀ m ∈ v.done, m.Settled c) ∧ ∀ m ∈ v.rest, m.Settled c

/-- The attempt yields well-typed expressions only, and remembers no others. -/
def Attempt.Settles (c : Catalog H) (attempt : Attempt H) : Prop :=
  ∀ m : Memo H, m.Settled c →
    (∀ t, (attempt m).1 = .ok t → t.WellTyped c) ∧ (attempt m).2.Settled c

/-- What the work on a node yields has the property, and what it remembers is settled. -/
def Visit.Yields (c : Catalog H) {α : Type} (work : Visit H α) (property : α → Prop) : Prop :=
  ∀ v : Visited H, v.Settled c → (∀ a, (work v).1 = .ok a → property a) ∧ (work v).2.Settled c

namespace Visit.Yields

variable {c : Catalog H} {α β : Type} {P : α → Prop} {Q : β → Prop}

theorem pure {a : α} (holds : P a) : Visit.Yields c (Pure.pure a) P := by
  intro v settled
  refine ⟨?_, settled⟩
  intro b same
  cases same
  exact holds

theorem fail {e : CompileError} : Visit.Yields c (throw e : Visit H α) P := by
  intro v settled
  refine ⟨?_, settled⟩
  intro b same
  cases same

theorem lift {x : Except CompileError α} (holds : ∀ a, x = .ok a → P a) :
    Visit.Yields c (liftExcept x : Visit H α) P := by
  cases x with
  | error e => exact fail
  | ok a => exact pure (holds a rfl)

theorem bind {x : Visit H α} {f : α → Visit H β} (first : Visit.Yields c x P)
    (second : ∀ a, P a → Visit.Yields c (f a) Q) : Visit.Yields c (x >>= f) Q := by
  intro v settled
  obtain ⟨holds, after⟩ := first v settled
  have unfolded : (x >>= f) v = match x v with
      | (.ok a, v') => f a v'
      | (.error e, v') => (.error e, v') := by
    simp only [Bind.bind, ExceptT.bind, ExceptT.mk, StateT.bind]
    cases h : x v with
    | mk r v' => cases r <;> rfl
  rw [unfolded]
  cases h : x v with
  | mk r v' =>
    rw [h] at holds after
    cases r with
    | error e =>
      refine ⟨?_, after⟩
      intro b same
      cases same
    | ok a => exact second a (holds a rfl) v' after

theorem visit {attempt : Attempt H} (settles : attempt.Settles c) :
    Visit.Yields c (Resolution.visit attempt) (Typed.WellTyped c) := by
  intro v ⟨done, rest⟩
  unfold Resolution.visit
  split
  · obtain ⟨typed, after⟩ := settles .blank (Memo.blank_settled c)
    exact ⟨typed, List.forall_mem_cons.mpr ⟨after, done⟩, by simp⟩
  next m others split =>
    rw [split] at rest
    obtain ⟨typed, after⟩ := settles m (rest m (by simp))
    exact ⟨typed, List.forall_mem_cons.mpr ⟨after, done⟩, fun n later => rest n (by simp [later])⟩

theorem visitValue {e : Expr} {attempt : Attempt H} (settles : attempt.Settles c) :
    Visit.Yields c (Resolution.visitValue e attempt) fun t => t.WellTyped c ∧ t.type.isVoid = false := by
  refine (visit settles).bind fun t typed => ?_
  cases hasValue : t.type.isVoid with
  | true => exact fail
  | false => exact pure ⟨typed, hasValue⟩

/-- A node that remembers its outcome is not worked on again. -/
theorem settle {work : Visit H (Typed H)} (yields : Visit.Yields c work (Typed.WellTyped c)) :
    Attempt.Settles c (Resolution.settle work) := by
  rintro _ ⟨here, below⟩
  rename_i outcome children
  cases outcome with
  | some t =>
    refine ⟨?_, .node here below⟩
    intro u same
    cases same
    exact here t rfl
  | none =>
    obtain ⟨typed, done, rest⟩ := yields ⟨[], children⟩ ⟨by simp, below⟩
    refine ⟨typed, .node ?_ ?_⟩
    · intro t same
      exact typed t (toOption_some same)
    · intro m member
      rw [Visited.all, List.reverseAux_eq, List.mem_append, List.mem_reverse] at member
      exact member.elim (done m) (rest m)

end Visit.Yields

namespace Resolution

variable {c : Catalog H} {span : Span} {l r t : Typed H}

theorem arithmetic_typed {op : ArithmeticOp} (left : l.WellTyped c) (right : r.WellTyped c)
    (h : arithmetic span op l r = .ok t) : t.WellTyped c := by
  unfold arithmetic at h
  split at h
  next texts =>
    cases h
    exact .concat left right (by simp_all)
  · split at h
    · cases h
    next meet =>
      cases h
      exact .numeric left right meet rfl

theorem relational_typed {op : RelationalOp} (left : l.WellTyped c) (right : r.WellTyped c)
    (h : relational c span op l r = .ok t) : t.WellTyped c := by
  unfold relational at h
  split at h
  next meet =>
    cases h
    exact .ordering left right meet
  next apart =>
    obtain ⟨isLeft, oriented, h⟩ := bind_ok h
    obtain ⟨s, selected, h⟩ := bind_ok h
    split at h
    · cases h
    next usable =>
      cases h
      simp only [Bool.or_eq_true, decide_eq_true_eq, not_or, Decidable.not_not] at usable
      obtain ⟨declared, chosen⟩ := Catalog.selectMethod_chosen selected
      refine .comparison left right apart oriented ?_ ?_ usable.1 (by simpa [Selection.isVarargs] using usable.2)
      · cases isLeft <;> exact declared
      · cases isLeft <;> exact chosen

theorem index_typed (target : l.WellTyped c) (position : r.WellTyped c) (h : index c span l r = .ok t) :
    t.WellTyped c := by
  simp only [index] at h
  split at h
  next component =>
    split at h
    next whole =>
      cases h
      exact .arrayIndex target position component whole
    · cases h
  next notArray =>
    split at h
    next isList =>
      split at h
      next whole =>
        cases h
        exact .listIndex target position notArray isList whole
      · cases h
    · split at h
      next isMap =>
        split at h
        next text =>
          cases h
          exact .mapIndex target position notArray isMap text
        · cases h
      · cases h

theorem property_typed {name : String} {nullSafe : Bool} (receiver : l.WellTyped c)
    (h : property c span l name nullSafe = .ok t) : t.WellTyped c := by
  unfold property at h
  split at h
  next isLength =>
    cases h
    simp only [Bool.and_eq_true] at isLength
    exact .arrayLength receiver isLength.1
  · split at h
    · cases h
    next only =>
      cases h
      exact .property receiver only
    · cases h

variable {ctx : Context H}

theorem name_typed {name : String} (h : Resolution.name ctx span name = .ok t) : t.WellTyped ctx.catalog := by
  unfold Resolution.name at h
  split at h
  · cases h
  · cases h
    exact .parameter
  · cases h
    exact .contextProperty
  · obtain ⟨s, selected, rfl⟩ := map_ok h
    exact .contextCall (by simp) (by simp) (Catalog.selectMethod_chosen selected).2
  · cases h

theorem this_typed (h : Resolution.this ctx span = .ok t) : t.WellTyped ctx.catalog := by
  unfold Resolution.this at h
  split at h
  · cases h
    exact .this
  · cases h

theorem bean_typed {typeName : String} (h : bean ctx span typeName = .ok t) : t.WellTyped ctx.catalog := by
  obtain ⟨u, _, h⟩ := bind_ok h
  split at h
  · cases h
  next reference =>
    cases h
    exact .bean (by simpa using reference)

theorem instanceOf_typed {typeName : String} (operand : l.WellTyped ctx.catalog)
    (h : instanceOf ctx span l typeName = .ok t) : t.WellTyped ctx.catalog := by
  obtain ⟨u, _, h⟩ := bind_ok h
  split at h
  · cases h
  next usable =>
    cases h
    simp only [Bool.or_eq_true, Bool.not_eq_true', not_or, Bool.not_eq_false, Bool.not_eq_true] at usable
    exact .instanceOf operand usable.1 usable.2

theorem matches_typed {source : String} (operand : l.WellTyped ctx.catalog)
    (h : Resolution.matches ctx span l source = .ok t) : t.WellTyped ctx.catalog := by
  unfold Resolution.matches at h
  split at h
  · cases h
  next text =>
    split at h
    next compiled =>
      cases h
      exact .matches operand (by simpa using text) compiled
    · cases h

end Resolution

open Visit.Yields

theorem Visit.Yields.booleanOperand {c : Catalog H} {span : Span} {symbol : String} {t : Typed H} :
    Visit.Yields c (liftExcept (Resolution.booleanOperand span symbol t)) fun _ => t.type.isBoolean = true := by
  refine lift fun _ h => ?_
  unfold Resolution.booleanOperand at h
  split at h
  · assumption
  · cases h

mutual
/-- Whatever the nodes of an expression remember, resolution yields well-typed expressions only. -/
theorem Expr.resolve_settles (ctx : Context H) : ∀ e : Expr, Attempt.Settles ctx.catalog (e.resolve ctx)
  | .literal _ _ => settle (pure .literal)
  | .arithmetic _ _ l r => settle <|
    (visitValue (l.resolve_settles ctx)).bind fun _ left =>
      (visitValue (r.resolve_settles ctx)).bind fun _ right =>
        lift fun _ => Resolution.arithmetic_typed left.1 right.1
  | .negate _ e => settle <| (visitValue (e.resolve_settles ctx)).bind fun _ operand => by
    split
    next number => exact pure (.negate operand.1 number)
    · exact fail
  | .logical _ _ l r => settle <|
    (visitValue (l.resolve_settles ctx)).bind fun _ left => booleanOperand.bind fun _ leftTruth =>
      (visitValue (r.resolve_settles ctx)).bind fun _ right => booleanOperand.bind fun _ rightTruth =>
        pure (.logical left.1 right.1 leftTruth rightTruth)
  | .not _ e => settle <|
    (visitValue (e.resolve_settles ctx)).bind fun _ operand => booleanOperand.bind fun _ truth =>
      pure (.not operand.1 truth)
  | .empty _ e => settle <| (visitValue (e.resolve_settles ctx)).bind fun _ operand => pure (.empty operand.1)
  | .equality _ _ l r => settle <|
    (visitValue (l.resolve_settles ctx)).bind fun _ left =>
      (visitValue (r.resolve_settles ctx)).bind fun _ right => pure (.equality left.1 right.1)
  | .relational _ _ l r => settle <|
    (visitValue (l.resolve_settles ctx)).bind fun _ left =>
      (visitValue (r.resolve_settles ctx)).bind fun _ right =>
        lift fun _ => Resolution.relational_typed left.1 right.1
  | .instanceOf _ e _ => settle <|
    (visitValue (e.resolve_settles ctx)).bind fun _ operand =>
      lift fun _ => Resolution.instanceOf_typed operand.1
  | .matches _ e _ => settle <|
    (visitValue (e.resolve_settles ctx)).bind fun _ operand => lift fun _ => Resolution.matches_typed operand.1
  | .ternary _ c t e => settle <| (visitValue (c.resolve_settles ctx)).bind fun cond condition => by
    cases truth : cond.type.isBoolean with
    | false => exact fail
    | true =>
      exact (visitValue (t.resolve_settles ctx)).bind fun _ thenBranch =>
        (visitValue (e.resolve_settles ctx)).bind fun _ elseBranch =>
          pure (.ternary condition.1 thenBranch.1 elseBranch.1 truth thenBranch.2 elseBranch.2)
  | .elvis _ l r => settle <| (visitValue (l.resolve_settles ctx)).bind fun value left => by
    cases reference : value.type.isReference with
    | false => exact fail
    | true =>
      exact (visitValue (r.resolve_settles ctx)).bind fun _ right =>
        pure (.elvis left.1 right.1 reference right.2)
  | .index _ t i => settle <|
    (visitValue (t.resolve_settles ctx)).bind fun _ target =>
      (visitValue (i.resolve_settles ctx)).bind fun _ position =>
        lift fun _ => Resolution.index_typed target.1 position.1
  | .property _ e _ _ => settle <|
    (visitValue (e.resolve_settles ctx)).bind fun _ receiver => lift fun _ => Resolution.property_typed receiver.1
  | .call _ e _ args _ => settle <|
    (visitValue (e.resolve_settles ctx)).bind fun _ receiver => (lift fun _ _ => trivial).bind fun _ _ =>
      (Expr.resolveArguments_yields ctx args).bind fun _ arguments =>
        (lift fun _ => Catalog.selectMethod_chosen).bind fun _ selected =>
          pure (.call receiver.1 (fun a member => (arguments a member).1)
            (fun a member => (arguments a member).2) selected.1 selected.2)
  | .staticCall _ _ _ args => settle <|
    (lift fun _ _ => trivial).bind fun _ _ => (lift fun _ _ => trivial).bind fun _ _ =>
      (Expr.resolveArguments_yields ctx args).bind fun _ arguments =>
        (lift fun _ => Catalog.selectMethod_chosen).bind fun _ selected =>
          pure (.staticCall (fun a member => (arguments a member).1) (fun a member => (arguments a member).2)
            (List.mem_filter.mp selected.1).1 (List.mem_filter.mp selected.1).2 selected.2)
  | .name _ _ => settle (lift fun _ => Resolution.name_typed)
  | .contextCall _ _ args => settle <|
    (lift fun _ _ => trivial).bind fun _ _ => (Expr.resolveArguments_yields ctx args).bind fun _ arguments =>
      (lift fun _ => Catalog.selectMethod_chosen).bind fun _ selected =>
        pure (.contextCall (fun a member => (arguments a member).1) (fun a member => (arguments a member).2)
          selected.2)
  | .this _ => settle (lift fun _ => Resolution.this_typed)
  | .bean _ _ => settle (lift fun _ => Resolution.bean_typed)
  | .environment _ k => settle <| (visitValue (k.resolve_settles ctx)).bind fun key typed => by
    cases text : key.type.isStringLike with
    | true => exact pure (.environment typed.1 text)
    | false => exact fail

theorem Expr.resolveArguments_yields (ctx : Context H) : ∀ es : List Expr,
    Visit.Yields ctx.catalog (Expr.resolveArguments ctx es)
      fun ts => ∀ t ∈ ts, t.WellTyped ctx.catalog ∧ t.type.isVoid = false
  | [] => pure (by simp)
  | e :: es => (visitValue (e.resolve_settles ctx)).bind fun _ first =>
    (Expr.resolveArguments_yields ctx es).bind fun _ rest => pure (List.forall_mem_cons.mpr ⟨first, rest⟩)
end

/-- The outcome of a resolution from scratch is well typed. -/
theorem Expr.resolve_typed {ctx : Context H} {e : Expr} {t : Typed H} (h : (e.resolve ctx .blank).1 = .ok t) :
    t.WellTyped ctx.catalog :=
  (e.resolve_settles ctx .blank (Memo.blank_settled _)).1 t h

end TypedExpr
