import TypedExpr.Proofs.Placement
import TypedExpr.Proofs.Standalone
/-!
# Null-safe access

A null-safe access to a member has a type that admits null, and a null receiver makes it null without anything
else being run (`Expr.safe_access`). The length of an array is the exception: it stays a primitive, although its
value may be null.
-/

namespace TypedExpr

open Machine Generation

variable {H : Type}

/-- The receiver of a null-safe access. -/
def Expr.safeReceiver? : Expr → Option Expr
  | .property _ e _ true | .call _ e _ _ true => some e
  | _ => none

/-- The second expression is a null-safe access to a member of the first. -/
inductive Typed.SafeAccess (r : Typed H) : Typed H → Prop where
  | length {line : Nat} : SafeAccess r (.arrayLength line true r)
  | property {line : Nat} {p : Property H} : SafeAccess r (.property line true p r)
  | call {line : Nat} {s : Selection H} {args : List (Typed H)} : SafeAccess r (.call line true s r args)

/-- Null-safe accesses resolve to such nodes; only the length of an array becomes a primitive. -/
theorem Expr.safe_resolve {ctx : Context H} {access e : Expr} {t : Typed H} (safe : access.safeReceiver? = some e)
    (resolved : (access.resolve ctx .blank).1 = .ok t) :
    ∃ r, (e.resolve ctx .blank).1 = .ok r ∧ Typed.SafeAccess r t ∧
      (t.type.isPrimitive = true ↔ r.type.isArray = true ∧ ∃ span, access = .property span e "length" true) := by
  unfold Expr.safeReceiver? at safe
  split at safe
  next span e name =>
    cases safe
    rw [Expr.resolve_property] at resolved
    obtain ⟨r, isReceiver, resolved⟩ := bind_ok resolved
    refine ⟨r, (Expr.value_ok.mp isReceiver).1, ?_⟩
    unfold Resolution.property at resolved
    split at resolved
    next isLength =>
      cases resolved
      simp only [Bool.and_eq_true, decide_eq_true_eq] at isLength
      obtain ⟨isArray, rfl⟩ := isLength
      exact ⟨.length, fun _ => ⟨isArray, span, rfl⟩, fun _ => rfl⟩
    next other =>
      dsimp only at resolved
      split at resolved
      · cases resolved
      · cases resolved
        refine ⟨.property, fun isPrimitive => ?_, ?_⟩
        · rw [Typed.type, memberType_optional] at isPrimitive
          cases isPrimitive
        · rintro ⟨isArray, _, same⟩
          cases same
          exact absurd (by simp [isArray]) other
      · cases resolved
  next span e name args =>
    cases safe
    rw [Expr.resolve_call] at resolved
    obtain ⟨r, isReceiver, resolved⟩ := bind_ok resolved
    obtain ⟨_, _, resolved⟩ := bind_ok resolved
    obtain ⟨arguments, _, resolved⟩ := bind_ok resolved
    obtain ⟨s, _, same⟩ := bind_ok resolved
    cases same
    refine ⟨r, (Expr.value_ok.mp isReceiver).1, .call, fun isPrimitive => ?_, fun isLength => ?_⟩
    · rw [Typed.type, memberType_optional] at isPrimitive
      cases isPrimitive
    · obtain ⟨_, _, same⟩ := isLength
      cases same
  · cases safe

/-- The left operand of `?:` has to admit null. -/
theorem Expr.resolve_elvis_iff {ctx : Context H} {span : Span} {left right : Expr} {t s : Typed H}
    (isLeft : (left.resolve ctx .blank).1 = .ok t) (isRight : (right.resolve ctx .blank).1 = .ok s)
    (hasValue : s.type.isVoid = false) :
    (∃ u, ((Expr.elvis span left right).resolve ctx .blank).1 = .ok u) ↔
      t.type.isPrimitive = false ∧ t.type.isVoid = false := by
  have isReference : t.type.isReference = true ↔ t.type.isPrimitive = false ∧ t.type.isVoid = false := by
    cases t.type <;> simp [Ty.isReference, Ty.isPrimitive, Ty.isVoid]
  have second : right.value ctx = .ok s := Expr.value_ok.mpr ⟨isRight, hasValue⟩
  rw [Expr.resolve_elvis, ← isReference]
  constructor
  · rintro ⟨u, whole⟩
    obtain ⟨_, first, whole⟩ := bind_ok whole
    cases isLeft.symm.trans (Expr.value_ok.mp first).1
    by_contra other
    rw [if_pos (by simpa using other)] at whole
    cases whole
  · intro reference
    have first : left.value ctx = .ok t := Expr.value_ok.mpr ⟨isLeft, (isReference.mp reference).2⟩
    rw [first, ok_bind, if_neg (by simp [reference]), second]
    exact ⟨_, rfl⟩

section Runs

variable [HostObject H] {c : Catalog H} {r t : Typed H}

theorem Typed.SafeAccess.eval_null (safe : SafeAccess r t) {env : Environment H} (isNull : r.eval c env = .ok .null) :
    t.eval c env = .ok .null := by
  cases safe <;> simp [Typed.eval, isNull] <;> rfl

omit [HostObject H] in
theorem guarded_safe {line : Nat} {body code : Code} (laid : guarded line true body = .ok code) :
    ∃ past : UInt16, past.toNat = body.size ∧ code = (line, .wide .jumpIfNull past) :: body := by
  rw [guarded, if_pos rfl] at laid
  exact skipping_ok laid

omit [HostObject H] in
/-- The code of a null-safe access is that of the receiver and a jump over all the rest. -/
theorem Typed.SafeAccess.code {T : Tables H} {code : Code} (safe : SafeAccess r t)
    (layout : Layout c T t (.closed code)) : ∃ a line past body, Layout c T r (.closed a) ∧
      past.toNat = Code.size body ∧ code = a ++ (line, .wide .jumpIfNull past) :: body := by
  cases safe with
  | length =>
    cases layout with
    | arrayLength receiver laid =>
      obtain ⟨past, size, rfl⟩ := guarded_safe laid
      exact ⟨_, _, past, _, receiver, size, rfl⟩
  | property =>
    cases layout with
    | property receiver _ laid =>
      obtain ⟨past, size, rfl⟩ := guarded_safe laid
      exact ⟨_, _, past, _, receiver, size, rfl⟩
  | call =>
    cases layout with
    | call receiver _ _ _ _ _ laid =>
      obtain ⟨past, size, rfl⟩ := guarded_safe laid
      exact ⟨_, _, past, _, receiver, size, rfl⟩

omit [HostObject H] in
/-- The code of a null-safe access stands in one piece. -/
theorem Typed.SafeAccess.stands {T : Tables H} {k : Chunk} (safe : SafeAccess r t) (stands : t.Stands k c T) :
    ∃ code, Layout c T t (.closed code) ∧ k.Shows code := by
  obtain ⟨d, layout, shown⟩ := stands
  -- As an operand of a concatenation or a chain the access has the code that it has alone.
  cases layout with
  | text alone => exact ⟨_, alone, shown⟩
  | operand alone =>
    obtain ⟨line, shown⟩ := shown _ List.mem_cons_self
    exact ⟨_, alone, shown.conditioned⟩
  | arrayLength receiver laid => exact ⟨_, .arrayLength receiver laid, shown⟩
  | property receiver target laid => exact ⟨_, .property receiver target laid, shown⟩
  | call receiver same arguments passed target count laid =>
    exact ⟨_, .call receiver same arguments passed target count laid, shown⟩
  | _ => cases safe

theorem next_of_null {p : Program H} {line offset : Nat} {past : UInt16} {body : Code}
    (held : p.chunk.Holds offset ((line, .wide .jumpIfNull past) :: body)) (size : past.toNat = body.size)
    (env : Environment H) (stack : List (Value H)) :
    Next p env ⟨.null :: stack, offset⟩
      ⟨.null :: stack, offset + Code.size ((line, .wide .jumpIfNull past) :: body)⟩ := by
  have taken : step p env (.wide .jumpIfNull past) ⟨.null :: stack, offset⟩ = _ := Runs.jump_step rfl past _
  refine ⟨_, held.1, by simp, taken.trans ?_⟩
  have total : offset + Code.size ((line, .wide .jumpIfNull past) :: body) = offset + 3 + past.toNat := by
    rw [Code.size_cons, size, Instr.size]
    omega
  rw [total]
  rfl

end Runs

/-- Null-safe access to a member. Its type is no primitive but for the length of an array, and then, unless the
method returns nothing, it may stand to the left of `?:`. Where the receiver is null, so is the access; wherever it
stands in a program, the code that follows the receiver is passed in one step, with the null left on the stack.
An operator that takes it as a primitive unboxes it first. -/
theorem Expr.safe_access [HostObject H] {ctx : Context H} {access e : Expr} {t : Typed H}
    (safe : access.safeReceiver? = some e) (resolved : (access.resolve ctx .blank).1 = .ok t) :
    ∃ r, (e.resolve ctx .blank).1 = .ok r ∧
      (t.type.isPrimitive = true ↔ r.type.isArray = true ∧ ∃ span, access = .property span e "length" true) ∧
      (∀ span right s, (right.resolve ctx .blank).1 = .ok s → s.type.isVoid = false →
        ((∃ u, ((Expr.elvis span access right).resolve ctx .blank).1 = .ok u) ↔
          t.type.isPrimitive = false ∧ t.type.isVoid = false)) ∧
      (∀ env, r.eval ctx.catalog env = .ok .null → t.eval ctx.catalog env = .ok .null) ∧
      ∀ (whole : Expr) (p : Program H) (root : Typed H), whole.compile ctx = .ok p →
        (whole.resolve ctx .blank).1 = .ok root → t ∈ root.nodes →
        (∃ code, Layout ctx.catalog p.tables t (.closed code) ∧ p.chunk.Shows code) ∧
        (∀ code offset, Layout ctx.catalog p.tables t (.closed code) → p.chunk.Holds offset code →
          ∃ a rest, code = a ++ rest ∧ Layout ctx.catalog p.tables r (.closed a) ∧
            ∀ env stack, Next p env ⟨.null :: stack, offset + a.size⟩ ⟨.null :: stack, offset + code.size⟩) ∧
        ∀ w ∈ root.nodes, t ∈ w.primitiveOperands → t.type.isPrimitive = false →
          ∃ d, Layout ctx.catalog p.tables w d ∧ d.Stands p.chunk ∧ d.Unboxes ctx.catalog p.tables t := by
  obtain ⟨r, receiver, isSafe, primitive⟩ := Expr.safe_resolve safe resolved
  refine ⟨r, receiver, primitive, fun span right s => Expr.resolve_elvis_iff resolved,
    fun env => isSafe.eval_null, ?_⟩
  intro whole p root compiled isRoot isNode
  have placed := Expr.compile_places compiled isRoot
  refine ⟨isSafe.stands (placed t isNode).2, fun code offset layout held => ?_, fun w inside isOperand other => ?_⟩
  · obtain ⟨a, line, past, body, before, size, rfl⟩ := isSafe.code layout
    refine ⟨a, _, rfl, before, fun env stack => ?_⟩
    rw [Code.size_append, ← Nat.add_assoc]
    exact next_of_null (Chunk.holds_append.mp held).2 size env stack
  · obtain ⟨typed, d, layout, stands⟩ := placed w inside
    exact ⟨d, layout, stands, layout.unboxes t isOperand (typed.isBoxed t isOperand other)⟩

/-- The access `order?.total()` to a number. -/
def totalAccess : Expr := .call default (.name default "order") "total" [] true

/-- The expression `order?.total() > 5`. -/
def largeExpr : Expr := .relational default .gt totalAccess (.literal default (.int 5))

theorem totalAccess_safe : ∃ r t p root, (totalAccess.resolve orderContext .blank).1 = .ok t ∧
    ((Expr.name default "order").resolve orderContext .blank).1 = .ok r ∧ t.type.isPrimitive = false ∧
    (∃ u, ((Expr.elvis default totalAccess (.literal default (.int 0))).resolve orderContext .blank).1 = .ok u) ∧
    (∀ env, r.eval orderContext.catalog env = .ok .null → t.eval orderContext.catalog env = .ok .null) ∧
    largeExpr.compile orderContext = .ok p ∧ (largeExpr.resolve orderContext .blank).1 = .ok root ∧
    t ∈ root.nodes ∧ t ∈ root.primitiveOperands ∧
    (∃ code, Layout orderContext.catalog p.tables t (.closed code) ∧ p.chunk.Shows code) ∧
    (∀ code offset, Layout orderContext.catalog p.tables t (.closed code) → p.chunk.Holds offset code →
      ∃ a rest, code = a ++ rest ∧ Layout orderContext.catalog p.tables r (.closed a) ∧
        ∀ env stack, Next p env ⟨.null :: stack, offset + a.size⟩ ⟨.null :: stack, offset + code.size⟩) ∧
    ∃ d, Layout orderContext.catalog p.tables root d ∧ d.Stands p.chunk ∧
      d.Unboxes orderContext.catalog p.tables t := by
  have type : (totalAccess.resolve orderContext .blank).1.toOption.map Typed.type = some (.boxed .int) := by
    decide +kernel
  have succeeds : (largeExpr.compile orderContext).toOption.isSome = true := by decide +kernel
  obtain ⟨t, isAccess, isNumber⟩ := Option.map_eq_some_iff.mp type
  obtain ⟨p, compiled⟩ := Option.isSome_iff_exists.mp succeeds
  have first : totalAccess.value orderContext = .ok t :=
    Expr.value_ok.mpr ⟨toOption_some isAccess, by rw [isNumber]; rfl⟩
  have second : (Expr.literal default (.int 5)).value orderContext = .ok (.literal 0 (.int 5)) := rfl
  have root : (largeExpr.resolve orderContext .blank).1 = .ok (.ordering 0 .gt .int t (.literal 0 (.int 5))) := by
    rw [largeExpr, Expr.resolve_relational, first, ok_bind, second, ok_bind, Resolution.relational, isNumber]
    rfl
  have isNode : t ∈ (Typed.ordering 0 .gt .int t (.literal 0 (.int 5))).nodes :=
    Typed.mem_nodes_of_child List.mem_cons_self t.mem_nodes
  obtain ⟨r, receiver, _, accepted, evals, stands⟩ := Expr.safe_access rfl (toOption_some isAccess)
  obtain ⟨here, jump, unboxes⟩ := stands largeExpr p _ (toOption_some compiled) root isNode
  have notPrimitive : t.type.isPrimitive = false := by rw [isNumber]; rfl
  have hasValue : t.type.isVoid = false := by rw [isNumber]; rfl
  refine ⟨r, t, p, _, toOption_some isAccess, receiver, notPrimitive, ?_, evals, toOption_some compiled, root, isNode,
    List.mem_cons_self, here, jump, unboxes _ (Typed.mem_nodes _) List.mem_cons_self notPrimitive⟩
  exact (accepted default (.literal default (.int 0)) (.literal 0 (.int 0)) rfl rfl).mpr ⟨notPrimitive, hasValue⟩

def marksContext : Context Record where
  catalog := ⟨[]⟩
  scope := (({} : Declarations Record).parameter "marks" (.array .int)).scope

/-- The expression `marks?.length`. -/
def lengthExpr : Expr := .property default (.name default "marks") "length" true

/-- The length of an array that is missing is null although its type is primitive, and `?:` refuses it. -/
theorem lengthExpr_primitive : ∃ p, lengthExpr.compile marksContext = .ok p ∧ p.type = .int ∧
    p.run { argument := fun _ => some .null } = .ok .null ∧
    ¬ ∃ u, ((Expr.elvis default lengthExpr (.literal default (.int 0))).resolve marksContext .blank).1 = .ok u := by
  have runs : ((lengthExpr.compile marksContext).toOption.map fun p =>
      (p.type, (p.run { argument := fun _ => some .null }).toOption.map Value.isNull)) = some (.int, some true) := by
    decide +kernel
  have refused : ((Expr.elvis default lengthExpr (.literal default (.int 0))).resolve marksContext
      .blank).1.toOption.isSome = false := by decide +kernel
  obtain ⟨p, compiled, same⟩ := Option.map_eq_some_iff.mp runs
  obtain ⟨v, ran, isNull⟩ := Option.map_eq_some_iff.mp (Prod.ext_iff.mp same).2
  cases Value.eq_null isNull
  refine ⟨p, toOption_some compiled, (Prod.ext_iff.mp same).1, toOption_some ran, ?_⟩
  rintro ⟨u, accepted⟩
  rw [accepted] at refused
  cases refused

end TypedExpr
