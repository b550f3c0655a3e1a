import TypedExpr.Proofs.Faults
import TypedExpr.Proofs.History
/-!
# Resolution makes generation total

The code of a resolved expression is generated unless a number does not fit its operand: the distance of a jump, an
index of a table, a count of operands or of arguments (`Generate.Fits.draft`). All else that generation could miss is
settled by resolution. So a node that was resolved is emitted with every context over the same catalog, or an operand
overflows (`Expr.emitCode_total`). A node that remembers an outcome over another catalog may not be emitted at all
(`rideExpr_not_emitted`).
-/

namespace TypedExpr

variable {H : Type}

/-- A number does not fit its operand. -/
inductive InternalFault.Overflow : InternalFault → Prop where
  | operand {what : String} {value : Nat} (beyond : maxOperand < value) : Overflow (.operandOverflow what value)
  | call {arguments : Nat} (beyond : 255 < arguments) : Overflow (.callOverflow arguments)
  | jump {distance : Nat} (beyond : maxOperand < distance) : Overflow (.jumpOverflow distance)

/-- A computation that fails only where a number does not fit its operand. -/
def Encodes {α : Type} (x : Except InternalFault α) : Prop := ∀ fault, x = .error fault → fault.Overflow

theorem InternalFault.Wide.overflow {fault : InternalFault} (wide : fault.Wide) : fault.Overflow := by
  cases wide with
  | operand beyond => exact .operand beyond
  | jump beyond => exact .jump beyond

/-- Generation that fails only where a number does not fit its operand, and yields what has the property. -/
structure Generate.Fits {α : Type} (work : Generate H α) (property : α → Prop) : Prop where
  yields : ∀ {T U : Tables H} {a : α}, work T = .ok (a, U) → property a
  encodes : ∀ T, Encodes (work T)

theorem Generate.Fits.part {t : Typed H} {draft : Generate H Draft} {P : Draft → Prop} (fits : draft.Fits P) :
    (Generation.part t draft).Fits fun _ => True where
  yields _ := trivial
  encodes T := by
    have below : draft.Faults InternalFault.Overflow := fun T fault failed => .inr (fits.encodes T fault failed)
    intro fault failed
    exact (below.part T fault failed).elim (·.overflow) id

theorem Ty.commonKind?_numeric {l r : Ty} {common : Kind} (meet : l.commonKind? r = some common) :
    common.isNumeric = true := by
  obtain ⟨a, b, isNumber, _, widens, _⟩ := commonKind?_widens meet
  have number := (Option.filter_eq_some_iff.mp isNumber).2
  revert number widens
  cases a <;> cases common <;> decide

namespace Generation

/-- Powers are computed in a kind of their own, which has the operation. -/
theorem arithmeticOp?_isSome {op : ArithmeticOp} {common : Kind} (number : common.isNumeric = true) :
    (arithmeticOp? op
      (if op = .pow then (if common.isIntegral then .long else .double) else common)).isSome = true := by
  revert number
  cases op <;> cases common <;> decide

theorem relationalOp?_isSome {op : RelationalOp} {common : Kind} (number : common.isNumeric = true) :
    (relationalOp? op common).isSome = true := by
  revert number
  cases op <;> cases common <;> decide

end Generation

namespace Catalog

variable (c : Catalog H)

theorem isAssignable_self (t : Ty) : c.isAssignable t t = true := by
  simp [isAssignable, conversion?]

theorem isAssignable_kind {t : Ty} {k target : Kind} (isNumber : t.numericKind? = some k)
    (widens : k.widensTo target = true) : c.isAssignable t (.primitive target) = true := by
  obtain ⟨isKind, number⟩ := Option.filter_eq_some_iff.mp isNumber
  unfold isAssignable conversion?
  split
  · rfl
  · cases t with
    | primitive _ =>
      cases isKind
      simp [conversionOfDistinct?, number, widens]
    | boxed _ =>
      cases isKind
      by_cases same : k = target
      · simp [conversionOfDistinct?, same]
      · simp [conversionOfDistinct?, same, number, widens]
    | _ => cases isKind

theorem isSubtype_self (t : Ty) : c.isSubtype t t = true := by
  cases t <;> simp [isSubtype]

theorem isAssignable_box {t : Ty} : c.isAssignable t t.box = true := by
  cases t with
  | primitive k =>
    simp [isAssignable, conversion?, Ty.box, conversionOfDistinct?, isSubtype_self]
  | _ => exact c.isAssignable_self _

theorem isAssignable_null {t : Ty} (value : t.isVoid = false) : c.isAssignable .null t.box = true := by
  cases t with
  | void => cases value
  | null => exact c.isAssignable_self _
  | _ => simp [isAssignable, conversion?, Ty.box, conversionOfDistinct?, Ty.isReference]

theorem isAssignable_object {t : Ty} (value : t.isVoid = false) : c.isAssignable t .object = true := by
  unfold isAssignable conversion?
  split
  · rfl
  · cases t with
    | void => cases value
    | _ => simp_all [conversionOfDistinct?, Ty.object, Ty.ofName, isSubtype, Ty.isReference, Ty.isObject, Ty.isNamed]

end Catalog

/-- Both branches convert to the type in which they meet. -/
theorem Resolution.commonType_assignable (c : Catalog H) {a b : Ty} (aValue : a.isVoid = false)
    (bValue : b.isVoid = false) :
    c.isAssignable a (commonType c a b) = true ∧ c.isAssignable b (commonType c a b) = true := by
  unfold commonType
  split
  next same =>
    subst same
    exact ⟨c.isAssignable_self a, c.isAssignable_self a⟩
  split
  next kind meet _ =>
    obtain ⟨k, l, isNumber, isNumber', widens, widens'⟩ := commonKind?_widens meet
    exact ⟨c.isAssignable_kind isNumber widens, c.isAssignable_kind isNumber' widens'⟩
  split
  next isNull =>
    cases a with
    | null => exact ⟨c.isAssignable_null bValue, c.isAssignable_box⟩
    | _ => cases isNull
  split
  next isNull =>
    cases b with
    | null => exact ⟨c.isAssignable_box, c.isAssignable_null aValue⟩
    | _ => cases isNull
  split
  next assignable => exact ⟨c.isAssignable_self a, assignable⟩
  split
  next assignable => exact ⟨assignable, c.isAssignable_self b⟩
  exact ⟨c.isAssignable_object aValue, c.isAssignable_object bValue⟩

/-- Each branch converts to the type of the whole. -/
theorem Typed.WellTyped.branch_assignable {c : Catalog H} {t : Typed H} {type : Ty} {branches : List (Typed H)}
    (typed : t.WellTyped c) (isChoice : t.branches? = some (type, branches)) :
    ∀ u ∈ branches, c.isAssignable u.type type = true := by
  cases typed with
  | ternary _ _ _ _ thenValue elseValue =>
    cases isChoice
    exact forall_mem_pair.mpr (Resolution.commonType_assignable c thenValue elseValue)
  | @elvis line l r _ _ reference rightValue =>
    have leftValue : l.type.isVoid = false := by
      cases isType : l.type <;> simp_all [Ty.isReference, Ty.isVoid]
    cases isChoice
    exact forall_mem_pair.mpr (Resolution.commonType_assignable c leftValue rightValue)
  | _ => cases isChoice

theorem Typed.WellTyped.chosen {c : Catalog H} {t : Typed H} {s : Selection H} {args : List (Typed H)}
    (typed : t.WellTyped c) (isCall : t.passing? = some (s, args)) : s.ChosenFor c (args.map Typed.type) := by
  cases typed with
  | call _ _ _ _ chosen | staticCall _ _ _ _ chosen | contextCall _ _ chosen =>
    cases isCall
    exact chosen
  | _ => cases isCall

/-- A node as resolution builds it has all that generation looks for. -/
theorem Typed.WellTyped.overflow {c : Catalog H} {t : Typed H} {fault : InternalFault} (typed : t.WellTyped c)
    (raises : t.Raises c fault) : fault.Overflow := by
  cases raises with
  | @numeric _ op kind _ _ missing =>
    cases typed with
    | numeric _ _ meet result =>
      have found : (Generation.arithmeticOp? op kind).isSome = true := by
        rw [result]
        exact Generation.arithmeticOp?_isSome (Ty.commonKind?_numeric meet)
      rw [missing] at found
      cases found
  | negate missing =>
    cases typed with
    | negate _ number =>
      obtain ⟨op, found⟩ := Generation.negationOp?_numeric number
      rw [missing] at found
      cases found
  | @ordering _ op kind _ _ missing =>
    cases typed with
    | ordering _ _ meet =>
      have found : (Generation.relationalOp? op kind).isSome = true :=
        Generation.relationalOp?_isSome (Ty.commonKind?_numeric meet)
      rw [missing] at found
      cases found
  | comparison missing =>
    cases typed with
    | comparison _ _ _ _ _ chosen =>
      -- The method was chosen for one argument, so there is a conversion.
      have one := chosen.passes.length
      rw [List.head?_eq_none_iff.mp missing] at one
      cases one
  | branch isChoice isBranch missing =>
    have assignable := typed.branch_assignable isChoice _ isBranch
    rw [Catalog.isAssignable, missing] at assignable
    cases assignable
  | items isCall _ apart =>
    have same := (typed.chosen isCall).passes.length
    rw [List.length_map] at same
    simp [same] at apart
  | arguments _ beyond => exact .call beyond

/-- The code of a well-typed expression is generated unless a number does not fit its operand. -/
theorem Generate.Fits.draft {c : Catalog H} {t : Typed H} (typed : t.WellTyped c) :
    (t.draft c).Fits fun _ => True where
  yields _ := trivial
  encodes T fault failed := by
    rcases t.draft_faults c T fault failed with wide | ⟨u, isNode, raises⟩
    · exact wide.overflow
    · have below : u.WellTyped c := Typed.nodes_induction (fun _ typed => typed.children) typed u isNode
      exact below.overflow raises

/-- A node that was resolved is emitted with every context over the same catalog, unless a number does not fit its
operand. Earlier calls may have been made on all nodes around, over that catalog. -/
theorem Expr.emitCode_total {ctx ctx' : Context H} {e node : Expr} {path : List Nat} {calls : List (Call H)}
    {t : Typed H} {m : Memo H} (T : Tables H) (sharing : ∀ call ∈ calls, call.context.catalog = ctx.catalog)
    (isNode : e.follow? path = some node)
    (resolved : node.resolve ctx ((e.after calls).follow path) = (.ok t, m)) (catalog : ctx'.catalog = ctx.catalog) :
    (∃ code U, node.emitCode ctx' m T = (.ok (code, U), m)) ∨
      ∃ fault, fault.Overflow ∧ node.emitCode ctx' m T = (.error (.compile (.internal fault)), m) := by
  have reached : (e.after calls).Reached (fun other => other.catalog = ctx.catalog) e := after_reached sharing
  have typed : t.WellTyped ctx'.catalog := by
    have settled := node.resolve_settles ctx _ (Memo.follow_settled reached.settled path)
    rw [catalog]
    exact settled.1 t (by rw [resolved])
  have coherent : m.Coherent node := by
    have before : ((e.after calls).follow path).Coherent node := reached.coherent.follow isNode
    have after : (node.resolve ctx ((e.after calls).follow path)).2.Coherent node := before.resolve
    rwa [resolved] at after
  rw [emitCode_cached coherent (resolve_remembers resolved) T]
  cases generated : Generation.part t (t.draft ctx'.catalog) T with
  | ok result => exact .inl ⟨result.1, result.2, rfl⟩
  | error fault => exact .inr ⟨fault, (Generate.Fits.draft typed).part.encodes T fault generated, rfl⟩

/-- The name stands for an argument that no operand can number. -/
def remoteContext : Context Empty where
  catalog := ⟨[]⟩
  scope := { elements := fun name => [.parameter name 70000 .int], thisType := none, methods := fun _ => [] }

/-- Once it was resolved, the expression is emitted without the name; with the remote argument an operand overflows. -/
theorem priceExpr_emitCode_total :
    (∃ t m code U, priceExpr.resolve priceContext .blank = (.ok t, m) ∧
      priceExpr.emitCode bareContext m .empty = (.ok (code, U), m)) ∧
    ∃ t m fault, priceExpr.resolve remoteContext .blank = (.ok t, m) ∧ fault.Overflow ∧
      priceExpr.emitCode bareContext m .empty = (.error (.compile (.internal fault)), m) := by
  have noCalls (ctx : Context Empty) : ∀ call ∈ ([] : List (Call Empty)), call.context.catalog = ctx.catalog := nofun
  constructor
  · have emits : (priceExpr.emitCode bareContext
        (priceExpr.resolve priceContext .blank).2 .empty).1.toOption.isSome = true := by decide +kernel
    obtain ⟨t, m, resolved⟩ := exists_ok (x := priceExpr.resolve priceContext .blank) (by decide +kernel)
    rw [resolved] at emits
    rcases Expr.emitCode_total .empty (noCalls priceContext) (rfl : priceExpr.follow? [] = some priceExpr) resolved
        (rfl : bareContext.catalog = priceContext.catalog) with ⟨code, U, emitted⟩ | ⟨fault, _, failed⟩
    · exact ⟨t, m, code, U, resolved, emitted⟩
    · rw [failed] at emits
      cases emits
  · have overflows : (priceExpr.emitCode bareContext
        (priceExpr.resolve remoteContext .blank).2 .empty).1.toOption.isSome = false := by decide +kernel
    obtain ⟨t, m, resolved⟩ := exists_ok (x := priceExpr.resolve remoteContext .blank) (by decide +kernel)
    rw [resolved] at overflows
    rcases Expr.emitCode_total .empty (noCalls remoteContext) (rfl : priceExpr.follow? [] = some priceExpr) resolved
        (rfl : bareContext.catalog = remoteContext.catalog) with ⟨code, U, emitted⟩ | ⟨fault, overflow, failed⟩
    · rw [emitted] at overflows
      cases overflows
    · exact ⟨t, m, fault, resolved, overflow, failed⟩

/-- Two catalogs: bicycles are vehicles in one of them. -/
def vehicleContext (isVehicle : Bool) : Context Empty where
  catalog := ⟨[{ name := "Vehicle" },
    { name := "Bicycle", supertypes := if isVehicle then [.ofName "Vehicle"] else [] }]⟩
  scope := ((({} : Declarations Empty).parameter "bicycle" (.ofName "Bicycle")).parameter "vehicle"
    (.ofName "Vehicle")).scope

/-- The expression `true ? bicycle : vehicle`. -/
def rideExpr : Expr :=
  .ternary default (.literal default (.bool true)) (.name default "bicycle") (.name default "vehicle")

/-- Earlier calls over another catalog do harm: the node remembers a type to which a branch converts only there. -/
theorem rideExpr_not_emitted : ∃ t m fault,
    rideExpr.resolve (vehicleContext false) (rideExpr.after [⟨[], .resolve, vehicleContext true⟩]) = (.ok t, m) ∧
    ¬ fault.Overflow ∧
    rideExpr.emitCode (vehicleContext false) m .empty = (.error (.compile (.internal fault)), m) := by
  have fails : ((rideExpr.emitCode (vehicleContext false) (rideExpr.resolve (vehicleContext false)
      (rideExpr.after [⟨[], .resolve, vehicleContext true⟩])).2 .empty).1.map fun _ => ()) =
        .error (.compile (.internal (.noConversion (.ofName "Bicycle") (.ofName "Vehicle")))) := by decide +kernel
  obtain ⟨t, m, resolved⟩ := exists_ok (x := rideExpr.resolve (vehicleContext false)
    (rideExpr.after [⟨[], .resolve, vehicleContext true⟩])) (by decide +kernel)
  have coherent : m.Coherent rideExpr := by
    have after : (rideExpr.resolve (vehicleContext false) _).2.Coherent rideExpr :=
      (rideExpr.after_coherent [⟨[], .resolve, vehicleContext true⟩]).resolve
    rwa [resolved] at after
  rw [resolved] at fails
  refine ⟨t, m, _, resolved, by rintro ⟨⟩, Prod.ext (map_error fails) ?_⟩
  rw [Expr.emitCode_cached coherent (Expr.resolve_remembers resolved)]

end TypedExpr
