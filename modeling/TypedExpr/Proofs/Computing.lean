import TypedExpr.Operation.Conversion
import TypedExpr.Proofs.Composition
import TypedExpr.Proofs.Execution
/-!
# What pieces of code compute

`Computes` relates a piece of code, wherever it stands in a program, to the stack it leaves or the error it
fails with. Its rules follow the ways in which code is put together: one piece after another, jumps over a
piece, and branches. The operations of the machine do what the operators on values do.
-/

namespace TypedExpr

open Machine Operation

variable {H : Type} [HostObject H]

/-- From wherever it stands in the program, the code turns the stack into that of the result, or fails as the
result does. -/
def Computes (p : Program H) (env : Environment H) (code : Code) (stack : List (Value H))
    (result : Except RunError (List (Value H))) : Prop :=
  ∀ offset, Runs p env (fun _ _ => True) (fun e => result = .error e) offset code stack
    fun stack' => result = .ok stack'

namespace Computes

variable {p : Program H} {env : Environment H} {stack : List (Value H)} {line : Nat}

theorem nil : Computes p env [] stack (.ok stack) := fun _ => .nil rfl

theorem append {α : Type} {a b : Code} {x : Except RunError α} {g : α → List (Value H)}
    {f : α → Except RunError (List (Value H))} (first : Computes p env a stack (x.map g))
    (second : ∀ v, x = .ok v → Computes p env b (g v) (f v)) : Computes p env (a ++ b) stack (x >>= f) := by
  intro offset
  cases x with
  | error e => exact (first offset).append fun stack' impossible => nomatch impossible
  | ok v =>
    refine ((first offset).mono (fun _ => id) fun e impossible => nomatch impossible).append ?_
    intro stack' same
    cases same
    exact second v rfl _

theorem instr {i : Instr} {result : Except RunError (List (Value H))} (goesOn : i ≠ .bare .return)
    (stepped : ∀ offset, step p env i ⟨stack, offset⟩ = result.map fun stack' => ⟨stack', offset + i.size⟩) :
    Computes p env [(line, i)] stack result := by
  intro offset
  refine .instr goesOn trivial ?_ ?_
  · intro e h
    rw [stepped] at h
    cases result <;> cases h
    rfl
  · intro s h
    rw [stepped] at h
    obtain ⟨stack', rfl, rfl⟩ := map_ok h
    exact ⟨rfl, rfl⟩

theorem bare {op : Opcode} {result : Except RunError (List (Value H))} (goesOn : op ≠ .return)
    (computed : runBare env op stack = result) : Computes p env (Code.ofOps line [op]) stack result := by
  refine instr (by simpa using goesOn) fun offset => ?_
  simp only [step, computed]
  cases result <;> rfl

theorem after {op : Opcode} {stack' : List (Value H)} {code : Code} {result : Except RunError (List (Value H))}
    (goesOn : op ≠ .return) (computed : runBare env op stack = .ok stack')
    (rest : Computes p env code stack' result) : Computes p env (Code.ofOps line [op] ++ code) stack result :=
  append (x := .ok ()) (g := fun _ => stack') (bare goesOn computed) fun _ _ => rest

theorem wide {op : Opcode} {n : UInt16} {result : Except RunError (List (Value H))} (notJump : isJump op = false)
    (computed : runWide p env op n.toNat stack = result) : Computes p env [(line, .wide op n)] stack result := by
  refine instr (by simp) fun offset => ?_
  simp only [step, notJump, Bool.false_eq_true, if_false, computed]
  cases result <;> rfl

theorem skip {op : Opcode} {n : UInt16} {body : Code} {result whole : Except RunError (List (Value H))}
    (isJump : isJump op = true) (size : n.toNat = body.size) (passed : Computes p env body stack result)
    (computed : (jumps op stack >>= fun taken => if taken then .ok stack else result) = whole) :
    Computes p env ((line, .wide op n) :: body) stack whole := by
  intro offset
  subst computed
  refine .skip isJump size trivial ?_ ?_ ?_
  · intro e h
    rw [h]
    rfl
  · intro h
    rw [h]
    rfl
  · intro h
    rw [h]
    exact passed _

theorem branch {op : Opcode} {n past : UInt16} {first second : Code}
    {result result' whole : Except RunError (List (Value H))} (isJump : isJump op = true)
    (size : n.toNat = first.size + 3) (pastSize : past.toNat = second.size)
    (passed : Computes p env first stack result) (taken : Computes p env second stack result')
    (computed : (jumps op stack >>= fun isTaken => if isTaken then result' else result) = whole) :
    Computes p env ((line, .wide op n) :: (first ++ (line, .wide .jump past) :: second)) stack whole := by
  intro offset
  subst computed
  refine .branch isJump size pastSize trivial (fun _ => trivial) ?_ ?_ ?_
  · intro e h
    rw [h]
    rfl
  · intro h
    rw [h]
    exact taken _
  · intro h
    rw [h]
    exact passed _

end Computes

section Operators

open Generation

variable {env : Environment H} {v a b : Value H} {stack : List (Value H)} {α : Type}

omit [HostObject H] in
theorem unary_cons (read : Value H → Except RunError α) (f : α → Value H) :
    unary read f (v :: stack) = ((read v).map f).map (· :: stack) := by
  simp only [unary]
  cases read v <;> rfl

omit [HostObject H] in
theorem binaryM_cons (read : Value H → Except RunError α) (f : α → α → Except RunError (Value H)) :
    binaryM read f (b :: a :: stack) = (read a >>= fun x => read b >>= fun y => f x y).map (· :: stack) := by
  simp only [binaryM, map_bind, bind_pure_map]

theorem runBare_arithmetic {op : ArithmeticOp} {kind : Kind} {o : Opcode}
    (found : arithmeticOp? op kind = some o) :
    runBare env o (b :: a :: stack) = (arithmetic op kind a b).map (· :: stack) := by
  cases op <;> cases kind <;> cases found <;> exact binaryM_cons _ _

theorem runBare_negation {kind : Kind} {o : Opcode} (found : negationOp? kind = some o) :
    runBare env o (v :: stack) = (negate kind v).map (· :: stack) := by
  cases kind <;> cases found <;> exact unary_cons _ _

theorem runBare_relation {op : RelationalOp} {kind : Kind} {o : Opcode} (found : relationalOp? op kind = some o) :
    runBare env o (b :: a :: stack) = (order op kind a b).map (· :: stack) := by
  cases op <;> cases kind <;> cases found <;> exact binaryM_cons _ _

theorem runBare_widening {source target : Kind} {o : Opcode} (found : source.wideningOp? target = some o) :
    runBare env o (v :: stack) = (widen source target v).map (· :: stack) := by
  cases source <;> cases target <;> cases found <;> exact unary_cons _ _

theorem widen_of_none {source target : Kind} (none : source.wideningOp? target = .none) :
    widen source target v = .ok v := by
  cases source <;> cases target <;> first | rfl | cases none

theorem runBare_unbox : runBare env .unbox (v :: stack) = (unboxed v).map (· :: stack) := by
  cases v <;> rfl

theorem runBare_not : runBare env .not (v :: stack) = ((asBool v).map fun b => .bool !b).map (· :: stack) :=
  unary_cons _ _

theorem runBare_eqValue : runBare env .eqValue (b :: a :: stack) = .ok (.bool (a.equals b) :: stack) := rfl

theorem runBare_getThis : runBare env .getThis stack =
    (env.this.elim (Except.error .missingThis) .ok).map (· :: stack) := by
  rcases env with ⟨argument, bean, property, this⟩
  cases this <;> rfl

theorem runBare_getEnv : runBare env .getEnv (v :: stack) = ((asString "environment key" v).map fun key =>
    (env.property key).elim .null .string).map (· :: stack) := unary_cons _ _

theorem runBare_index : runBare env .index (b :: a :: stack) = (asInt b >>= item a).map (· :: stack) := by
  rw [map_bind]
  show (asInt b >>= fun n => item a n >>= fun v => pure (v :: stack)) = _
  simp only [bind_pure_map]

theorem runBare_mapGet : runBare env .mapGet (b :: a :: stack) = (entry a b).map (· :: stack) :=
  bind_pure_map _ _

theorem runBare_arrayLength : runBare env .arrayLength (v :: stack) = (arrayLength v).map (· :: stack) :=
  bind_pure_map _ _

omit [HostObject H] in
theorem takeTop_append (values taken stack : List (Value H)) :
    takeTop values.length taken (values ++ stack) = .ok (values.reverse ++ taken, stack) := by
  induction values generalizing taken with
  | nil => rfl
  | cons v rest ih => simp [takeTop, ih]

omit [HostObject H] in
/-- The values that were pushed last come off together, in the order in which they were pushed. -/
theorem takeTop_pushed {n : Nat} {values : List (Value H)} (count : values.length = n) (stack : List (Value H)) :
    takeTop n [] (values.reverse ++ stack) = .ok (values, stack) := by
  have taken := takeTop_append values.reverse [] stack
  rwa [List.length_reverse, count, List.reverse_reverse, List.append_nil] at taken

theorem isJump_exitOp (op : LogicalOp) : isJump (exitOp op) = true := by cases op <;> rfl

omit [HostObject H] in
theorem constantType_of_names {p : Program H} {n : UInt16} {t : Ty} (entry : p.tables.Names n t) :
    constantType p n.toNat = .ok t := by
  rw [Tables.Names] at entry
  simp [constantType, entry, Constant.type?]

omit [HostObject H] in
theorem function_of_links {p : Program H} {f : UInt16} {m : Method H} (target : p.tables.Links f m) :
    ∃ entry, p.tables.linked? m = some entry ∧ function p f.toNat = .ok entry := by
  obtain ⟨entry, at_f, linked⟩ := target
  exact ⟨entry, linked, by simp [function, at_f]⟩

variable {p : Program H} {offset : Nat} {f : UInt16} {n : UInt8} {entry : Method H} {args : List (Value H)}

theorem step_callMethod {receiver : Value H} (found : function p f.toNat = .ok entry)
    (count : args.length = n.toNat) :
    step p env (.call .callMethod f n) ⟨args.reverse ++ receiver :: stack, offset⟩ =
      (invoke entry receiver args).map fun v => ⟨v :: stack, offset + 4⟩ := by
  simp only [step, runCall, takeTop_pushed count, ok_bind, found]
  cases invoke entry receiver args <;> rfl

theorem step_callStatic (found : function p f.toNat = .ok entry) (count : args.length = n.toNat) :
    step p env (.call .callStatic f n) ⟨args.reverse ++ stack, offset⟩ =
      (entry.native .null args).map fun v => ⟨v :: stack, offset + 4⟩ := by
  simp only [step, runCall, takeTop_pushed count, ok_bind, found]
  cases entry.native .null args <;> rfl

end Operators

namespace Computes

variable {p : Program H} {env : Environment H} {v : Value H} {stack : List (Value H)} {line : Nat}

theorem unbox : Computes p env (Code.ofOps line [.unbox]) (v :: stack) ((unboxed v).map (· :: stack)) :=
  bare (by simp) runBare_unbox

theorem widening {source target : Kind} :
    Computes p env (Code.ofOps line (source.wideningOp? target).toList) (v :: stack)
      ((widen source target v).map (· :: stack)) := by
  cases found : source.wideningOp? target with
  | none =>
    rw [widen_of_none found]
    exact nil
  | some o => exact bare (wideningOp?_plain found).2 (runBare_widening found)

theorem conversion {conversion : Conversion} :
    Computes p env (Code.ofOps line conversion.code) (v :: stack) ((convert conversion v).map (· :: stack)) := by
  cases conversion with
  | identity | nullToReference | upcast | boxing => exact nil
  | unboxing => exact unbox
  | widening => exact widening
  | unboxAndWiden source target =>
    have split : Code.ofOps line (Conversion.unboxAndWiden source target).code =
        Code.ofOps line [.unbox] ++ Code.ofOps line (source.wideningOp? target).toList := rfl
    rw [split, convert, map_bind]
    exact unbox.append fun _ _ => widening

theorem coercion {source : Ty} {target : Kind} :
    Computes p env (Code.ofOps line (source.coercionCode target)) (v :: stack)
      ((coerce source target v).map (· :: stack)) := by
  have widened (w : Value H) :
      Computes p env (Code.ofOps line (source.numericKind?.bind fun k => k.wideningOp? target).toList)
        (w :: stack) ((source.numericKind?.elim (.ok w) fun kind => widen kind target w).map (· :: stack)) := by
    cases source.numericKind? with
    | none => exact nil
    | some kind => exact widening
  have coerced : coerce source target v = (if source.isBoxed then unboxed v else .ok v) >>= fun w =>
      source.numericKind?.elim (.ok w) fun kind => widen kind target w := by
    unfold coerce
    cases source.numericKind? <;> cases source.isBoxed <;> rfl
  rw [Ty.coercionCode, Code.ofOps_append, coerced]
  split
  · rw [map_bind]
    exact unbox.append fun w _ => widened w
  · exact widened v

end Computes

/-- The code leaves the value of the result on top of the stack. -/
def Pushes (p : Program H) (env : Environment H) (code : Code) (result : Except RunError (Value H)) : Prop :=
  ∀ stack, Computes p env code stack (result.map (· :: stack))

namespace Pushes

variable {p : Program H} {env : Environment H} {code more : Code} {line : Nat}
  {result : Except RunError (Value H)} {f : Value H → Except RunError (Value H)}

theorem bind (pushes : Pushes p env code result)
    (next : ∀ v stack, Computes p env more (v :: stack) ((f v).map (· :: stack))) :
    Pushes p env (code ++ more) (result >>= f) := by
  intro stack
  rw [map_bind]
  exact (pushes stack).append fun v _ => next v stack

theorem condition {t : Ty} (pushes : Pushes p env code result) :
    Pushes p env (Generation.condition line code t.isBoxed) (result >>= Evaluation.condition t) := by
  unfold Generation.condition
  cases isBoxed : t.isBoxed with
  | true =>
    refine pushes.bind fun v stack => ?_
    rw [Evaluation.condition, isBoxed]
    exact .unbox
  | false =>
    have unchanged : (result >>= Evaluation.condition t) = result := by
      cases result <;> simp [Evaluation.condition, isBoxed, Bind.bind, Except.bind]
    rw [unchanged]
    exact pushes

theorem conditionThen {t : Ty} {stack : List (Value H)} {g : Value H → Except RunError (List (Value H))}
    (pushes : Pushes p env code result) (next : ∀ v, Computes p env more (v :: stack) (g v)) :
    Computes p env (Generation.condition line code t.isBoxed ++ more) stack
      (result >>= fun v => Evaluation.condition t v >>= g) := by
  rw [← bind_assoc]
  exact (pushes.condition stack).append fun v _ => next v

end Pushes
end TypedExpr
