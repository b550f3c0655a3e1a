import TypedExpr.Proofs.Placement
/-!
# Why generation fails

Generation fails where a distance, an index or a count is beyond what two bytes hold, or for a node of the expression:
a kind without the operation, a branch without a conversion, a comparison without an argument, arguments that do not
match their conversions, or a call with too many of them (`Typed.Raises`). There are no other causes, whatever the
expression and the tables (`Typed.draft_faults`).
-/

namespace TypedExpr

open Generation

variable {H α β : Type}

/-- A distance, an index or a count is beyond what two bytes hold. -/
inductive InternalFault.Wide : InternalFault → Prop where
  | operand {what : String} {value : Nat} (beyond : maxOperand < value) : Wide (.operandOverflow what value)
  | jump {distance : Nat} (beyond : maxOperand < distance) : Wide (.jumpOverflow distance)

namespace Typed

/-- The selection and the arguments of a call. -/
@[simp] def passing? : Typed H → Option (Selection H × List (Typed H))
  | .call _ _ s _ args | .staticCall _ s args | .contextCall _ s args => some (s, args)
  | _ => none

/-- The type in which branches meet, and the branches. -/
@[simp] def branches? : Typed H → Option (Ty × List (Typed H))
  | .ternary _ t _ yes no => some (t, [yes, no])
  | .elvis _ t l r => some (t, [l, r])
  | _ => none

/-- The faults for which a node itself is the cause. -/
inductive Raises (c : Catalog H) : Typed H → InternalFault → Prop where
  | numeric {line : Nat} {op : ArithmeticOp} {kind : Kind} {l r : Typed H} (missing : arithmeticOp? op kind = none) :
      Raises c (.numeric line op kind l r) (.noInstruction op.symbol kind)
  | negate {line : Nat} {kind : Kind} {e : Typed H} (missing : negationOp? kind = none) :
      Raises c (.negate line kind e) (.noInstruction "-" kind)
  | ordering {line : Nat} {op : RelationalOp} {kind : Kind} {l r : Typed H} (missing : relationalOp? op kind = none) :
      Raises c (.ordering line op kind l r) (.noInstruction op.symbol kind)
  | comparison {line : Nat} {op : RelationalOp} {s : Selection H} {isLeft : Bool} {l r : Typed H}
      (missing : s.conversions.head? = none) : Raises c (.comparison line op s isLeft l r) .comparisonWithoutArgument
  | branch {t u : Typed H} {type : Ty} {branches : List (Typed H)} (isChoice : t.branches? = some (type, branches))
      (isBranch : u ∈ branches) (missing : c.conversion? u.type type = none) : Raises c t (.noConversion u.type type)
  | items {t : Typed H} {s : Selection H} {args : List (Typed H)} {start : Nat}
      (isCall : t.passing? = some (s, args)) (collects : s.varargsStart = some start)
      (apart : (args.drop start).length ≠ (s.conversions.drop start).length) :
      Raises c t (.varargsMismatch (args.drop start).length (s.conversions.drop start).length)
  | arguments {t : Typed H} {s : Selection H} {args : List (Typed H)} (isCall : t.passing? = some (s, args))
      (beyond : 255 < s.arity) : Raises c t (.callOverflow s.arity)

end Typed

/-- A computation that fails only with the faults given, or because something is beyond two bytes. -/
def Faults (own : InternalFault → Prop) (x : Except InternalFault α) : Prop :=
  ∀ fault, x = .error fault → fault.Wide ∨ own fault

namespace Faults

variable {own : InternalFault → Prop} {x : Except InternalFault α}

theorem ok (a : α) : Faults own (.ok a) := by
  intro fault failed
  cases failed

theorem error {fault : InternalFault} (allowed : own fault) : Faults own (.error fault : Except InternalFault α) := by
  intro fault' failed
  cases failed
  exact .inr allowed

theorem map (faults : Faults own x) (f : α → β) : Faults own (x.map f) := fun fault failed =>
  faults fault (map_error failed)

theorem bind {f : α → Except InternalFault β} (first : Faults own x) (second : ∀ a, Faults own (f a)) :
    Faults own (x >>= f) := by
  intro fault failed
  cases x with
  | error fault' =>
    cases failed
    exact first fault rfl
  | ok a => exact second a fault failed

theorem operand (what : String) (n : Nat) : Faults own (operand what n) := by
  intro fault failed
  unfold TypedExpr.operand at failed
  split at failed
  · cases failed
  next beyond =>
    cases failed
    exact .inl (.operand (Nat.lt_of_not_le beyond))

theorem jumpOperand (distance : Nat) : Faults own (jumpOperand distance) := by
  intro fault failed
  unfold TypedExpr.jumpOperand at failed
  split at failed
  · cases failed
  next beyond =>
    cases failed
    exact .inl (.jump (Nat.lt_of_not_le beyond))

theorem countInstr (op : Opcode) (what : String) (n : Nat) : Faults own (countInstr op what n) := by
  intro fault failed
  unfold TypedExpr.countInstr at failed
  split at failed
  · cases failed
  next overflow =>
    cases failed
    exact operand what n _ overflow

theorem loadConstant (index : Nat) : Faults own (loadConstant index) := by
  unfold TypedExpr.loadConstant
  split
  · exact ok _
  · exact countInstr .constantWide "constant" index

theorem callInstr (op : Opcode) (function : UInt16) {count : Nat} (beyond : 255 < count → own (.callOverflow count)) :
    Faults own (callInstr op function count) := by
  unfold TypedExpr.callInstr
  by_cases fits : count < 256
  · rw [if_pos fits]
    exact ok _
  · rw [if_neg fits]
    exact error (beyond (by omega))

theorem function (T : Tables H) (m : Method H) : Faults own (T.function m) := by
  intro fault failed
  unfold Tables.function at failed
  split at failed
  · cases failed
  · split at failed
    · cases failed
    next overflow =>
      cases failed
      exact operand "function" _ _ overflow

theorem skipping (line : Nat) (op : Opcode) (body : Code) : Faults own (skipping line op body) :=
  (jumpOperand body.size).map _

theorem guarded (line : Nat) (nullSafe : Bool) (body : Code) : Faults own (guarded line nullSafe body) := by
  unfold Generation.guarded
  split
  · exact skipping line .jumpIfNull body
  · exact ok body

theorem layChain (line : Nat) (exit : Opcode) (size : Nat) (codes : List Code) :
    Faults own (layChain line exit size codes) := by
  induction codes generalizing size with
  | nil => exact ok []
  | cons first rest ih =>
    cases rest with
    | nil => exact ok first
    | cons second rest =>
      refine (jumpOperand _).bind fun distance => ?_
      exact (ih _).bind fun code => ok _

theorem finish (line : Nat) (d : Draft) : Faults own (finish line d) := by
  cases d with
  | closed code => exact ok code
  | chain op operands => exact layChain line (exitOp op) _ _
  | concat count code => exact (countInstr .concat "concat operand" count).map _

theorem chainOperands (op : LogicalOp) (t : Typed H) (d : Draft) : Faults own (chainOperands op t d) := by
  unfold Generation.chainOperands
  split
  · split
    · exact ok _
    · exact (finish t.line _).map _
  · exact (finish t.line _).map _

theorem concatOperands (t : Typed H) (d : Draft) : Faults own (concatOperands t d) := by
  unfold Generation.concatOperands
  split
  · exact ok _
  · exact (finish t.line _).map _

theorem kindOp (line : Nat) {symbol : String} {kind : Kind} {op? : Option Opcode}
    (missing : op? = none → own (.noInstruction symbol kind)) : Faults own (kindOp line symbol kind op?) := by
  cases op? with
  | some op => exact ok _
  | none => exact error (missing rfl)

theorem convert {c : Catalog H} (line : Nat) {source target : Ty}
    (missing : c.conversion? source target = none → own (.noConversion source target)) :
    Faults own (convert c line source target) := by
  unfold Generation.convert
  cases found : c.conversion? source target with
  | some conversion => exact ok _
  | none => exact error (missing found)

theorem passArguments (line : Nat) {s : Selection H} {codes : List Code}
    (apart : ∀ start, s.varargsStart = some start → (codes.drop start).length ≠ (s.conversions.drop start).length →
      own (.varargsMismatch (codes.drop start).length (s.conversions.drop start).length)) :
    Faults own (passArguments line s codes) := by
  unfold Generation.passArguments
  cases collects : s.varargsStart with
  | none => exact ok _
  | some start =>
    dsimp only
    split
    next differ => exact error (apart start collects differ)
    · exact (countInstr .newArray "array element" _).map _

end Faults

/-- Generation that fails only with the faults given, or because something is beyond two bytes. -/
def Generate.Faults (own : InternalFault → Prop) (work : Generate H α) : Prop := ∀ T, TypedExpr.Faults own (work T)

namespace Generate.Faults

variable {own : InternalFault → Prop}

theorem pure (a : α) : Generate.Faults own (Pure.pure a : Generate H α) := fun _ => .ok _

theorem lift {x : Except InternalFault α} (faults : TypedExpr.Faults own x) :
    Generate.Faults own (liftExcept x : Generate H α) := by
  intro T fault failed
  cases x with
  | ok a => cases failed
  | error fault' =>
    cases failed
    exact faults fault rfl

theorem bind_of {x : Generate H α} {f : α → Generate H β} (first : x.Faults own)
    (second : ∀ {T U a}, x T = .ok (a, U) → (f a).Faults own) : (x >>= f).Faults own := by
  intro T fault failed
  rcases bind_error failed with failed | ⟨a, U, generated, failed⟩
  · exact first T fault failed
  · exact second generated U fault failed

theorem bind {x : Generate H α} {f : α → Generate H β} (first : x.Faults own) (second : ∀ a, (f a).Faults own) :
    (x >>= f).Faults own := first.bind_of fun {_ _ a} _ => second a

theorem choose {condition : Prop} [Decidable condition] {x y : Generate H α} (yes : x.Faults own)
    (no : y.Faults own) : (if condition then x else y).Faults own := by
  split
  · exact yes
  · exact no

/-- Entries are added to the tables without a limit of their own. -/
theorem modifyGet (f : Tables H → α × Tables H) :
    Generate.Faults own (MonadStateOf.modifyGet f : Generate H α) := fun _ => .ok _

theorem part {t : Typed H} {draft : Generate H Draft} (below : draft.Faults own) :
    (Generation.part t draft).Faults own := below.bind fun d => lift (.finish t.line d)

theorem load (line : Nat) (k : Constant) : Generate.Faults own (Generation.load (H := H) line k) :=
  (modifyGet _).bind fun index => (lift (.loadConstant index)).bind fun _ => pure _

theorem literal (line : Nat) (v : Literal) : Generate.Faults own (Generation.literal (H := H) line v) := by
  cases v with
  | bool | null => exact pure _
  | long | float | double | string => exact load line _
  | int n =>
    unfold Generation.literal
    exact choose (pure _) (choose (pure _) (load line _))

theorem typeOp (line : Nat) (op : Opcode) (t : Ty) : Generate.Faults own (Generation.typeOp (H := H) line op t) :=
  (modifyGet _).bind fun index => (lift (.countInstr op "constant" index)).bind fun _ => pure _

theorem check (line : Nat) (t : Ty) : Generate.Faults own (Generation.check (H := H) line t) :=
  choose (pure _) (typeOp line .checkCast t)

theorem call (line : Nat) (op : Opcode) (m : Method H) {count : Nat}
    (beyond : 255 < count → own (.callOverflow count)) : (Generation.call line op m count).Faults own := by
  have linked : Generate.Faults own fun tables => tables.function m := fun T => .function T m
  exact linked.bind fun index => (lift (.callInstr op index beyond)).bind fun _ => pure _

theorem pattern (line : Nat) (p : Pattern) : Generate.Faults own (Generation.pattern (H := H) line p) :=
  (modifyGet _).bind fun index => (lift (.countInstr .matches "regex" index)).bind fun _ => pure _

theorem codes {c : Catalog H} {args : List (Typed H)} (each : ∀ t ∈ args, (t.draft c).Faults own) :
    (Typed.codes c args).Faults own := by
  induction args with
  | nil =>
    unfold Typed.codes
    exact pure _
  | cons t ts ih =>
    obtain ⟨first, rest⟩ := List.forall_mem_cons.mp each
    unfold Typed.codes
    exact first.part.bind fun _ => (ih rest).bind fun _ => pure _

end Generate.Faults

theorem Typed.codes_length {c : Catalog H} {args : List (Typed H)} {codes : List Code} {T U : Tables H}
    (generated : Typed.codes c args T = .ok (codes, U)) : codes.length = args.length := by
  induction args generalizing codes T U with
  | nil =>
    unfold Typed.codes at generated
    exact congrArg List.length (Generate.pure_ok generated).1
  | cons t ts ih =>
    unfold Typed.codes at generated
    obtain ⟨code, V, _, generated⟩ := Generate.bind_ok generated
    obtain ⟨rest, W, others, generated⟩ := Generate.bind_ok generated
    rw [(Generate.pure_ok generated).1, List.length_cons, ih others, List.length_cons]

theorem forall_mem_pair {p : α → Prop} {a b : α} : (∀ x ∈ [a, b], p x) ↔ p a ∧ p b := by simp

namespace Generate.Faults

variable {own : InternalFault → Prop} {c : Catalog H} {t : Typed H}

/-- The arguments of a call and its instruction, within any code around them. -/
theorem passed (line : Nat) (op : Opcode) {s : Selection H} {args : List (Typed H)} {f : Code → Code → Generate H α}
    (isCall : t.passing? = some (s, args)) (below : ∀ u ∈ args, (u.draft c).Faults own)
    (here : ∀ fault, t.Raises c fault → own fault) (rest : ∀ a b, (f a b).Faults own) :
    Generate.Faults own (do
      let codes ← Typed.codes c args
      let arguments ← liftExcept (passArguments line s codes)
      let invocation ← Generation.call line op s.method s.arity
      f arguments invocation) := by
  have invoked (arguments : Code) : Generate.Faults own (do
      let invocation ← Generation.call line op s.method s.arity
      f arguments invocation) :=
    (call line op s.method fun beyond => here _ (.arguments isCall beyond)).bind fun _ => rest _ _
  refine (codes below).bind_of fun {_ _ codes} generated => (lift (.passArguments line ?_)).bind invoked
  intro start collects apart
  rw [List.length_drop, Typed.codes_length generated, ← List.length_drop] at apart ⊢
  exact here _ (.items isCall collects apart)

/-- What the code of a node adds to the code of the nodes below. -/
theorem draft_step (below : ∀ u ∈ t.children, (u.draft c).Faults own)
    (here : ∀ fault, t.Raises c fault → own fault) : (t.draft c).Faults own := by
  cases t with
  | literal =>
    unfold Typed.draft
    exact (literal _ _).bind fun _ => pure _
  | numeric =>
    obtain ⟨left, right⟩ := forall_mem_pair.mp below
    unfold Typed.draft
    exact left.part.bind fun _ => right.part.bind fun _ =>
      (lift (.kindOp _ fun missing => here _ (.numeric missing))).bind fun _ => pure _
  | concat =>
    obtain ⟨left, right⟩ := forall_mem_pair.mp below
    unfold Typed.draft
    exact left.bind fun _ => (lift (.concatOperands _ _)).bind fun _ => right.bind fun _ =>
      (lift (.concatOperands _ _)).bind fun _ => pure _
  | negate =>
    have operand := List.forall_mem_singleton.mp below
    unfold Typed.draft
    exact operand.part.bind fun _ =>
      (lift (.kindOp _ fun missing => here _ (.negate missing))).bind fun _ => pure _
  | logical =>
    obtain ⟨left, right⟩ := forall_mem_pair.mp below
    unfold Typed.draft
    exact left.bind fun _ => (lift (.chainOperands _ _ _)).bind fun _ => right.bind fun _ =>
      (lift (.chainOperands _ _ _)).bind fun _ => pure _
  | not | empty | environment =>
    have operand := List.forall_mem_singleton.mp below
    unfold Typed.draft
    exact operand.part.bind fun _ => pure _
  | equality =>
    obtain ⟨left, right⟩ := forall_mem_pair.mp below
    unfold Typed.draft
    exact left.part.bind fun _ => right.part.bind fun _ => pure _
  | ordering =>
    obtain ⟨left, right⟩ := forall_mem_pair.mp below
    unfold Typed.draft
    exact left.part.bind fun _ => right.part.bind fun _ =>
      (lift (.kindOp _ fun missing => here _ (.ordering missing))).bind fun _ => pure _
  | comparison line op s isLeft l r =>
    obtain ⟨left, right⟩ := forall_mem_pair.mp below
    -- Numbers of kind `int` can be compared, and the method is called with one argument.
    have compared (relation : RelationalOp) :
        TypedExpr.Faults own (kindOp line relation.symbol .int (relationalOp? relation .int)) :=
      .kindOp line fun missing => by cases relation <;> cases missing
    have called : (Generation.call line .callMethod s.method 1).Faults own := call _ _ _ (by omega)
    unfold Typed.draft
    refine left.part.bind fun _ => right.part.bind fun _ => ?_
    cases found : s.conversions.head? with
    | none =>
      exact (lift (.error (here _ (.comparison found)))).bind fun _ => called.bind fun _ =>
        (lift (compared _)).bind fun _ => pure _
    | some conversion =>
      exact (pure conversion).bind fun _ => called.bind fun _ => (lift (compared _)).bind fun _ => pure _
  | instanceOf =>
    have operand := List.forall_mem_singleton.mp below
    unfold Typed.draft
    exact operand.part.bind fun _ => (typeOp _ _ _).bind fun _ => pure _
  | «matches» =>
    have operand := List.forall_mem_singleton.mp below
    unfold Typed.draft
    exact operand.part.bind fun _ => (pattern _ _).bind fun _ => pure _
  | ternary line type cond yes no =>
    obtain ⟨condition, below⟩ := List.forall_mem_cons.mp below
    obtain ⟨thenBranch, elseBranch⟩ := forall_mem_pair.mp below
    have converts : ∀ u ∈ [yes, no], TypedExpr.Faults own (convert c line u.type type) := by
      intro u isBranch
      exact .convert line fun missing => here _ (.branch rfl isBranch missing)
    obtain ⟨thenConverts, elseConverts⟩ := forall_mem_pair.mp converts
    unfold Typed.draft
    exact condition.part.bind fun _ => thenBranch.part.bind fun _ => (lift thenConverts).bind fun _ =>
      (lift (.jumpOperand _)).bind fun _ => elseBranch.part.bind fun _ => (lift elseConverts).bind fun _ =>
      (lift (.skipping _ _ _)).bind fun _ => pure _
  | elvis line type l r =>
    obtain ⟨left, right⟩ := forall_mem_pair.mp below
    have converts : ∀ u ∈ [l, r], TypedExpr.Faults own (convert c line u.type type) := by
      intro u isBranch
      exact .convert line fun missing => here _ (.branch rfl isBranch missing)
    obtain ⟨leftConverts, rightConverts⟩ := forall_mem_pair.mp converts
    unfold Typed.draft
    exact left.part.bind fun _ => right.part.bind fun _ => (lift rightConverts).bind fun _ =>
      (lift (.jumpOperand _)).bind fun _ => (lift leftConverts).bind fun _ =>
      (lift (.skipping _ _ _)).bind fun _ => pure _
  | index line form =>
    obtain ⟨target, position⟩ := forall_mem_pair.mp below
    unfold Typed.draft
    refine target.part.bind fun _ => position.part.bind fun _ => ?_
    cases form with
    | array => exact pure _
    | list | map => exact (check _ _).bind fun _ => pure _
  | arrayLength =>
    have receiver := List.forall_mem_singleton.mp below
    unfold Typed.draft
    exact receiver.part.bind fun _ => (lift (.guarded _ _ _)).bind fun _ => pure _
  | property =>
    have receiver := List.forall_mem_singleton.mp below
    unfold Typed.draft
    exact receiver.part.bind fun _ => (call _ _ _ (by omega)).bind fun _ =>
      (lift (.guarded _ _ _)).bind fun _ => pure _
  | call line nullSafe s e args =>
    obtain ⟨receiver, arguments⟩ := List.forall_mem_cons.mp below
    unfold Typed.draft
    refine receiver.part.bind fun _ => ?_
    simp only [pure_bind]
    split
    · exact passed _ _ rfl arguments here fun _ _ => (lift (.guarded _ _ _)).bind fun _ => pure _
    · exact passed _ _ rfl arguments here fun _ _ => (lift (.guarded _ _ _)).bind fun _ => pure _
  | staticCall line s args =>
    unfold Typed.draft
    exact passed _ _ rfl below here fun _ _ => pure _
  | parameter =>
    unfold Typed.draft
    exact (lift (.countInstr _ _ _)).bind fun _ => (check _ _).bind fun _ => pure _
  | contextProperty =>
    unfold Typed.draft
    exact (typeOp _ _ _).bind fun _ => (call _ _ _ (by omega)).bind fun _ => pure _
  | contextCall line s args =>
    unfold Typed.draft
    exact choose (passed _ _ rfl below here fun _ _ => pure _)
      ((typeOp _ _ _).bind fun _ => passed _ _ rfl below here fun _ _ => pure _)
  | this =>
    unfold Typed.draft
    exact (check _ _).bind fun _ => pure _
  | bean =>
    unfold Typed.draft
    exact (typeOp _ _ _).bind fun _ => pure _

theorem draft {t : Typed H} (each : ∀ u ∈ t.nodes, ∀ fault, u.Raises c fault → own fault) :
    (t.draft c).Faults own := by
  refine draft_step (fun u isChild => ?_) (each t t.mem_nodes)
  exact draft fun v isNode => each v (Typed.mem_nodes_of_child isChild isNode)
termination_by sizeOf t
decreasing_by exact Typed.sizeOf_child isChild

end Generate.Faults

/-- The code of an expression is not generated only where something is beyond two bytes, or one of its nodes is the
cause. -/
theorem Typed.draft_faults (c : Catalog H) (t : Typed H) :
    (t.draft c).Faults fun fault => ∃ u ∈ t.nodes, u.Raises c fault :=
  .draft fun u isNode _ raises => ⟨u, isNode, raises⟩

end TypedExpr
