import TypedExpr.Machine
import TypedExpr.Proofs.Layout
/-!
# How generated code is put together

Generated code is made of single instructions, of pieces one after the other, of pieces with a jump over them, and of
choices between two pieces. A property of code that all this keeps is `Composes`; it holds of the code of every
expression (`Layout.composed`), since no other way of putting code together occurs.
-/

namespace TypedExpr

open Generation
open Machine (isJump)

variable {H : Type}

/-- The operation has no operands and does not return. -/
def Opcode.Plain (op : Opcode) : Prop := op.operandSize = 0 ∧ op ≠ .return

instance (op : Opcode) : Decidable op.Plain := inferInstanceAs (Decidable (_ ∧ _))

theorem Opcode.Plain.noJump {op : Opcode} (plain : op.Plain) : isJump op = false := by
  obtain ⟨size, _⟩ := plain
  cases op <;> first | rfl | cases size

theorem Opcode.operandSize_of_jump {op : Opcode} (jumps : isJump op = true) : op.operandSize = 2 := by
  cases op <;> first | rfl | cases jumps

theorem Opcode.ne_return_of_jump {op : Opcode} (jumps : isJump op = true) : op ≠ .return := by
  rintro rfl
  cases jumps

theorem arithmeticOp?_plain {op : ArithmeticOp} {kind : Kind} {o : Opcode}
    (found : arithmeticOp? op kind = some o) : o.Plain := by
  cases op <;> cases kind <;> cases found <;> decide

theorem negationOp?_plain {kind : Kind} {o : Opcode} (found : negationOp? kind = some o) : o.Plain := by
  cases kind <;> cases found <;> decide

theorem relationalOp?_plain {op : RelationalOp} {kind : Kind} {o : Opcode}
    (found : relationalOp? op kind = some o) : o.Plain := by
  cases op <;> cases kind <;> cases found <;> decide

theorem wideningOp?_plain {source target : Kind} {o : Opcode} (found : source.wideningOp? target = some o) :
    o.Plain := by
  cases source <;> cases target <;> cases found <;> decide

theorem Conversion.code_plain (conversion : Conversion) : ∀ op ∈ conversion.code, op.Plain := by
  have widening (source target : Kind) : ∀ op ∈ (source.wideningOp? target).toList, op.Plain := by
    intro op member
    exact wideningOp?_plain (Option.mem_toList.mp member)
  cases conversion with
  | identity | nullToReference | upcast | boxing => simp [code]
  | unboxing => exact List.forall_mem_singleton.mpr (by decide)
  | widening source target => exact widening source target
  | unboxAndWiden source target => exact List.forall_mem_cons.mpr ⟨by decide, widening source target⟩

theorem Ty.coercionCode_plain (source : Ty) (target : Kind) : ∀ op ∈ source.coercionCode target, op.Plain := by
  refine List.forall_mem_append.mpr ⟨by split <;> decide, ?_⟩
  intro op member
  obtain ⟨k, _, found⟩ := Option.bind_eq_some_iff.mp (Option.mem_toList.mp member)
  exact wideningOp?_plain found

theorem forall_of_zip {P : Code → Prop} {args : List (Typed H)} {codes : List Code}
    (same : codes.length = args.length) (each : ∀ x ∈ args.zip codes, P x.2) : ∀ code ∈ codes, P code := by
  intro code member
  rw [← List.map_snd_zip (Nat.le_of_eq same)] at member
  obtain ⟨x, inZip, rfl⟩ := List.mem_map.mp member
  exact each x inZip

/-- A property of code that holds of every instruction which neither jumps nor returns, and that is kept wherever code
is put together. -/
structure Composes (holds : Code → Prop) : Prop where
  nil : holds []
  append : ∀ {a b : Code}, holds a → holds b → holds (a ++ b)
  instr : ∀ {line : Nat} {i : Instr}, i.WellSized → i.op ≠ .return → isJump i.op = false → holds [(line, i)]
  skip : ∀ {line : Nat} {op : Opcode} {n : UInt16} {body : Code}, isJump op = true → n.toNat = body.size →
    holds body → holds ((line, .wide op n) :: body)
  /-- The first jump leads to the second piece, the jump behind the first piece over the second. -/
  choice : ∀ {line : Nat} {op : Opcode} {n past : UInt16} {first second : Code}, isJump op = true →
    n.toNat = first.size + 3 → past.toNat = second.size → holds first → holds second →
    holds ((line, .wide op n) :: (first ++ (line, .wide .jump past) :: second))

namespace Composes

variable {holds : Code → Prop} {line : Nat}

theorem ops (composes : Composes holds) {ops : List Opcode} (plain : ∀ op ∈ ops, op.Plain) :
    holds (Code.ofOps line ops) := by
  induction ops with
  | nil => exact composes.nil
  | cons op rest ih =>
    obtain ⟨own, others⟩ := List.forall_mem_cons.mp plain
    exact composes.append (a := [(line, .bare op)])
      (composes.instr ((Instr.wellSized_bare op).mpr own.1) own.2 own.noJump) (ih others)

theorem op (composes : Composes holds) {op : Opcode} (plain : op.Plain) : holds (Code.ofOps line [op]) :=
  composes.ops (List.forall_mem_singleton.mpr plain)

theorem coercion (composes : Composes holds) {a : Code} {source : Ty} {kind : Kind} (operand : holds a) :
    holds (a ++ Code.ofOps line (source.coercionCode kind)) :=
  composes.append operand (composes.ops (source.coercionCode_plain kind))

theorem operands (composes : Composes holds) {a b : Code} {left right : Ty} {kind : Kind} {op : Opcode}
    (first : holds a) (second : holds b) (plain : op.Plain) :
    holds (a ++ Code.ofOps line (left.coercionCode kind) ++ b ++ Code.ofOps line (right.coercionCode kind) ++
      Code.ofOps line [op]) :=
  composes.append (composes.coercion (composes.append (composes.coercion first) second)) (composes.op plain)

theorem condition (composes : Composes holds) {code : Code} {isBoxed : Bool} (operand : holds code) :
    holds (condition line code isBoxed) := by
  unfold Generation.condition
  split
  · exact composes.append operand (composes.op (by decide))
  · exact operand

theorem guarded (composes : Composes holds) {nullSafe : Bool} {body code : Code} (passed : holds body)
    (laid : guarded line nullSafe body = .ok code) : holds code := by
  unfold Generation.guarded at laid
  split at laid
  · obtain ⟨past, size, rfl⟩ := skipping_ok laid
    exact composes.skip rfl size passed
  · cases laid
    exact passed

theorem convertEach (composes : Composes holds) {codes : List Code} {conversions : List Conversion}
    (each : ∀ code ∈ codes, holds code) : holds (convertEach line codes conversions) := by
  induction codes generalizing conversions with
  | nil => exact composes.nil
  | cons code codes ih =>
    cases conversions with
    | nil => exact composes.nil
    | cons conversion conversions =>
      obtain ⟨own, others⟩ := List.forall_mem_cons.mp each
      exact composes.append (composes.append own (composes.ops conversion.code_plain)) (ih others)

theorem passArguments (composes : Composes holds) {s : Selection H} {codes : List Code} {code : Code}
    (each : ∀ code ∈ codes, holds code) (passed : passArguments line s codes = .ok code) : holds code := by
  unfold Generation.passArguments at passed
  split at passed
  · cases passed
    exact composes.convertEach each
  · dsimp only at passed
    split at passed
    · cases passed
    · obtain ⟨i, counted, rfl⟩ := map_ok passed
      obtain ⟨n, rfl, _⟩ := countInstr_ok counted
      rw [← convertEach_split]
      exact composes.append (composes.convertEach each) (composes.instr rfl (by simp [Instr.op]) rfl)

theorem layChain (composes : Composes holds) {op : LogicalOp} {codes : List Code} {code : Code}
    (each : ∀ code ∈ codes, holds code) (laid : layChain line (exitOp op) (chainSize codes) codes = .ok code) :
    holds code := by
  induction codes generalizing code with
  | nil =>
    cases laid
    exact composes.nil
  | cons operand rest ih =>
    obtain ⟨own, others⟩ := List.forall_mem_cons.mp each
    cases rest with
    | nil =>
      cases laid
      exact own
    | cons next rest =>
      obtain ⟨distance, later, size, inner, rfl⟩ := layChain_cons laid
      have total : distance.toNat = (Code.ofOps line [.pop] ++ later).size := by
        rw [size, Code.size_append, layChain_size inner]
        rfl
      have exits : isJump (exitOp op) = true := by cases op <;> rfl
      exact composes.append own
        (composes.skip exits total (composes.append (composes.op (by decide)) (ih others inner)))

/-- A choice as conditionals lay it out: the jump to the second piece takes the tested value along, which the first
piece drops. -/
theorem branches (composes : Composes holds) {a b b' d : Code} {op : Opcode} {n past : UInt16} (tested : holds a)
    (jumps : isJump op = true) (size : n.toNat = (b ++ b').size + 4) (pastSize : past.toNat = d.size)
    (passed : holds (b ++ b')) (taken : holds d) :
    holds (a ++ [(line, .wide op n), (line, .bare .pop)] ++ b ++ b' ++ (line, .wide .jump past) :: d) := by
  have first : holds (Code.ofOps line [.pop] ++ (b ++ b')) := composes.append (composes.op (by decide)) passed
  have reach : n.toNat = (Code.ofOps line [.pop] ++ (b ++ b')).size + 3 := by
    simp only [size, Code.size_append, Code.size_ofOps, List.length_singleton]
    omega
  simpa [Code.ofOps] using composes.append tested (composes.choice jumps reach pastSize first taken)

theorem check (composes : Composes holds) {T : Tables H} {t : Ty} {code : Code} (checks : T.Checks line t code) :
    holds code := by
  cases checks with
  | object => exact composes.nil
  | cast => exact composes.instr rfl (by simp [Instr.op]) rfl

end Composes

/-- The property holds of the code of the draft, of that of a chain operand by operand. -/
def Draft.All (holds : Code → Prop) : Draft → Prop
  | .closed code | .concat _ code => holds code
  | .chain _ operands => ∀ x ∈ operands, holds x.1

/-- What is kept wherever code is put together holds of all generated code. -/
theorem Layout.composed {holds : Code → Prop} (composes : Composes holds) {c : Catalog H} {T : Tables H} {t : Typed H}
    {d : Draft} (layout : Layout c T t d) : d.All holds := by
  have op {line : Nat} {o : Opcode} (plain : o.Plain) : holds (Code.ofOps line [o]) := composes.op plain
  have wide {line : Nat} {o : Opcode} {n : UInt16} (sized : o.operandSize = 2) (noReturn : o ≠ .return)
      (noJump : isJump o = false) : holds [(line, .wide o n)] :=
    composes.instr ((Instr.wellSized_wide o n).mpr sized) noReturn noJump
  have call {line : Nat} {o : Opcode} {f : UInt16} {n : UInt8} (sized : o.operandSize = 3) (noReturn : o ≠ .return)
      (noJump : isJump o = false) : holds [(line, .call o f n)] :=
    composes.instr ((Instr.wellSized_call o f n).mpr sized) noReturn noJump
  have converted {line : Nat} (conversion : Conversion) : holds (Code.ofOps line conversion.code) :=
    composes.ops conversion.code_plain
  induction layout with
  | literal loads =>
    cases loads with
    | bool b => cases b <;> exact op (by decide)
    | zero | one | null => exact op (by decide)
    | narrow => exact composes.instr rfl (by simp [Instr.op]) rfl
    | wide => exact wide rfl (by simp) rfl
  | numeric _ _ operation ihl ihr =>
    exact composes.operands ihl ihr (arithmeticOp?_plain operation)
  | text _ ih => exact ih
  | join _ _ ihl ihr => exact composes.append ihl ihr
  | concat _ _ ih => exact composes.append ih (wide rfl (by simp) rfl)
  | negate _ operation ih =>
    exact composes.append (composes.coercion ih) (op (negationOp?_plain operation))
  | operand _ ih => exact List.forall_mem_singleton.mpr ih
  | chain _ _ ihl ihr => exact List.forall_mem_append.mpr ⟨ihl, ihr⟩
  | logical _ laid ih =>
    refine composes.layChain ?_ laid
    intro code member
    obtain ⟨x, inOperands, rfl⟩ := List.mem_map.mp member
    exact composes.condition (ih x inOperands)
  | not _ ih => exact composes.append (composes.condition ih) (op (by decide))
  | empty _ ih | environment _ ih => exact composes.append ih (op (by decide))
  | @equality _ negated _ _ _ _ _ _ ihl ihr =>
    refine composes.append (composes.append ihl ihr) (composes.ops ?_)
    cases negated <;> decide
  | ordering _ _ operation ihl ihr =>
    exact composes.operands ihl ihr (relationalOp?_plain operation)
  | @comparison line _ _ isLeft _ _ _ _ conversion _ _ _ _ _ _ operation ihl ihr =>
    have ordered : holds (Code.ofOps line (if isLeft then [] else [.swap])) := by
      refine composes.ops ?_
      cases isLeft <;> decide
    refine composes.append (composes.append ?_ (op (by decide))) (op (relationalOp?_plain operation))
    have passed := composes.append (composes.append ihl ihr) ordered
    exact composes.append (composes.append passed (converted conversion)) (call rfl (by simp) rfl)
  | instanceOf _ _ ih | «matches» _ _ ih => exact composes.append ih (wide rfl (by simp) rfl)
  | ternary _ _ _ _ _ toElseSize pastSize ihc iht ihe =>
    exact composes.branches (composes.condition ihc) rfl toElseSize pastSize (composes.append iht (converted _))
      (composes.append (composes.append (op (by decide)) ihe) (converted _))
  | elvis _ _ _ _ presentSize pastSize ihl ihr =>
    exact composes.branches ihl rfl presentSize pastSize (composes.append ihr (converted _)) (converted _)
  | arrayIndex _ _ ihe ihi =>
    exact composes.append (composes.append ihe (composes.condition ihi)) (op (by decide))
  | listIndex _ _ checked ihe ihi =>
    refine composes.append (composes.append (composes.append ihe (composes.condition ihi)) ?_) (composes.check checked)
    exact op (by decide)
  | mapIndex _ _ checked ihe ihi =>
    exact composes.append (composes.append (composes.append ihe ihi) (op (by decide))) (composes.check checked)
  | arrayLength _ laid ih => exact composes.append ih (composes.guarded (op (by decide)) laid)
  | property _ _ laid ih => exact composes.append ih (composes.guarded (call rfl (by simp) rfl) laid)
  | call _ same _ passed _ _ laid ih iha =>
    have passing := composes.passArguments (forall_of_zip same iha) passed
    refine composes.append ih (composes.guarded ?_ laid)
    split
    · exact composes.append (composes.append (op (by decide)) passing) (call rfl (by simp) rfl)
    · exact composes.append passing (call rfl (by simp) rfl)
  | staticCall same _ passed _ _ iha | contextStaticCall _ same _ passed _ _ iha =>
    exact composes.append (composes.passArguments (forall_of_zip same iha) passed) (call rfl (by simp) rfl)
  | contextCall _ _ same _ passed _ _ iha =>
    have passing := composes.passArguments (forall_of_zip same iha) passed
    exact composes.append (composes.append (wide rfl (by simp) rfl) passing) (call rfl (by simp) rfl)
  | parameter _ checked => exact composes.append (wide rfl (by simp) rfl) (composes.check checked)
  | this checked => exact composes.append (op (by decide)) (composes.check checked)
  | contextProperty => exact composes.append (wide rfl (by simp) rfl) (call rfl (by simp) rfl)
  | bean => exact wide rfl (by simp) rfl

theorem Code.wellSized_composes : Composes Code.WellSized where
  nil := wellSized_nil
  append first second := (wellSized_append _ _).mpr ⟨first, second⟩
  instr sized _ _ := (wellSized_cons _ _).mpr ⟨sized, wellSized_nil⟩
  skip jumps _ passed :=
    (wellSized_cons _ _).mpr ⟨(Instr.wellSized_wide _ _).mpr (Opcode.operandSize_of_jump jumps), passed⟩
  choice jumps _ _ first second := by
    simp only [wellSized_cons, wellSized_append, Instr.wellSized_wide]
    exact ⟨Opcode.operandSize_of_jump jumps, first, rfl, second⟩

/-- Every instruction of generated code has the operands of its operation. -/
theorem Layout.wellSized {c : Catalog H} {T : Tables H} {t : Typed H} {code : Code}
    (layout : Layout c T t (.closed code)) : code.WellSized := layout.composed Code.wellSized_composes

end TypedExpr
