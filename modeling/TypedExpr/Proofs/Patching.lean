import TypedExpr.Proofs.AssemblerCalls
import TypedExpr.Proofs.Decoding
/-!
# Jumps that are patched

Generated code has its jumps in place from the start, as the size of what they pass over is known. An assembler writes
a jump open and patches it when the code behind it stands. Both come to the same code, or to the same fault where a jump
is too long: for a jump over other code (`Writes.outcome_skipping`), for a choice between two pieces
(`Writes.outcome_choice`) and for a chain, whose labels are patched when its last operand stands (`outcome_chain`). So
the chunk of every program is made by calls on an assembler that write no jump with its operand
(`Expr.compile_assembled`).
-/

namespace TypedExpr

open Generation
open Machine (isJump)

variable {H : Type}

namespace Chunk

/-- The chunk with code at its end. -/
def extend (c : Chunk) (code : Code) : Chunk where
  code := c.code ++ (Code.chunk code).code
  lines := c.lines ++ (Code.chunk code).lines

variable (c : Chunk) (line : Nat)

@[simp] theorem extend_nil : c.extend [] = c := by simp [extend, Code.chunk]

theorem empty_extend (code : Code) : Chunk.extend {} code = Code.chunk code := by simp [extend, Code.chunk]

@[simp] theorem extend_extend (a b : Code) : (c.extend a).extend b = c.extend (a ++ b) := by
  simp [extend, Code.chunk, Array.append_assoc]

@[simp] theorem extend_size (code : Code) : (c.extend code).size = c.size + code.size := by
  rw [← Code.chunk_size code]
  exact Array.size_append

theorem write_eq_extend (i : Instr) : c.write i line = c.extend [(line, i)] := by
  rw [write, writeBytes_eq, Instr.length_bytes]
  simp [extend, Code.chunk]

theorem patchJump_extend (op : Opcode) (body : Code) :
    (c.extend ((line, .wide op openJump) :: body)).patchJump (c.size + 1) =
      (jumpOperand body.size).map fun distance => c.extend ((line, .wide op distance) :: body) := by
  have reach : (c.extend ((line, .wide op openJump) :: body)).size - (c.size + 1) - 2 = body.size := by
    rw [extend_size, Code.size_cons]
    simp only [Instr.size]
    omega
  rw [patchJump, reach]
  cases jumpOperand body.size with
  | error fault => rfl
  | ok distance =>
    have bytes : ((c.extend ((line, .wide op openJump) :: body)).code.setIfInBounds (c.size + 1)
        (distance >>> 8).toUInt8).setIfInBounds (c.size + 1 + 1) distance.toUInt8 =
        (c.extend ((line, .wide op distance) :: body)).code := by
      apply Array.toList_inj.mp
      simp [extend, Code.chunk, size, Instr.bytes, wideBytes, Nat.add_assoc]
    simp only [Except.map, bytes]
    rfl

end Chunk

open Chunk (openJump)

/-- The assembler after it wrote code. -/
def Assembler.extend (a : Assembler H) (code : Code) : Assembler H :=
  { a with chunk := a.chunk.extend code, line := code.foldl (fun _ i => i.1) a.line }

@[simp] theorem Assembler.extend_nil (a : Assembler H) : a.extend [] = a := by simp [extend]

theorem Assembler.extend_instr (a : Assembler H) (line : Nat) (i : Instr) :
    a.extend [(line, i)] = { a with chunk := a.chunk.write i line, line } := by
  rw [Chunk.write_eq_extend]
  rfl

@[simp] theorem Assembler.extend_extend (a : Assembler H) (x y : Code) : (a.extend x).extend y = a.extend (x ++ y) := by
  simp [extend]

@[simp] theorem Assembler.extend_size (a : Assembler H) (code : Code) :
    (a.extend code).chunk.size = a.chunk.size + code.size := Chunk.extend_size a.chunk code

theorem jumpOperand_toNat (n : UInt16) : jumpOperand n.toNat = .ok n := by
  have fits : n.toNat ≤ maxOperand := Nat.le_of_lt_succ n.toNat_lt
  rw [jumpOperand, if_pos fits]
  simp

/-- What a step that succeeds gives, and the assembler it leaves. -/
def Assembly.outcome {α : Type} (x : Assembly H α) (a : Assembler H) : Except InternalFault (α × Assembler H) :=
  (x.run.run a).1.map fun v => (v, (x.run.run a).2)

theorem Assembly.outcome_bind {α β : Type} (x : Assembly H α) (f : α → Assembly H β) (a : Assembler H) :
    (x >>= f).outcome a = x.outcome a >>= fun r => (f r.1).outcome r.2 := by
  simp only [outcome, ExceptT.run_bind, StateT.run_bind]
  rcases x.run.run a with ⟨_ | _, _⟩ <;> rfl

theorem Assembly.outcome_patch (offset : Nat) (a : Assembler H) :
    (patch offset).outcome a = (a.chunk.patchJump offset).map fun chunk => ((), { a with chunk }) := by
  have run : (patch offset : Assembly H Unit).run.run a =
      (liftExcept (a.chunk.patchJump offset) >>= fun chunk => set { a with chunk } : Assembly H Unit).run.run a := rfl
  rw [outcome, run]
  cases a.chunk.patchJump offset <;> rfl

namespace AssemblerCall

/-- Where calls that succeed lead: the operands of the jumps so far, and the assembler. -/
def outcome (jumps : List Nat) (es : List (AssemblerCall H)) (a : Assembler H) :
    Except InternalFault (List Nat × Assembler H) := (performAll jumps es).outcome a

variable {jumps more : List Nat} {es fs : List (AssemblerCall H)} {a : Assembler H} {line : Nat} {op : Opcode}
  {code : Code}

theorem outcome_cons (e : AssemblerCall H) :
    outcome jumps (e :: es) a = (e.perform jumps).outcome a >>= fun r => outcome r.1 es r.2 :=
  Assembly.outcome_bind _ _ a

theorem outcome_append : outcome jumps (es ++ fs) a = outcome jumps es a >>= fun r => outcome r.1 fs r.2 := by
  induction es generalizing jumps a with
  | nil => rfl
  | cons e es ih =>
    rw [List.cons_append, outcome_cons, outcome_cons, bind_assoc]
    simp only [ih]

/-- Patching a jump in front of the code at the end gives it the size of that code. -/
theorem outcome_patch_extend {number : Nat} {body : Code} (label : jumps[number]? = some (a.chunk.size + 1)) :
    outcome jumps (.patch number :: es) (a.extend ((line, .wide op openJump) :: body)) =
      jumpOperand body.size >>= fun distance => outcome jumps es (a.extend ((line, .wide op distance) :: body)) := by
  have patched : (Assembly.patch (a.chunk.size + 1)).outcome (a.extend ((line, .wide op openJump) :: body)) =
      (jumpOperand body.size).map fun distance => ((), a.extend ((line, .wide op distance) :: body)) := by
    rw [Assembly.outcome_patch, Assembler.extend, Chunk.patchJump_extend]
    cases jumpOperand body.size <;> rfl
  rw [outcome_cons, perform, label, Assembly.outcome_bind]
  refine (congrArg (· >>= _ >>= _) patched).trans ?_
  cases jumpOperand body.size <;> rfl

/-- From where the assembler stands the calls write the code and open some more jumps. -/
def Writes (es : List (AssemblerCall H)) (jumps more : List Nat) (a : Assembler H) (code : Code) : Prop :=
  outcome jumps es a = .ok (jumps ++ more, a.extend code)

/-- The calls that write code as it is. -/
def writes (code : Code) : List (AssemblerCall H) := code.flatMap fun i => [.setLine i.1, .write i.2]

namespace Writes

theorem nil : Writes [] jumps [] a [] := by
  rw [Writes, List.append_nil, Assembler.extend_nil]
  rfl

theorem append {rest : List Nat} {after : Code} (first : Writes es jumps more a code)
    (second : Writes fs (jumps ++ more) rest (a.extend code) after) :
    Writes (es ++ fs) jumps (more ++ rest) a (code ++ after) := by
  rw [Writes, outcome_append, first]
  refine second.trans ?_
  rw [List.append_assoc, Assembler.extend_extend]

theorem instr (i : Instr) : Writes [.setLine line, .write i] jumps [] a [(line, i)] := by
  rw [Writes, Assembler.extend_instr, List.append_nil]
  rfl

theorem jump (op : Opcode) :
    Writes [.setLine line, .jump op] jumps [a.chunk.size + 1] a [(line, .wide op openJump)] := by
  rw [Writes, Assembler.extend_instr]
  rfl

theorem ofCode (code : Code) : Writes (writes code) jumps [] a code := by
  induction code generalizing a with
  | nil => exact nil
  | cons i rest ih =>
    have first : Writes [.setLine i.1, .write i.2] jumps [] a [i] := instr i.2
    refine first.append ?_
    rw [List.append_nil]
    exact ih

/-- Patching a jump that the calls wrote lets it pass over what they wrote behind it. -/
theorem outcome_patch {labels others : List Nat} {before body : Code}
    (written : Writes es jumps (labels ++ (a.chunk.size + before.size + 1) :: others) a
      (before ++ (line, .wide op openJump) :: body)) :
    outcome jumps (es ++ [.patch (jumps.length + labels.length)]) a = (jumpOperand body.size).map fun distance =>
      (jumps ++ (labels ++ (a.chunk.size + before.size + 1) :: others),
        a.extend (before ++ (line, .wide op distance) :: body)) := by
  have label : (jumps ++ (labels ++ (a.chunk.size + before.size + 1) :: others))[jumps.length + labels.length]? =
      some ((a.extend before).chunk.size + 1) := by simp
  rw [outcome_append, written, ← Assembler.extend_extend]
  refine (outcome_patch_extend label).trans ?_
  simp only [Assembler.extend_extend]
  exact bind_pure_map _ _

theorem afterJump {body : Code}
    (behind : Writes es (jumps ++ [a.chunk.size + 1]) more (a.extend [(line, .wide op openJump)]) body) :
    Writes ([.setLine line, .jump op] ++ es) jumps ([] ++ (a.chunk.size + Code.size [] + 1) :: more) a
      ([] ++ (line, .wide op openJump) :: body) := (jump op).append behind

/-- A jump, the code behind it and then its patch give the code with the jump in front, or its fault. -/
theorem outcome_skipping {body : Code}
    (behind : Writes es (jumps ++ [a.chunk.size + 1]) more (a.extend [(line, .wide op openJump)]) body) :
    outcome jumps ([.setLine line, .jump op] ++ es ++ [.patch jumps.length]) a =
      (skipping line op body).map fun code => (jumps ++ (a.chunk.size + 1) :: more, a.extend code) := by
  refine behind.afterJump.outcome_patch.trans ?_
  rw [skipping]
  cases jumpOperand body.size <;> rfl

/-- A choice between two pieces of code: the jump to the second is patched before it is written, the jump over it
afterwards. -/
theorem outcome_choice {others : List Nat} {x y : Code}
    (first : Writes es (jumps ++ [a.chunk.size + 1]) more (a.extend [(line, .wide op openJump)]) x)
    (second : ∀ n, jumpOperand (x.size + 3) = .ok n →
      Writes fs (jumps ++ ((a.chunk.size + 1) :: (more ++ [a.chunk.size + x.size + 4]))) others
        (a.extend ((line, .wide op n) :: (x ++ [(line, .wide .jump openJump)]))) y) :
    outcome jumps ([.setLine line, .jump op] ++ (es ++ [.setLine line, .jump .jump]) ++ [.patch jumps.length] ++ fs ++
        [.patch (jumps.length + (more.length + 1))]) a =
      jumpOperand (x.size + 3) >>= fun n => (skipping line .jump y).map fun otherwise =>
        (jumps ++ ((a.chunk.size + 1) :: more ++ (a.chunk.size + x.size + 4) :: others),
          a.extend ((line, .wide op n) :: x ++ otherwise)) := by
  have place (n : UInt16) : a.chunk.size + Code.size ((line, .wide op n) :: x) + 1 = a.chunk.size + x.size + 4 := by
    simp only [Code.size_cons, Instr.size]
    omega
  have reach : (x ++ [(line, Instr.wide .jump openJump)]).size = x.size + 3 := by simp [Instr.size]
  have toEnd : Writes [.setLine line, .jump .jump] (jumps ++ [a.chunk.size + 1] ++ more) [a.chunk.size + x.size + 4]
      ((a.extend [(line, .wide op openJump)]).extend x) [(line, .wide .jump openJump)] := by
    rw [← place openJump, ← Assembler.extend_size, Assembler.extend_extend]
    exact .jump .jump
  have opened : outcome jumps ([.setLine line, .jump op] ++ (es ++ [.setLine line, .jump .jump]) ++
        [.patch jumps.length]) a = (jumpOperand (x.size + 3)).map fun n =>
      (jumps ++ ((a.chunk.size + 1) :: (more ++ [a.chunk.size + x.size + 4])),
        a.extend ((line, .wide op n) :: (x ++ [(line, .wide .jump openJump)]))) :=
    reach ▸ (first.append toEnd).afterJump.outcome_patch
  cases fits : jumpOperand (x.size + 3) with
  | error fault =>
    rw [outcome_append, outcome_append, opened, fits]
    rfl
  | ok n =>
    rw [fits] at opened
    have both := append opened (second n fits)
    have labels : (a.chunk.size + 1) :: (more ++ [a.chunk.size + x.size + 4]) ++ others =
        (a.chunk.size + 1) :: more ++ (a.chunk.size + Code.size ((line, .wide op n) :: x) + 1) :: others := by
      rw [place]
      simp
    have shape : (line, .wide op n) :: (x ++ [(line, .wide .jump openJump)]) ++ y =
        (line, .wide op n) :: x ++ (line, .wide .jump openJump) :: y := by simp
    rw [labels, shape] at both
    refine both.outcome_patch.trans ?_
    rw [place, skipping]
    cases jumpOperand y.size <;> rfl

end Writes

/-! ### Chains -/

section Chain

variable (line : Nat) (exit : Opcode)

/-- The code of a chain whose jumps are open. -/
def openChain : List Code → Code
  | [] => []
  | [last] => last
  | operand :: rest => operand ++ (line, .wide exit openJump) :: (Code.ofOps line [.pop] ++ openChain rest)

/-- Where the operands of the jumps of a chain are if it starts at an offset. -/
def labels : (offset : Nat) → List Code → List Nat
  | _, [] | _, [_] => []
  | offset, operand :: rest => (offset + operand.size + 1) :: labels (offset + operand.size + 4) rest

/-- The calls that write a chain and leave its jumps open. -/
def operandCalls : List Code → List (AssemblerCall H)
  | [] => []
  | [last] => writes last
  | operand :: rest =>
    writes operand ++ ([.setLine line, .jump exit] ++ (writes (Code.ofOps line [.pop]) ++ operandCalls rest))

/-- The calls that write a chain. At the end its jumps are patched in their order; the first has the number. -/
def chainCalls (number : Nat) (codes : List Code) : List (AssemblerCall H) :=
  operandCalls line exit codes ++ (List.range' number (codes.length - 1)).map .patch

theorem openChain_size (codes : List Code) : (openChain line exit codes).size = chainSize codes := by
  induction codes with
  | nil => rfl
  | cons operand rest ih =>
    cases rest with
    | nil => rfl
    | cons next rest =>
      simp only [openChain, chainSize, Code.size_append, Code.size_cons, Code.size_ofOps, ← ih, Instr.size,
        List.length_singleton]
      omega

theorem writes_operandCalls (codes : List Code) (jumps : List Nat) (a : Assembler H) :
    Writes (operandCalls line exit codes) jumps (labels a.chunk.size codes) a (openChain line exit codes) := by
  induction codes generalizing jumps a with
  | nil => exact .nil
  | cons operand rest ih =>
    cases rest with
    | nil => exact .ofCode operand
    | cons next rest =>
      have jumped : Writes [.setLine line, .jump exit] (jumps ++ []) [a.chunk.size + operand.size + 1]
          (a.extend operand) [(line, .wide exit openJump)] := by
        rw [← Assembler.extend_size]
        exact .jump exit
      have later (jumps : List Nat) :=
        ih jumps (((a.extend operand).extend [(line, .wide exit openJump)]).extend (Code.ofOps line [.pop]))
      simp only [Assembler.extend_size, Code.size_cons, Code.size_nil, Code.size_ofOps, Instr.size,
        List.length_singleton] at later
      exact (Writes.ofCode operand).append (jumped.append ((Writes.ofCode _).append (later _)))

/-- Patching the open jumps of a chain in their order gives the chain, or the fault of the first that is too long. -/
theorem outcome_patches (codes : List Code) (jumps : List Nat) (a : Assembler H) :
    outcome (jumps ++ labels a.chunk.size codes) ((List.range' jumps.length (codes.length - 1)).map .patch)
        (a.extend (openChain line exit codes)) =
      (layChain line exit (chainSize codes) codes).map fun code =>
        (jumps ++ labels a.chunk.size codes, a.extend code) := by
  induction codes generalizing jumps a with
  | nil => rfl
  | cons operand rest ih =>
    cases rest with
    | nil => rfl
    | cons next rest =>
      have label : (jumps ++ labels a.chunk.size (operand :: next :: rest))[jumps.length]? =
          some ((a.extend operand).chunk.size + 1) := by simp [labels]
      have split : a.extend (openChain line exit (operand :: next :: rest)) = (a.extend operand).extend
          ((line, .wide exit openJump) :: (Code.ofOps line [.pop] ++ openChain line exit (next :: rest))) :=
        (Assembler.extend_extend _ _ _).symm
      have passed : (Code.ofOps line [.pop] ++ openChain line exit (next :: rest)).size =
          1 + chainSize (next :: rest) := by
        rw [Code.size_append, openChain_size]
        rfl
      rw [List.length_cons, Nat.add_sub_cancel, List.length_cons, List.range'_succ, List.map_cons, split,
        outcome_patch_extend label, passed, layChain_operand]
      cases jumpOperand (1 + chainSize (next :: rest)) with
      | error fault => rfl
      | ok distance =>
        -- From here on the chain is that of the other operands, behind a jump which is no longer open.
        have later := ih (jumps ++ [a.chunk.size + operand.size + 1])
          (a.extend (operand ++ (line, .wide exit distance) :: Code.ofOps line [.pop]))
        simp only [Assembler.extend_size, Code.size_append, Code.size_cons, Code.size_ofOps, Instr.size,
          List.length_singleton, List.length_append, Assembler.extend_extend, List.append_assoc] at later
        simp only [ok_bind, Assembler.extend_extend]
        refine later.trans ?_
        cases layChain line exit (chainSize (next :: rest)) (next :: rest) <;> rfl

/-- Writing a chain and then patching its labels gives the chain as it is laid out, or its fault. -/
theorem outcome_chain (codes : List Code) :
    outcome jumps (chainCalls line exit jumps.length codes) a =
      (layChain line exit (chainSize codes) codes).map fun code =>
        (jumps ++ labels a.chunk.size codes, a.extend code) := by
  rw [chainCalls, outcome_append, writes_operandCalls]
  exact outcome_patches line exit codes jumps a

end Chain

/-! ### Programs -/

/-- The operation that a call is given to write. -/
def op? : AssemblerCall H → Option Opcode
  | .write i => some i.op
  | .jump op => some op
  | _ => none

/-- The calls write the operations of the code one after the other, and no jump with its operand. -/
structure Spells (es : List (AssemblerCall H)) (code : Code) : Prop where
  ops : es.filterMap op? = code.map fun i => i.2.op
  noJump : ∀ i, .write i ∈ es → isJump i.op = false

namespace Spells

theorem append {after : Code} (first : Spells es code) (second : Spells fs after) :
    Spells (es ++ fs) (code ++ after) where
  ops := by rw [List.filterMap_append, first.ops, second.ops, List.map_append]
  noJump i member := (List.mem_append.mp member).elim (first.noJump i) (second.noJump i)

theorem instr {i : Instr} (noJump : isJump i.op = false) :
    Spells ([.setLine line, .write i] : List (AssemblerCall H)) [(line, i)] where
  ops := rfl
  noJump j member := by
    obtain rfl : j = i := by simpa using member
    exact noJump

theorem jump (op : Opcode) (n : UInt16) :
    Spells ([.setLine line, .jump op] : List (AssemblerCall H)) [(line, .wide op n)] :=
  ⟨rfl, by simp⟩

theorem patch (spelled : Spells es code) (number : Nat) : Spells (es ++ [.patch number]) code where
  ops := by
    rw [List.filterMap_append, spelled.ops]
    exact List.append_nil _
  noJump i member := spelled.noJump i (by simpa using member)

end Spells
end AssemblerCall

open AssemblerCall (Writes Spells outcome op?)

/-- Wherever an assembler stands, there are calls that write the code, its jumps open at first. -/
def Code.Assembled (H : Type) (code : Code) : Prop :=
  ∀ (jumps : List Nat) (a : Assembler H), ∃ es more, Writes es jumps more a code ∧ Spells es code

namespace Code.Assembled

variable {line : Nat} {op : Opcode} {n past : UInt16} {x y : Code}

theorem nil : Code.Assembled H [] := fun _ _ => ⟨[], [], .nil, rfl, by simp⟩

theorem append (first : x.Assembled H) (second : y.Assembled H) : (x ++ y).Assembled H := by
  intro jumps a
  obtain ⟨es, more, written, spelled⟩ := first jumps a
  obtain ⟨fs, rest, behind, spelled'⟩ := second (jumps ++ more) (a.extend x)
  exact ⟨es ++ fs, more ++ rest, written.append behind, spelled.append spelled'⟩

theorem instr {i : Instr} (noJump : isJump i.op = false) : Code.Assembled H [(line, i)] :=
  fun _ _ => ⟨_, _, .instr i, .instr noJump⟩

theorem skip (size : n.toNat = x.size) (passed : x.Assembled H) : Code.Assembled H ((line, .wide op n) :: x) := by
  intro jumps a
  obtain ⟨es, more, written, spelled⟩ :=
    passed (jumps ++ [a.chunk.size + 1]) (a.extend [(line, .wide op openJump)])
  have whole := written.outcome_skipping
  rw [skipping, ← size, jumpOperand_toNat] at whole
  exact ⟨_, _, whole, ((Spells.jump op n).append spelled).patch _⟩

theorem choice (size : n.toNat = x.size + 3) (pastSize : past.toNat = y.size) (passed : x.Assembled H)
    (taken : y.Assembled H) : Code.Assembled H ((line, .wide op n) :: (x ++ (line, .wide .jump past) :: y)) := by
  intro jumps a
  obtain ⟨es, more, written, spelled⟩ :=
    passed (jumps ++ [a.chunk.size + 1]) (a.extend [(line, .wide op openJump)])
  obtain ⟨fs, others, behind, spelled'⟩ :=
    taken (jumps ++ ((a.chunk.size + 1) :: (more ++ [a.chunk.size + x.size + 4])))
      (a.extend ((line, .wide op n) :: (x ++ [(line, .wide .jump openJump)])))
  have reaches : jumpOperand (x.size + 3) = .ok n := by rw [← size, jumpOperand_toNat]
  have whole := written.outcome_choice fun m found => by
    obtain rfl : n = m := Except.ok.inj (reaches.symm.trans found)
    exact behind
  rw [reaches, skipping, ← pastSize, jumpOperand_toNat] at whole
  refine ⟨_, _, whole, Spells.patch ?_ _⟩
  have shape : (line, .wide op n) :: (x ++ (line, .wide .jump past) :: y) =
      [(line, .wide op n)] ++ (x ++ [(line, .wide .jump past)]) ++ y := by simp
  rw [shape]
  exact (((Spells.jump op n).append (spelled.append (.jump .jump past))).patch _).append spelled'

end Code.Assembled

theorem Code.assembled_composes : Composes (Code.Assembled H) where
  nil := .nil
  append := .append
  instr _ _ := .instr
  skip _ := .skip
  choice _ := .choice

/-- The chunk of a program is what calls on an assembler make that write its operations in their order and each jump
open. Only a patch gives a jump its operand. -/
theorem Expr.compile_assembled {ctx : Context H} {e : Expr} {p : Program H} (compiled : e.compile ctx = .ok p) :
    ∃ (es : List (AssemblerCall H)) (jumps : List Nat) (a : Assembler H), outcome [] es {} = .ok (jumps, a) ∧
      a.chunk = p.chunk ∧ es.filterMap op? = p.chunk.opcodes ∧ ∀ i, .write i ∈ es → isJump i.op = false := by
  obtain ⟨t, code, settled, generated, whole, _, _⟩ := Expr.compile_generates compiled
  have layout := (Typed.generate_layout (Expr.resolve_typed settled) generated).1
  have codeSized : code.WellSized := layout.wellSized
  have sized : (code ++ Code.ofOps e.span.line [.return]).WellSized := by simp +decide [codeSized]
  have assembled : (code ++ Code.ofOps e.span.line [.return]).Assembled H :=
    .append (layout.composed Code.assembled_composes) (.instr rfl)
  obtain ⟨es, jumps, written, spelled⟩ := assembled [] {}
  refine ⟨es, [] ++ jumps, _, written, ?_, ?_, spelled.noJump⟩
  · rw [whole, ← Chunk.empty_extend]
    rfl
  · rw [spelled.ops, whole, (Code.chunk_decodes sized).opcodes]

end TypedExpr
