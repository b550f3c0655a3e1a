import TypedExpr.Program
/-!
# Instructions in a chunk

Reading a chunk at the offset of an instruction that was written there gives this instruction back. `Holds`
says that code stands at an offset; generated code stands at the start of its own chunk, and a sweep over the chunk
meets its instructions and nothing else.
-/

namespace TypedExpr

theorem Opcode.ofByte?_toByte (op : Opcode) : Opcode.ofByte? op.toByte = some op := by cases op <;> rfl

theorem ofWideBytes_wideBytes (n : UInt16) : ofWideBytes (n >>> 8).toUInt8 n.toUInt8 = n := by
  apply UInt16.toNat_inj.mp
  have low : n.toNat % 256 < 2 ^ 8 := Nat.mod_lt _ (by decide)
  have high : n.toNat >>> 8 < 256 := by
    have bound := n.toNat_lt
    rw [Nat.shiftRight_eq_div_pow]
    omega
  simp only [ofWideBytes, UInt16.toNat_or, UInt16.toNat_shiftLeft, UInt8.toNat_toUInt16,
    UInt16.toNat_toUInt8, UInt16.toNat_shiftRight]
  simp only [show (8 : UInt16).toNat % 16 = 8 from rfl, show 2 ^ 8 = 256 from rfl] at *
  rw [Nat.mod_eq_of_lt high, Nat.mod_eq_of_lt (by rw [Nat.shiftLeft_eq]; omega),
    ← Nat.shiftLeft_add_eq_or_of_lt low, Nat.shiftLeft_eq, Nat.shiftRight_eq_div_pow]
  omega

namespace Instr

/-- The operands of the instruction are those its operation takes. -/
def WellSized (i : Instr) : Prop := i.size = 1 + i.op.operandSize

instance (i : Instr) : Decidable i.WellSized := inferInstanceAs (Decidable (_ = _))

@[simp] theorem wellSized_bare (op : Opcode) : (bare op).WellSized ↔ op.operandSize = 0 := by
  simp only [WellSized, size, Instr.op]
  omega

@[simp] theorem wellSized_narrow (op : Opcode) (n : UInt8) : (narrow op n).WellSized ↔ op.operandSize = 1 := by
  simp only [WellSized, size, Instr.op]
  omega

@[simp] theorem wellSized_wide (op : Opcode) (n : UInt16) : (wide op n).WellSized ↔ op.operandSize = 2 := by
  simp only [WellSized, size, Instr.op]
  omega

@[simp] theorem wellSized_call (op : Opcode) (f : UInt16) (n : UInt8) :
    (call op f n).WellSized ↔ op.operandSize = 3 := by
  simp only [WellSized, size, Instr.op]
  omega

theorem length_bytes (i : Instr) : i.bytes.length = i.size := by cases i <;> rfl

theorem size_pos (i : Instr) : 1 ≤ i.size := by cases i <;> simp [size]

end Instr

namespace Code

@[simp] theorem size_nil : Code.size [] = 0 := rfl

theorem foldl_size (code : Code) (n : Nat) : code.foldl (fun n i => n + i.2.size) n = n + code.size := by
  induction code generalizing n with
  | nil => rfl
  | cons i rest ih =>
    simp only [size, List.foldl_cons]
    rw [ih, ih (0 + i.2.size)]
    omega

@[simp] theorem size_cons (i : Nat × Instr) (code : Code) : Code.size (i :: code) = i.2.size + code.size := by
  simp only [size, List.foldl_cons]
  rw [foldl_size]
  simp [size]

@[simp] theorem size_append (a b : Code) : Code.size (a ++ b) = Code.size a + Code.size b := by
  induction a with
  | nil => simp
  | cons i rest ih => simp only [List.cons_append, size_cons, ih]; omega

@[simp] theorem size_ofOps (line : Nat) (ops : List Opcode) : (Code.ofOps line ops).size = ops.length := by
  induction ops with
  | nil => rfl
  | cons op rest ih =>
    have split : Code.ofOps line (op :: rest) = (line, .bare op) :: Code.ofOps line rest := rfl
    simp only [split, size_cons, ih, Instr.size, List.length_cons]
    omega

theorem ofOps_append (line : Nat) (a b : List Opcode) :
    Code.ofOps line (a ++ b) = Code.ofOps line a ++ Code.ofOps line b := List.map_append

theorem length_bytes (code : Code) : (code.flatMap fun i => i.2.bytes).length = code.size := by
  induction code with
  | nil => rfl
  | cons i rest ih => simp [List.flatMap_cons, ih, Instr.length_bytes]

/-- Every instruction has the operands of its operation. -/
def WellSized (code : Code) : Prop := ∀ i ∈ code, i.2.WellSized

@[simp] theorem wellSized_nil : WellSized [] := by simp [WellSized]

@[simp] theorem wellSized_cons (i : Nat × Instr) (code : Code) :
    WellSized (i :: code) ↔ i.2.WellSized ∧ WellSized code := by
  simp only [WellSized, List.forall_mem_cons]

@[simp] theorem wellSized_append (a b : Code) : WellSized (a ++ b) ↔ WellSized a ∧ WellSized b := by
  simp only [WellSized, List.forall_mem_append]

@[simp] theorem wellSized_ofOps_nil (line : Nat) : WellSized (Code.ofOps line []) := wellSized_nil

@[simp] theorem wellSized_ofOps_cons (line : Nat) (op : Opcode) (ops : List Opcode) :
    WellSized (Code.ofOps line (op :: ops)) ↔ op.operandSize = 0 ∧ WellSized (Code.ofOps line ops) := by
  rw [← Instr.wellSized_bare]
  exact wellSized_cons _ _

theorem length_le_size (code : Code) : code.length ≤ code.size := by
  induction code with
  | nil => simp
  | cons i rest ih =>
    have positive := i.2.size_pos
    simp only [List.length_cons, size_cons]
    omega

/-- The instructions of code that stands at an offset, each with its own offset. -/
def placed : (offset : Nat) → Code → List (Nat × Instr)
  | _, [] => []
  | offset, i :: rest => (offset, i.2) :: placed (offset + i.2.size) rest

theorem placed_append (offset : Nat) (a b : Code) :
    placed offset (a ++ b) = placed offset a ++ placed (offset + a.size) b := by
  induction a generalizing offset with
  | nil => rfl
  | cons i rest ih => simp only [List.cons_append, placed, ih, size_cons, Nat.add_assoc]

theorem placed_snd (offset : Nat) (code : Code) : (placed offset code).map Prod.snd = code.map Prod.snd := by
  induction code generalizing offset with
  | nil => rfl
  | cons i rest ih => simp only [placed, List.map_cons, ih]

theorem placed_wellSized {code : Code} (sized : code.WellSized) (offset : Nat) :
    ∀ x ∈ code.placed offset, x.2.WellSized := by
  intro x member
  have isInstr : x.2 ∈ code.map Prod.snd := placed_snd offset code ▸ List.mem_map_of_mem member
  obtain ⟨i, inCode, same⟩ := List.mem_map.mp isInstr
  exact same ▸ sized i inCode

theorem chunk_size (code : Code) : (Code.chunk code).size = code.size := by
  simp only [Chunk.size, chunk, List.size_toArray, length_bytes]

end Code

namespace Chunk

theorem instrAt?_written {c : Chunk} {before after : List UInt8} {i : Instr}
    (bytes : c.code = (before ++ i.bytes ++ after).toArray) (sized : i.WellSized) :
    c.instrAt? before.length = some i := by
  have byte (k : Nat) : c.code[before.length + k]? = (i.bytes ++ after)[k]? := by
    rw [bytes, List.getElem?_toArray, List.append_assoc, List.getElem?_append_right (by omega)]
    simp
  have first := byte 0
  cases i with
  | bare op =>
    have zero : op.operandSize = 0 := by simp only [Instr.WellSized, Instr.size, Instr.op] at sized; omega
    simp only [Instr.bytes, Nat.add_zero, List.cons_append, List.getElem?_cons_zero] at first
    simp [instrAt?, opAt?, byteAt?, first, Opcode.ofByte?_toByte, zero]
  | narrow op n =>
    have one : op.operandSize = 1 := by simp only [Instr.WellSized, Instr.size, Instr.op] at sized; omega
    have second := byte 1
    simp only [Instr.bytes, Nat.add_zero, List.cons_append, List.getElem?_cons_zero,
      List.getElem?_cons_succ] at first second
    simp [instrAt?, opAt?, byteAt?, first, second, Opcode.ofByte?_toByte, one]
  | wide op n =>
    have two : op.operandSize = 2 := by simp only [Instr.WellSized, Instr.size, Instr.op] at sized; omega
    have second := byte 1
    have third := byte 2
    simp only [Instr.bytes, wideBytes, Nat.add_zero, List.cons_append, List.getElem?_cons_zero,
      List.getElem?_cons_succ] at first second third
    simp [instrAt?, opAt?, byteAt?, wideAt?, first, second, third, Opcode.ofByte?_toByte, two,
      ofWideBytes_wideBytes]
  | call op f n =>
    have three : op.operandSize = 3 := by simp only [Instr.WellSized, Instr.size, Instr.op] at sized; omega
    have second := byte 1
    have third := byte 2
    have fourth := byte 3
    simp only [Instr.bytes, wideBytes, Nat.add_zero, List.cons_append, List.getElem?_cons_zero,
      List.getElem?_cons_succ] at first second third fourth
    simp [instrAt?, opAt?, byteAt?, wideAt?, first, second, third, fourth, Opcode.ofByte?_toByte, three,
      ofWideBytes_wideBytes]

theorem lt_size_of_instrAt? {c : Chunk} {offset : Nat} {i : Instr} (found : c.instrAt? offset = some i) :
    offset < c.size := by
  apply Nat.lt_of_not_le
  intro outside
  have missing : c.code[offset]? = none := Array.getElem?_eq_none outside
  simp [instrAt?, opAt?, byteAt?, missing] at found

/-- The instructions stand one after the other from the offset on. -/
def Holds (c : Chunk) : (offset : Nat) → Code → Prop
  | _, [] => True
  | offset, i :: rest => c.instrAt? offset = some i.2 ∧ c.Holds (offset + i.2.size) rest

theorem Holds.instrAt? {c : Chunk} {offset : Nat} {code : Code} (held : c.Holds offset code) :
    ∀ x ∈ code.placed offset, c.instrAt? x.1 = some x.2 := by
  induction code generalizing offset with
  | nil => simp [Code.placed]
  | cons i rest ih => exact List.forall_mem_cons.mpr ⟨held.1, ih held.2⟩

theorem holds_append {c : Chunk} {offset : Nat} {a b : Code} :
    c.Holds offset (a ++ b) ↔ c.Holds offset a ∧ c.Holds (offset + a.size) b := by
  induction a generalizing offset with
  | nil => simp [Holds]
  | cons i rest ih =>
    simp only [List.cons_append, Holds, ih, Code.size_cons, and_assoc, Nat.add_assoc]

theorem holds_written {c : Chunk} (before after : List UInt8) {code : Code}
    (bytes : c.code = (before ++ (code.flatMap fun i => i.2.bytes) ++ after).toArray) (sized : code.WellSized) :
    c.Holds before.length code := by
  induction code generalizing before with
  | nil => trivial
  | cons i rest ih =>
    simp only [List.flatMap_cons] at bytes
    refine ⟨instrAt?_written (by simpa using bytes) (sized i List.mem_cons_self), ?_⟩
    have tail := ih (before ++ i.2.bytes) (by simpa using bytes)
      (fun j member => sized j (List.mem_cons_of_mem _ member))
    simpa [Instr.length_bytes] using tail

theorem opAt?_of_instrAt? {c : Chunk} {offset : Nat} {i : Instr} (found : c.instrAt? offset = some i) :
    c.opAt? offset = some i.op := by
  unfold instrAt? at found
  split at found
  · cases found
  next op atOffset =>
    rw [atOffset]
    split at found
    · cases found
      rfl
    · obtain ⟨n, _, rfl⟩ := Option.map_eq_some_iff.mp found
      rfl
    · obtain ⟨n, _, rfl⟩ := Option.map_eq_some_iff.mp found
      rfl
    · split at found
      · cases found
        rfl
      · cases found

theorem sweepFrom_placed {c : Chunk} {fuel offset : Nat} {code : Code} (held : c.Holds offset code)
    (sized : code.WellSized) (total : offset + code.size = c.size) (enough : code.length ≤ fuel) :
    c.sweepFrom fuel offset = (code.placed offset).map fun x => (x.1, some x.2.op) := by
  induction code generalizing fuel offset with
  | nil =>
    have atEnd : ¬ offset < c.size := by simpa using Nat.le_of_eq total.symm
    cases fuel <;> simp [sweepFrom, atEnd, Code.placed]
  | cons i rest ih =>
    cases fuel with
    | zero => simp at enough
    | succ fuel =>
      rw [Code.wellSized_cons] at sized
      -- The sweep finds its way by the sizes of operands, which are those of the instructions written.
      have positive := i.2.size_pos
      rw [Code.size_cons] at total
      have inside : offset < c.size := by omega
      have next : offset + 1 + i.2.op.operandSize = offset + i.2.size := by
        rw [sized.1]
        omega
      have later := ih held.2 sized.2 (by omega) (Nat.le_of_succ_le_succ enough)
      simp only [sweepFrom, inside, if_true, opAt?_of_instrAt? held.1, next, Code.placed, List.map_cons, later]

end Chunk

/-- Generated code stands at the start of its chunk. -/
theorem Code.chunk_holds {code : Code} (sized : code.WellSized) : (Code.chunk code).Holds 0 code :=
  Chunk.holds_written [] [] (by simp [chunk]) sized

/-- A sweep meets the instructions that were written, in their order. -/
theorem Code.chunk_sweep {code : Code} (sized : code.WellSized) :
    (Code.chunk code).sweep = (code.placed 0).map fun x => (x.1, some x.2.op) := by
  refine Chunk.sweepFrom_placed (Code.chunk_holds sized) sized ?_ ?_
  · rw [Code.chunk_size, Nat.zero_add]
  · rw [Code.chunk_size]
    exact Code.length_le_size code

end TypedExpr
