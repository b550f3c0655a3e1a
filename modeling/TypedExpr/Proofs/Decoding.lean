import TypedExpr.Host.Record
import TypedExpr.Proofs.Computing
/-!
# Reading programs back

A sweep over a program meets the instructions of its code and then one return, which ends it. Each jump of the code
passes over whole instructions behind it (`Contained`), so it leads to where the sweep comes by.
-/

namespace TypedExpr

open Generation
open Machine (isJump)

variable {H : Type}

/-- How many bytes the instruction passes over if it jumps. -/
def Instr.distance? : Instr → Option Nat
  | .wide op n => if isJump op then some n.toNat else none
  | _ => none

namespace Code

/-- The code does not return, and a jump passes over some of the instructions behind it. -/
def Contained : Code → Prop
  | [] => True
  | i :: rest => i.2.op ≠ .return ∧
    (∀ n, i.2.distance? = some n → ∃ passed after : Code, rest = passed ++ after ∧ passed.size = n) ∧
      Contained rest

namespace Contained

variable {line : Nat} {a b code : Code}

theorem nil : Contained [] := trivial

theorem append (first : a.Contained) (second : b.Contained) : (a ++ b).Contained := by
  induction a with
  | nil => exact second
  | cons i rest ih =>
    obtain ⟨noReturn, jumps, later⟩ := first
    refine ⟨noReturn, fun n isJump => ?_, ih later⟩
    obtain ⟨passed, after, same, size⟩ := jumps n isJump
    exact ⟨passed, after ++ b, by rw [← List.append_assoc, ← same]; rfl, size⟩

theorem cons {i : Instr} (noReturn : i.op ≠ .return) (noJump : i.distance? = none) (later : code.Contained) :
    Contained ((line, i) :: code) := by
  refine ⟨noReturn, fun n isJump => ?_, later⟩
  rw [noJump] at isJump
  cases isJump

theorem jump {op : Opcode} {n : UInt16} {passed after : Code} (noReturn : op ≠ .return)
    (size : n.toNat = passed.size) (later : (passed ++ after).Contained) :
    Contained ((line, .wide op n) :: (passed ++ after)) := by
  refine ⟨noReturn, fun distance isJump => ⟨passed, after, rfl, ?_⟩, later⟩
  simp only [Instr.distance?] at isJump
  split at isJump
  · cases isJump
    exact size.symm
  · cases isJump

theorem skip {op : Opcode} {n : UInt16} {body : Code} (noReturn : op ≠ .return) (size : n.toNat = body.size)
    (contained : body.Contained) : Contained ((line, .wide op n) :: body) := by
  rw [← List.append_nil body] at contained ⊢
  exact jump noReturn size contained

theorem choice {op : Opcode} {n past : UInt16} {first second : Code} (noReturn : op ≠ .return)
    (size : n.toNat = first.size + 3) (pastSize : past.toNat = second.size) (passed : first.Contained)
    (taken : second.Contained) :
    Contained ((line, .wide op n) :: (first ++ (line, .wide .jump past) :: second)) := by
  have otherwise : Contained ((line, .wide .jump past) :: second) := skip (by simp) pastSize taken
  have both := passed.append otherwise
  -- The first jump leads behind the second, to what is done instead.
  have reach : n.toNat = (first ++ [(line, Instr.wide .jump past)]).size := by
    simpa [size_append, Instr.size] using size
  rw [List.append_cons] at both ⊢
  exact jump noReturn reach both

/-- From an instruction of the code a jump leads to a place between its instructions, or to its end. -/
theorem target (contained : code.Contained) {base offset n : Nat} {i : Instr}
    (member : (offset, i) ∈ code.placed base) (isJump : i.distance? = some n) :
    ∃ before after, code = before ++ after ∧ offset + i.size + n = base + before.size := by
  induction code generalizing base with
  | nil => cases member
  | cons first rest ih =>
    obtain ⟨_, jumps, later⟩ := contained
    rcases List.mem_cons.mp member with same | member
    · cases same
      obtain ⟨passed, after, split_, size⟩ := jumps n isJump
      refine ⟨first :: passed, after, by rw [split_]; rfl, ?_⟩
      rw [size_cons, size]
      omega
    · obtain ⟨before, after, split_, size⟩ := ih later member
      refine ⟨first :: before, after, by rw [split_]; rfl, ?_⟩
      rw [size_cons, size]
      omega

theorem noReturn (contained : code.Contained) {base offset : Nat} {i : Instr}
    (member : (offset, i) ∈ code.placed base) : i.op ≠ .return := by
  induction code generalizing base with
  | nil => cases member
  | cons first rest ih =>
    obtain ⟨own, _, later⟩ := contained
    rcases List.mem_cons.mp member with same | member
    · cases same
      exact own
    · exact ih later member

end Contained
end Code

theorem Code.contained_composes : Composes Contained where
  nil := .nil
  append := .append
  instr _ noReturn noJump := by
    refine .cons noReturn ?_ .nil
    unfold Instr.distance?
    split
    · exact if_neg (Bool.eq_false_iff.mp noJump)
    · rfl
  skip jumps := .skip (Opcode.ne_return_of_jump jumps)
  choice jumps := .choice (Opcode.ne_return_of_jump jumps)

/-- Generated code is contained, so it may stand anywhere in other code. -/
theorem Layout.contained {c : Catalog H} {T : Tables H} {t : Typed H} {code : Code}
    (layout : Layout c T t (.closed code)) : code.Contained := layout.composed Code.contained_composes

namespace Chunk

theorem operandTextAt_of_instrAt? {c : Chunk} {offset : Nat} {i : Instr} (found : c.instrAt? offset = some i) :
    c.operandTextAt i.op offset = i.operandText := by
  have isOp := opAt?_of_instrAt? found
  simp only [instrAt?, isOp] at found
  unfold operandTextAt
  split at found
  · exact congrArg Instr.operandText (Option.some.inj found)
  · obtain ⟨n, byte, same⟩ := Option.map_eq_some_iff.mp found
    rw [byte]
    exact congrArg Instr.operandText same
  · obtain ⟨n, wide, same⟩ := Option.map_eq_some_iff.mp found
    rw [wide]
    exact congrArg Instr.operandText same
  · split at found
    next f n wide byte =>
      rw [wide, byte]
      exact congrArg Instr.operandText (Option.some.inj found)
    · cases found

/-- The line that lists an instruction at an offset. -/
def listed (offset : Nat) (i : Instr) : String :=
  padded 4 (toString offset) ++ (" " ++ i.op.name ++ i.operandText)

/-- Reading the chunk from its start gives the code, to the last byte. -/
structure Decodes (c : Chunk) (code : Code) : Prop where
  sweep : c.sweep = (code.placed 0).map fun x => (x.1, some x.2.op)
  instrs : ∀ x ∈ code.placed 0, c.instrAt? x.1 = some x.2
  opcodes : c.opcodes = code.map fun i => i.2.op
  listing : c.listing = (code.placed 0).map fun x => listed x.1 x.2
  size : c.size = code.size
  lines : c.lines.size = c.size

end Chunk

theorem Code.chunk_decodes {code : Code} (sized : code.WellSized) : (Code.chunk code).Decodes code where
  sweep := chunk_sweep sized
  instrs := (chunk_holds sized).instrAt?
  opcodes := by
    have ops := congrArg (List.map Instr.op) (placed_snd 0 code)
    rw [Chunk.opcodes, chunk_sweep sized, List.filterMap_map]
    simpa [Function.comp_def] using ops
  listing := by
    rw [Chunk.listing, chunk_sweep sized, List.map_map]
    refine List.map_congr_left fun x member => ?_
    have text := Chunk.operandTextAt_of_instrAt? ((chunk_holds sized).instrAt? x member)
    simp only [Function.comp_apply, text, Chunk.listed]
  size := chunk_size code
  lines := by
    have lines : (code.flatMap fun i => List.replicate i.2.size i.1).length = code.size := by
      induction code with
      | nil => rfl
      | cons i rest ih => simp [List.flatMap_cons, ih (List.forall_mem_cons.mp sized).2]
    rw [chunk_size, ← lines]
    rfl

theorem Instr.eq_wide_of_jump {i : Instr} (sized : i.WellSized) (jumps : isJump i.op = true) :
    ∃ n, i = .wide i.op n ∧ i.distance? = some n.toNat := by
  have two := Opcode.operandSize_of_jump jumps
  cases i with
  | wide op n => exact ⟨n, rfl, if_pos jumps⟩
  | bare op | narrow op | call op =>
    simp only [wellSized_bare, wellSized_narrow, wellSized_call, Instr.op] at sized two
    omega

theorem Code.mem_placed_fst (base : Nat) (before : Code) {after : Code} (nonempty : after ≠ []) :
    base + before.size ∈ (placed base (before ++ after)).map Prod.fst := by
  cases after with
  | nil => exact absurd rfl nonempty
  | cons i rest =>
    rw [placed_append, placed]
    simp

/-- Reading a program from its start gives its code and one return, each jump leads to an offset at which an
instruction is read, and each byte has a line. -/
theorem Expr.compile_decodes {ctx : Context H} {e : Expr} {p : Program H} (compiled : e.compile ctx = .ok p) :
    ∃ t code, (e.resolve ctx .blank).1 = .ok t ∧ t.generate ctx.catalog = .ok (code, p.tables) ∧
      p.chunk.Decodes (code ++ Code.ofOps e.span.line [.return]) ∧
      p.chunk.sweep.getLast? = some (p.chunk.size - 1, some .return) ∧
      (∀ offset, (offset, some .return) ∈ p.chunk.sweep → offset + 1 = p.chunk.size) ∧
      ∀ offset op, (offset, some op) ∈ p.chunk.sweep → isJump op = true →
        ∃ n, p.chunk.instrAt? offset = some (.wide op n) ∧ offset + 3 + n.toNat ∈ p.chunk.sweep.map Prod.fst := by
  obtain ⟨t, code, settled, generated, whole, _, _⟩ := Expr.compile_generates compiled
  have layout := (Typed.generate_layout (Expr.resolve_typed settled) generated).1
  have codeSized : code.WellSized := layout.wellSized
  have contained : code.Contained := layout.contained
  have sized : (code ++ Code.ofOps e.span.line [.return]).WellSized := by simp +decide [codeSized]
  have decodes : p.chunk.Decodes (code ++ Code.ofOps e.span.line [.return]) := whole ▸ Code.chunk_decodes sized
  have size : p.chunk.size = code.size + 1 := by rw [decodes.size]; simp
  have placed : (code ++ Code.ofOps e.span.line [.return]).placed 0 =
      code.placed 0 ++ [(code.size, .bare .return)] := by
    rw [Code.placed_append, Nat.zero_add]
    rfl
  have visited {offset : Nat} {op : Opcode} (member : (offset, some op) ∈ p.chunk.sweep) :
      (∃ i, (offset, i) ∈ code.placed 0 ∧ i.op = op) ∨ offset = code.size ∧ op = .return := by
    rw [decodes.sweep, placed, List.map_append, List.mem_append] at member
    rcases member with member | member
    · obtain ⟨x, inCode, same⟩ := List.mem_map.mp member
      cases same
      exact .inl ⟨x.2, inCode, rfl⟩
    · cases List.mem_singleton.mp member
      exact .inr ⟨rfl, rfl⟩
  refine ⟨t, code, settled, generated, decodes, ?_, fun offset member => ?_, fun offset op member jumps => ?_⟩
  · rw [decodes.sweep, placed, size]
    simp [Instr.op]
  · rcases visited member with ⟨i, inCode, isReturn⟩ | ⟨atEnd, _⟩
    · exact absurd isReturn (contained.noReturn inCode)
    · rw [size, atEnd]
  · rcases visited member with ⟨i, inCode, rfl⟩ | ⟨_, rfl⟩
    · have iSized : i.WellSized := Code.placed_wellSized codeSized 0 (offset, i) inCode
      obtain ⟨n, isWide, distance⟩ := Instr.eq_wide_of_jump iSized jumps
      have three : i.size = 3 := by
        rw [isWide]
        rfl
      obtain ⟨before, after, split_, lands⟩ := contained.target inCode distance
      -- Something follows where the jump lands: at least the return is left.
      have nonempty : after ++ Code.ofOps e.span.line [.return] ≠ [] := by simp [Code.ofOps]
      have reached := Code.mem_placed_fst 0 before nonempty
      rw [← lands, three, ← List.append_assoc, ← split_] at reached
      refine ⟨n, ?_, ?_⟩
      · rw [← isWide]
        exact decodes.instrs (offset, i) (placed ▸ List.mem_append_left _ inCode)
      · rw [decodes.sweep, List.map_map]
        exact reached
    · cases jumps

def ticketContext : Context Record where
  catalog := .empty
  scope := (((({} : Declarations Record).parameter "age" .int).parameter "member" .boolean).parameter "note"
    .string).scope

/-- The expression `age < 18 && member ? 'half' : note ?: 'full'`. -/
def ticketExpr : Expr :=
  .ternary default
    (.logical default .and (.relational default .lt (.name default "age") (.literal default (.int 18)))
      (.name default "member"))
    (.literal default (.string "half")) (.elvis default (.name default "note") (.literal default (.string "full")))

theorem ticketExpr_decodes : ∃ p, ticketExpr.compile ticketContext = .ok p ∧
    (25, some .jump) ∈ p.chunk.sweep ∧ p.chunk.sweep.getLast? = some (p.chunk.size - 1, some .return) ∧
    ∃ n, p.chunk.instrAt? 25 = some (.wide .jump n) ∧ 25 + 3 + n.toNat ∈ p.chunk.sweep.map Prod.fst := by
  have succeeds : (ticketExpr.compile ticketContext).toOption.isSome = true := by decide +kernel
  obtain ⟨p, found⟩ := Option.isSome_iff_exists.mp succeeds
  have swept : ((ticketExpr.compile ticketContext).toOption.map fun p =>
      decide ((25, some .jump) ∈ p.chunk.sweep)) = some true := by decide +kernel
  have visited : (25, some .jump) ∈ p.chunk.sweep := by
    rw [found] at swept
    exact of_decide_eq_true (Option.some.inj swept)
  obtain ⟨_, _, _, _, _, last, _, jumps⟩ := Expr.compile_decodes (toOption_some found)
  exact ⟨p, toOption_some found, visited, last, jumps 25 .jump visited rfl⟩

end TypedExpr
