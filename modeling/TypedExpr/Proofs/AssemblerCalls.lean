import Mathlib.Data.List.Nodup
import TypedExpr.Code.Assembler
import TypedExpr.Host.Record
import TypedExpr.Machine
import TypedExpr.Proofs.Layout
/-!
# Emitted constants

An assembler is used by calls in any order. Each call adds to the end of the code, and at most one constant to the pool;
only jumps are patched later (`perform_keeps`). So after any calls the pool holds the constants that were needed in the
order of their first use (`After.run`), and the instructions that were written for literals and types still stand where
they were and mean what they meant (`performAll_faithful`).
-/

namespace TypedExpr

variable {H : Type}

/-! ### The pool -/

namespace ConstantPool

/-- No constant stands twice, and the number of each is found by its fingerprint. -/
structure Valid (p : ConstantPool) : Prop where
  distinct : p.entries.toList.Nodup
  listed : ∀ {index : Nat} {c : Constant}, p.get? index = some c → index ∈ p.buckets.getD c.fingerprint []

theorem empty_valid : Valid {} := ⟨by simp, by simp [get?]⟩

theorem get?_eq (p : ConstantPool) (index : Nat) : p.get? index = p.entries.toList[index]? :=
  Array.getElem?_toList.symm

namespace Valid

variable {p : ConstantPool} {c : Constant}

theorem index_eq (valid : p.Valid) {index : Nat} (entry : p.get? index = some c) :
    index = p.entries.toList.idxOf c := by
  rw [get?_eq] at entry
  obtain ⟨inside, rfl⟩ := List.getElem?_eq_some_iff.mp entry
  exact (valid.distinct.idxOf_getElem index inside).symm

theorem find?_mem (valid : p.Valid) (member : c ∈ p.entries.toList) : p.find? c = some (p.entries.toList.idxOf c) := by
  have entry : p.get? (p.entries.toList.idxOf c) = some c := by
    rw [get?_eq, List.getElem?_eq_some_iff]
    exact ⟨List.idxOf_lt_length_of_mem member, List.getElem_idxOf _⟩
  have found : (p.find? c).isSome = true := by
    rw [find?, List.find?_isSome]
    exact ⟨_, valid.listed entry, by simp [entry]⟩
  obtain ⟨index, isIndex⟩ := Option.isSome_iff_exists.mp found
  have hit : p.get? index = some c := by simpa using List.find?_some isIndex
  rw [isIndex, valid.index_eq hit]

theorem find?_not_mem (p : ConstantPool) (fresh : c ∉ p.entries.toList) : p.find? c = none := by
  rw [find?, List.find?_eq_none]
  intro index _ hit
  have entry : p.get? index = some c := by simpa using hit
  rw [get?_eq] at entry
  exact fresh (List.mem_of_getElem? entry)

/-- A constant gets the number of its place among the entries; a new one gets the next place. -/
theorem add_index (valid : p.Valid) (c : Constant) : (p.add c).1 = p.entries.toList.idxOf c := by
  by_cases member : c ∈ p.entries.toList
  · rw [add, valid.find?_mem member]
  · rw [add, find?_not_mem p member, List.idxOf_eq_length member, Array.length_toList]
    rfl

theorem add_entries (valid : p.Valid) (c : Constant) :
    (p.add c).2.entries.toList = p.entries.toList ++ if c ∈ p.entries.toList then [] else [c] := by
  by_cases member : c ∈ p.entries.toList
  · rw [add, valid.find?_mem member, if_pos member, List.append_nil]
  · rw [add, find?_not_mem p member, if_neg member]
    exact Array.toList_push

theorem add (valid : p.Valid) (c : Constant) : (p.add c).2.Valid := by
  by_cases member : c ∈ p.entries.toList
  · rw [ConstantPool.add, valid.find?_mem member]
    exact valid
  · have added : (p.add c).2 =
        ⟨p.entries.push c, p.buckets.insert c.fingerprint (p.size :: p.buckets.getD c.fingerprint [])⟩ := by
      rw [ConstantPool.add, find?_not_mem p member]
    rw [added]
    constructor
    · rw [Array.toList_push]
      rw [← List.concat_eq_append]
      exact valid.distinct.concat member
    · intro index d entry
      rw [Std.TreeMap.getD_insert]
      rw [get?, Array.getElem?_push] at entry
      split at entry
      next isLast =>
        cases entry
        simp [isLast, size]
      next =>
        have old := valid.listed entry
        split
        next same =>
          rw [Std.compare_eq_iff_eq] at same
          exact List.mem_cons_of_mem _ (same ▸ old)
        next => exact old

end Valid
end ConstantPool

theorem eraseDups_concat (used : List Constant) (c : Constant) :
    (used ++ [c]).eraseDups = used.eraseDups ++ if c ∈ used.eraseDups then [] else [c] := by
  rw [List.eraseDups_append]
  by_cases member : c ∈ used <;> simp [member, List.removeAll, List.eraseDups_cons]

/-! ### Calls -/

/-- The constant that loading a literal needs. -/
def Literal.constant? : Literal → Option Constant
  | .int n => if n = 0 ∨ n = 1 then none else some (.int n)
  | .long n => some (.long n)
  | .float x => some (.float x)
  | .double x => some (.double x)
  | .string s => some (.string s)
  | .bool _ | .null => none

/-- Loads a literal. -/
def Assembly.literal : Literal → Assembly H Unit
  | .bool b => bool b
  | .int n => int n
  | .long n => long n
  | .float x => constant (.float x)
  | .double x => constant (.double x)
  | .string s => constant (.string s)
  | .null => null

/-- A call on an assembler. -/
inductive AssemblerCall (H : Type) where
  | literal (v : Literal)
  | typeOp (op : Opcode) (t : Ty)
  | constant (c : Constant)
  | write (i : Instr)
  | setLine (line : Nat)
  | argument (index : Nat)
  | concat (count : Nat)
  | newArray (count : Nat)
  | coerce (source : Ty) (target : Kind)
  | call (op : Opcode) (m : Method H) (count : Nat)
  | pattern (p : Pattern)
  | jump (op : Opcode)
  /-- Lets the jump with this number, counted from the first one, lead to the end of the code. -/
  | patch (number : Nat)

namespace AssemblerCall

/-- The constant that the instruction of a call refers to. -/
def constant? : AssemblerCall H → Option Constant
  | .literal v => v.constant?
  | .typeOp _ t => some (.type t)
  | .constant c => some c
  | _ => none

/-- What a call does that is not about jumps. -/
def act : AssemblerCall H → Assembly H Unit
  | .literal v => Assembly.literal v
  | .typeOp op t => Assembly.typeOp op t
  | .constant c => Assembly.constant c
  | .write i => Assembly.write i
  | .setLine line => Assembly.setLine line
  | .argument index => Assembly.argument index
  | .concat count => Assembly.concat count
  | .newArray count => Assembly.newArray count
  | .coerce source target => Assembly.coerce source target
  | .call op m count => Assembly.call op m count
  | .pattern p => Assembly.pattern p
  | .jump _ | .patch _ => pure ()

/-- Makes a call; `jumps` are the offsets of the operands of the jumps so far. -/
def perform (jumps : List Nat) : AssemblerCall H → Assembly H (List Nat)
  | .jump op => do return jumps ++ [← Assembly.jump op]
  | .patch number => do
    (jumps[number]?).forM Assembly.patch
    return jumps
  | e => do
    e.act
    return jumps

/-- Makes calls one after the other, until one fails. -/
def performAll (jumps : List Nat) : List (AssemblerCall H) → Assembly H (List Nat)
  | [] => return jumps
  | e :: rest => do performAll (← e.perform jumps) rest

end AssemblerCall

namespace Assembly

variable {α β : Type} {a b : Assembler H}

theorem bind_ok {x : Assembly H α} {f : α → Assembly H β} {r : β} (done : (x >>= f).run.run a = (.ok r, b)) :
    ∃ v m, x.run.run a = (.ok v, m) ∧ (f v).run.run m = (.ok r, b) := by
  rw [ExceptT.run_bind, StateT.run_bind] at done
  cases first : x.run.run a with
  | mk outcome m =>
    rw [first] at done
    cases outcome with
    | error fault => cases done
    | ok v => exact ⟨v, m, rfl, done⟩

/-- A step that succeeds and then returns something fixed. -/
theorem then_ok {x : Assembly H Unit} {r r' : α} (done : (do x; return r : Assembly H α).run.run a = (.ok r', b)) :
    r' = r ∧ x.run.run a = (.ok (), b) := by
  obtain ⟨_, m, first, second⟩ := bind_ok done
  cases second
  exact ⟨rfl, first⟩

theorem lift_ok {x : Except InternalFault α} {v : α} (done : (liftExcept x : Assembly H α).run.run a = (.ok v, b)) :
    x = .ok v ∧ b = a := by
  cases x with
  | error fault => cases done
  | ok w =>
    cases done
    exact ⟨rfl, rfl⟩

/-- The step adds bytes at the end of the code, and to the pool at most one constant. -/
def Appends (x : Assembly H Unit) (used : Option Constant) : Prop :=
  ∀ a b : Assembler H, x.run.run a = (.ok (), b) →
    (∃ more, b.chunk.code.toList = a.chunk.code.toList ++ more) ∧
      b.tables.constants = used.elim a.tables.constants fun c => (a.tables.constants.add c).2

end Assembly

theorem Tables.function_constants {T U : Tables H} {m : Method H} {f : UInt16} (linked : T.function m = .ok (f, U)) :
    U.constants = T.constants := by
  unfold function at linked
  split at linked
  · cases linked
    rfl
  · split at linked
    · cases linked
      rfl
    · cases linked

theorem Tables.pattern_constants (T : Tables H) (p : Pattern) : (T.pattern p).2.constants = T.constants := by
  unfold pattern
  split <;> rfl

theorem Chunk.writeBytes_eq (c : Chunk) (bytes : List UInt8) (line : Nat) :
    c.writeBytes bytes line = ⟨c.code ++ bytes.toArray, c.lines ++ (List.replicate bytes.length line).toArray⟩ := by
  induction bytes generalizing c with
  | nil => simp [writeBytes]
  | cons byte more ih =>
    have first : c.writeBytes (byte :: more) line = (c.writeByte byte line).writeBytes more line := rfl
    rw [first, ih, writeByte, List.length_cons, List.replicate_succ]
    simp only [List.push_append_toArray]

theorem Chunk.write_code (c : Chunk) (i : Instr) (line : Nat) :
    (c.write i line).code.toList = c.code.toList ++ i.bytes := by
  rw [write, writeBytes_eq, Array.toList_append]

namespace Assembly

variable {a b : Assembler H}

theorem write_ok {i : Instr} (done : (write i : Assembly H Unit).run.run a = (.ok (), b)) :
    b = { a with chunk := a.chunk.write i a.line } := by
  cases done
  rfl

theorem writeChecked_ok {i : Except InternalFault Instr}
    (done : (writeChecked i : Assembly H Unit).run.run a = (.ok (), b)) :
    ∃ j, i = .ok j ∧ b = { a with chunk := a.chunk.write j a.line } := by
  cases i with
  | error fault => cases done
  | ok j => exact ⟨j, rfl, write_ok done⟩

theorem writeChecked_error {i : Except InternalFault Instr} :
    (∃ fault, ((writeChecked i : Assembly H Unit).run.run a).1 = .error fault) ↔ ∃ fault, i = .error fault := by
  cases i with
  | error fault => exact ⟨fun _ => ⟨fault, rfl⟩, fun _ => ⟨fault, rfl⟩⟩
  | ok i =>
    constructor
    · rintro ⟨_, failed⟩
      cases failed
    · rintro ⟨_, failed⟩
      cases failed

theorem constant_run (a : Assembler H) (c : Constant) :
    (constant c : Assembly H Unit).run.run a =
      (writeChecked (loadConstant (a.tables.constant c).1) : Assembly H Unit).run.run
        { a with tables := (a.tables.constant c).2 } := rfl

theorem typeOp_run (a : Assembler H) (op : Opcode) (t : Ty) :
    (typeOp op t : Assembly H Unit).run.run a =
      (writeChecked (typeInstr op (a.tables.constant (.type t)).1) : Assembly H Unit).run.run
        { a with tables := (a.tables.constant (.type t)).2 } := rfl

/-- A literal is pushed by an operation of its own, or loaded from the pool. -/
theorem literal_cases (v : Literal) :
    (∃ op, (literal v : Assembly H Unit) = emit op ∧ v.constant? = none ∧ op.operandSize = 0 ∧
      ∀ T : Tables H, T.Loads v (.bare op)) ∨
    ∃ c, (literal v : Assembly H Unit) = constant c ∧ v.constant? = some c ∧ c.value? = some (v.value : Value H) := by
  cases v with
  | int n =>
    by_cases zero : n = 0
    · subst zero
      exact .inl ⟨.pushZero, rfl, rfl, rfl, fun _ => .zero⟩
    · by_cases one : n = 1
      · subst one
        exact .inl ⟨.pushOne, rfl, rfl, rfl, fun _ => .one⟩
      · refine .inr ⟨.int n, ?_, ?_, rfl⟩
        · rw [literal, int, if_neg zero, if_neg one]
        · rw [Literal.constant?, if_neg (by simp [zero, one])]
  | bool b => exact .inl ⟨_, rfl, rfl, by cases b <;> rfl, fun _ => .bool b⟩
  | null => exact .inl ⟨.pushNull, rfl, rfl, rfl, fun _ => .null⟩
  | _ => exact .inr ⟨_, rfl, rfl, rfl⟩

namespace Appends

theorem write (i : Instr) : Appends (Assembly.write i : Assembly H Unit) none := by
  intro a b done
  rw [write_ok done]
  exact ⟨⟨i.bytes, Chunk.write_code ..⟩, rfl⟩

theorem writeChecked (i : Except InternalFault Instr) : Appends (Assembly.writeChecked i : Assembly H Unit) none := by
  intro a b done
  obtain ⟨j, -, rfl⟩ := writeChecked_ok done
  exact ⟨⟨j.bytes, Chunk.write_code ..⟩, rfl⟩

theorem constant (c : Constant) : Appends (Assembly.constant c : Assembly H Unit) (some c) := by
  intro a b done
  rw [constant_run] at done
  exact writeChecked _ _ _ done

theorem typeOp (op : Opcode) (t : Ty) : Appends (Assembly.typeOp op t : Assembly H Unit) (some (.type t)) := by
  intro a b done
  rw [typeOp_run] at done
  exact writeChecked _ _ _ done

theorem literal (v : Literal) : Appends (Assembly.literal v : Assembly H Unit) v.constant? := by
  rcases literal_cases (H := H) v with ⟨op, isBare, needed, -⟩ | ⟨c, isConstant, needed, -⟩
  · rw [isBare, needed]
    exact write (.bare op)
  · rw [isConstant, needed]
    exact constant c

theorem coerce (source : Ty) (target : Kind) : Appends (Assembly.coerce source target : Assembly H Unit) none := by
  unfold Assembly.coerce
  induction source.coercionCode target with
  | nil =>
    intro a b done
    cases done
    exact ⟨⟨[], (List.append_nil _).symm⟩, rfl⟩
  | cons op rest ih =>
    intro a b done
    obtain ⟨_, m, first, second⟩ := bind_ok done
    obtain ⟨⟨bytes, wrote⟩, kept⟩ := write (.bare op) _ _ first
    obtain ⟨⟨more, wroteMore⟩, keptMore⟩ := ih _ _ second
    exact ⟨⟨bytes ++ more, by rw [wroteMore, wrote, List.append_assoc]⟩, keptMore.trans kept⟩

theorem call (op : Opcode) (m : Method H) (count : Nat) : Appends (Assembly.call op m count) none := by
  intro a b done
  obtain ⟨_, _, started, done⟩ := bind_ok done
  cases started
  obtain ⟨⟨index, tables⟩, _, linked, done⟩ := bind_ok done
  obtain ⟨linked, rfl⟩ := lift_ok linked
  obtain ⟨_, _, stored, done⟩ := bind_ok done
  cases stored
  obtain ⟨wrote, kept⟩ := writeChecked _ _ _ done
  exact ⟨wrote, kept.trans (Tables.function_constants linked)⟩

theorem pattern (p : Pattern) : Appends (Assembly.pattern p : Assembly H Unit) none := by
  intro a b done
  obtain ⟨index, _, stored, done⟩ := bind_ok done
  cases stored
  obtain ⟨wrote, kept⟩ := writeChecked _ _ _ done
  exact ⟨wrote, kept.trans (a.tables.pattern_constants p)⟩

end Appends

end Assembly

/-- Every call that is not about jumps adds to the end of the code, and the constant that it needs to the pool. -/
theorem AssemblerCall.act_appends (e : AssemblerCall H) : Assembly.Appends e.act e.constant? := by
  cases e with
  | literal v => exact .literal v
  | typeOp op t => exact .typeOp op t
  | constant c => exact .constant c
  | write i => exact .write i
  | argument | concat | newArray => exact .writeChecked _
  | coerce source target => exact .coerce source target
  | call op m count => exact .call op m count
  | pattern p => exact .pattern p
  | setLine | jump | patch =>
    intro a b done
    cases done
    exact ⟨⟨[], (List.append_nil _).symm⟩, rfl⟩

/-! ### Sequences of calls -/

/-- Between two moments the code only grows, except that jumps are patched. -/
structure Assembler.Keeps (jumps : List Nat) (a : Assembler H) (jumps' : List Nat) (b : Assembler H) : Prop where
  size : a.chunk.size ≤ b.chunk.size
  bytes : ∀ q < a.chunk.size, (∀ l ∈ jumps, q ≠ l ∧ q ≠ l + 1) → b.chunk.code[q]? = a.chunk.code[q]?
  fresh : ∀ l ∈ jumps', l ∈ jumps ∨ a.chunk.size < l ∧ l + 2 ≤ b.chunk.size

namespace Assembler.Keeps

variable {jumps jumps' jumps'' : List Nat} {a b c : Assembler H}

theorem refl (jumps : List Nat) (a : Assembler H) : Keeps jumps a jumps a :=
  ⟨Nat.le_refl _, fun _ _ _ => rfl, fun _ => .inl⟩

theorem trans (first : Keeps jumps a jumps' b) (second : Keeps jumps' b jumps'' c) : Keeps jumps a jumps'' c where
  size := Nat.le_trans first.size second.size
  bytes q inside apart := by
    rw [second.bytes q (Nat.lt_of_lt_of_le inside first.size), first.bytes q inside apart]
    intro l isJump
    rcases first.fresh l isJump with old | ⟨behind, -⟩
    · exact apart l old
    · omega
  fresh l isJump := by
    have longer := first.size
    rcases second.fresh l isJump with old | ⟨behind, within⟩
    · have later := second.size
      rcases first.fresh l old with old | ⟨behind, within⟩
      · exact .inl old
      · exact .inr (by omega)
    · exact .inr (by omega)

theorem append {more : List UInt8} (wrote : b.chunk.code.toList = a.chunk.code.toList ++ more) (jumps : List Nat) :
    Keeps jumps a jumps b where
  size := by
    have lengths := congrArg List.length wrote
    simp only [Array.length_toList, List.length_append] at lengths
    rw [Chunk.size, Chunk.size]
    omega
  bytes q inside _ := by
    rw [← Array.getElem?_toList, wrote, List.getElem?_append_left (by simpa [Chunk.size] using inside),
      Array.getElem?_toList]
  fresh _ := .inl

end Assembler.Keeps

theorem Chunk.patchJump_ok {c d : Chunk} {offset : Nat} (patched : c.patchJump offset = .ok d) :
    d.size = c.size ∧ ∀ q, q ≠ offset → q ≠ offset + 1 → d.code[q]? = c.code[q]? := by
  unfold patchJump at patched
  split at patched
  · cases patched
  · cases patched
    refine ⟨by simp [size], fun q first second => ?_⟩
    rw [Array.getElem?_setIfInBounds_ne (Ne.symm second), Array.getElem?_setIfInBounds_ne (Ne.symm first)]

theorem Assembly.patch_ok {a b : Assembler H} {offset : Nat} (done : (patch offset).run.run a = (.ok (), b)) :
    ∃ chunk, a.chunk.patchJump offset = .ok chunk ∧ b = { a with chunk } := by
  obtain ⟨_, _, started, done⟩ := bind_ok done
  cases started
  obtain ⟨chunk, _, patched, done⟩ := bind_ok done
  obtain ⟨patched, rfl⟩ := lift_ok patched
  cases done
  exact ⟨chunk, patched, rfl⟩

namespace AssemblerCall

variable {jumps jumps' : List Nat} {e : AssemblerCall H} {es : List (AssemblerCall H)} {a b : Assembler H}

theorem perform_keeps (done : (e.perform jumps).run.run a = (.ok jumps', b)) :
    a.Keeps jumps jumps' b ∧
      b.tables.constants = e.constant?.elim a.tables.constants fun c => (a.tables.constants.add c).2 := by
  cases e with
  | jump op =>
    obtain ⟨_, _, wrote, done⟩ := Assembly.bind_ok done
    cases wrote
    cases done
    have code := Chunk.write_code a.chunk (.wide op Chunk.openJump) a.line
    obtain ⟨size, bytes, -⟩ := Assembler.Keeps.append (b := { a with chunk := a.chunk.write _ a.line }) code jumps
    refine ⟨⟨size, bytes, fun l isJump => ?_⟩, rfl⟩
    rw [List.mem_append, List.mem_singleton] at isJump
    refine isJump.imp_right fun new => ?_
    have longer : (a.chunk.write (.wide op Chunk.openJump) a.line).size = a.chunk.size + 3 := by
      simpa [Instr.length_bytes, Instr.size, Chunk.size] using congrArg List.length code
    change l = a.chunk.size + 1 at new
    change a.chunk.size < l ∧ l + 2 ≤ (a.chunk.write (.wide op Chunk.openJump) a.line).size
    omega
  | patch number =>
    obtain ⟨same, patched⟩ := Assembly.then_ok done
    subst same
    cases found : jumps'[number]? with
    | none =>
      rw [found] at patched
      cases patched
      exact ⟨.refl _ _, rfl⟩
    | some offset =>
      rw [found] at patched
      obtain ⟨chunk, fits, rfl⟩ := Assembly.patch_ok patched
      obtain ⟨size, bytes⟩ := Chunk.patchJump_ok fits
      refine ⟨⟨Nat.le_of_eq size.symm, fun q _ apart => ?_, fun _ => .inl⟩, rfl⟩
      have others := apart offset (List.mem_of_getElem? found)
      exact bytes q others.1 others.2
  | _ =>
    obtain ⟨same, acted⟩ := Assembly.then_ok done
    subst same
    obtain ⟨⟨more, wrote⟩, pool⟩ := act_appends _ _ _ acted
    exact ⟨.append wrote _, pool⟩

/-- The state after calls: the constants they needed stand in the pool in the order of their first use. -/
structure After (jumps : List Nat) (used : List Constant) (a : Assembler H) : Prop where
  pool : a.tables.constants.Valid
  entries : a.tables.constants.entries.toList = used.eraseDups
  inside : ∀ l ∈ jumps, l + 2 ≤ a.chunk.size

theorem after_start : After [] [] ({} : Assembler H) := ⟨ConstantPool.empty_valid, rfl, by simp⟩

theorem After.step {used : List Constant} (after : After jumps used a)
    (done : (e.perform jumps).run.run a = (.ok jumps', b)) : After jumps' (used ++ e.constant?.toList) b := by
  obtain ⟨keeps, pool⟩ := perform_keeps done
  have inside : ∀ l ∈ jumps', l + 2 ≤ b.chunk.size := by
    intro l isJump
    rcases keeps.fresh l isJump with old | ⟨-, within⟩
    · exact Nat.le_trans (after.inside l old) keeps.size
    · exact within
  cases needed : e.constant? with
  | none =>
    rw [needed] at pool
    refine ⟨pool ▸ after.pool, ?_, inside⟩
    rw [pool, Option.elim_none, after.entries, Option.toList_none, List.append_nil]
  | some c =>
    rw [needed] at pool
    refine ⟨pool ▸ after.pool.add c, ?_, inside⟩
    rw [pool, Option.elim_some, after.pool.add_entries, after.entries, Option.toList_some, eraseDups_concat]

theorem perform_longer (done : (e.perform jumps).run.run a = (.ok jumps', b)) :
    a.tables.constants.entries.toList <+: b.tables.constants.entries.toList := by
  rw [(perform_keeps done).2]
  cases e.constant? with
  | none => exact List.prefix_rfl
  | some c => exact (Tables.constantPool_add_spec rfl).1

theorem performAll_keeps (done : (performAll jumps es).run.run a = (.ok jumps', b)) :
    a.Keeps jumps jumps' b ∧ a.tables.constants.entries.toList <+: b.tables.constants.entries.toList := by
  induction es generalizing jumps a with
  | nil =>
    cases done
    exact ⟨.refl _ _, List.prefix_rfl⟩
  | cons e rest ih =>
    obtain ⟨_, _, first, done⟩ := Assembly.bind_ok done
    obtain ⟨keeps, longer⟩ := ih done
    exact ⟨(perform_keeps first).1.trans keeps, (perform_longer first).trans longer⟩

theorem After.run {used : List Constant} (after : After jumps used a)
    (done : (performAll jumps es).run.run a = (.ok jumps', b)) : After jumps' (used ++ es.filterMap constant?) b := by
  induction es generalizing jumps used a with
  | nil =>
    cases done
    simpa using after
  | cons e rest ih =>
    obtain ⟨_, _, first, done⟩ := Assembly.bind_ok done
    have whole : used ++ (e :: rest).filterMap constant? =
        used ++ e.constant?.toList ++ rest.filterMap constant? := by
      cases needed : e.constant? <;> simp [needed]
    rw [whole]
    exact ih (after.step first) done

theorem performAll_split {before after : List (AssemblerCall H)}
    (done : (performAll jumps (before ++ after)).run.run a = (.ok jumps', b)) :
    ∃ middle m, (performAll jumps before).run.run a = (.ok middle, m) ∧
      (performAll middle after).run.run m = (.ok jumps', b) := by
  induction before generalizing jumps a with
  | nil => exact ⟨jumps, a, rfl, done⟩
  | cons e rest ih =>
    obtain ⟨next, m, first, done⟩ := Assembly.bind_ok done
    obtain ⟨middle, n, second, done⟩ := ih done
    refine ⟨middle, n, ?_, done⟩
    rw [performAll, ExceptT.run_bind, StateT.run_bind, first]
    exact second

end AssemblerCall

/-! ### The instructions of literals and types -/

theorem loadConstant_ok {index : Nat} {i : Instr} (made : loadConstant index = .ok i) :
    (∃ n : UInt8, n.toNat = index ∧ i = .narrow .constant n) ∨
      ∃ n : UInt16, n.toNat = index ∧ i = .wide .constantWide n := by
  unfold loadConstant at made
  split at made
  next small =>
    cases made
    exact .inl ⟨_, by simpa using Nat.mod_eq_of_lt small, rfl⟩
  · split at made
    next n fits =>
      cases made
      exact .inr ⟨n, (Tables.operand_ok fits).2, rfl⟩
    · cases made

theorem operand_error_iff (what : String) {n : Nat} : (∃ fault, operand what n = .error fault) ↔ 65535 < n := by
  unfold operand
  split
  next fits => simpa [maxOperand] using fits
  next large => simpa [maxOperand] using large

theorem loadConstant_error_iff {index : Nat} : (∃ fault, loadConstant index = .error fault) ↔ 65535 < index := by
  rw [← operand_error_iff "constant"]
  unfold loadConstant
  split
  next small =>
    have fits : operand "constant" index = .ok index.toUInt16 := if_pos (by simp only [maxOperand]; omega)
    simp [fits]
  next => cases operand "constant" index <;> simp

theorem typeInstr_error_iff {op : Opcode} {index : Nat} :
    (∃ fault, typeInstr op index = .error fault) ↔ 65535 < index := by
  rw [← operand_error_iff "constant"]
  unfold typeInstr
  cases operand "constant" index <;> simp

theorem Tables.constant_get? (T : Tables H) (c : Constant) :
    (T.constant c).2.constants.get? (T.constant c).1 = some c :=
  (constant_spec rfl).2

namespace Assembly

variable {a b : Assembler H}

/-- A successful call for a literal writes one instruction, which loads the literal. -/
theorem literal_loads {v : Literal} (done : (literal v : Assembly H Unit).run.run a = (.ok (), b)) :
    ∃ i, b.chunk.code.toList = a.chunk.code.toList ++ i.bytes ∧ i.WellSized ∧ b.tables.Loads v i := by
  rcases literal_cases (H := H) v with ⟨op, isBare, -, sized, loads⟩ | ⟨c, isConstant, -, same⟩
  · rw [isBare] at done
    refine ⟨.bare op, ?_, (Instr.wellSized_bare op).mpr sized, loads b.tables⟩
    rw [write_ok done, Chunk.write_code]
  · rw [isConstant, constant_run] at done
    obtain ⟨i, made, rfl⟩ := writeChecked_ok done
    have entry := a.tables.constant_get? c
    refine ⟨i, Chunk.write_code .., ?_⟩
    rcases loadConstant_ok made with ⟨n, number, rfl⟩ | ⟨n, number, rfl⟩
    · exact ⟨rfl, .narrow (number ▸ entry) same⟩
    · exact ⟨rfl, .wide (number ▸ entry) same⟩

theorem typeOp_names {op : Opcode} {t : Ty} (done : (typeOp op t : Assembly H Unit).run.run a = (.ok (), b)) :
    ∃ n, b.chunk.code.toList = a.chunk.code.toList ++ (Instr.wide op n).bytes ∧ b.tables.Names n t := by
  rw [typeOp_run] at done
  obtain ⟨i, made, rfl⟩ := writeChecked_ok done
  unfold typeInstr at made
  split at made
  next n fits =>
    cases made
    refine ⟨n, Chunk.write_code .., ?_⟩
    rw [Tables.Names, (Tables.operand_ok fits).2]
    exact a.tables.constant_get? (.type t)
  · cases made

end Assembly

theorem Tables.Loads.mono {T U : Tables H} {v : Literal} {i : Instr} (loads : T.Loads v i)
    (kept : ∀ index k, T.constants.get? index = some k → U.constants.get? index = some k) : U.Loads v i := by
  cases loads with
  | bool b => exact .bool b
  | zero => exact .zero
  | one => exact .one
  | null => exact .null
  | narrow entry same => exact .narrow (kept _ _ entry) same
  | wide entry same => exact .wide (kept _ _ entry) same

theorem Tables.Loads.step [HostObject H] {p : Program H} {v : Literal} {i : Instr} (loads : p.tables.Loads v i)
    (env : Environment H) (stack : List (Value H)) (offset : Nat) :
    Machine.step p env i ⟨stack, offset⟩ = .ok ⟨v.value :: stack, offset + i.size⟩ := by
  cases loads with
  | bool b => cases b <;> rfl
  | zero | one | null => rfl
  | narrow entry same =>
    simp only [Machine.step, Machine.runNarrow, Machine.constantValue, entry, Option.bind_some, same]
    rfl
  | wide entry same =>
    simp only [Machine.step, Machine.isJump, Machine.runWide, Machine.constantValue, entry, Option.bind_some, same]
    rfl

theorem Chunk.instrAt?_of_bytes {c : Chunk} {offset : Nat} {i : Instr} (sized : i.WellSized)
    (bytes : ∀ k < i.bytes.length, c.code[offset + k]? = i.bytes[k]?) : c.instrAt? offset = some i := by
  have positive := i.length_bytes ▸ i.size_pos
  have inside : offset < c.code.toList.length := by
    have first := bytes 0 positive
    rw [List.getElem?_eq_getElem positive, Nat.add_zero, Array.getElem?_eq_some_iff] at first
    exact first.1
  have middle : (c.code.toList.drop offset).take i.bytes.length = i.bytes := by
    apply List.ext_getElem?
    intro k
    rw [List.getElem?_take, List.getElem?_drop, Array.getElem?_toList]
    split
    next written => exact bytes k written
    next outside => exact (List.getElem?_eq_none (by omega)).symm
  have split := List.take_append_drop i.bytes.length (c.code.toList.drop offset)
  rw [middle] at split
  have whole : c.code.toList.take offset ++ i.bytes ++ (c.code.toList.drop offset).drop i.bytes.length =
      c.code.toList := by
    rw [List.append_assoc, split, List.take_append_drop]
  have found := instrAt?_written (whole ▸ c.code.toArray_toList.symm) sized
  rwa [List.length_take, Nat.min_eq_left (Nat.le_of_lt inside)] at found

/-- What a call wrote is not touched by later calls, since the jumps that they patch stand elsewhere. -/
theorem Assembler.Keeps.written {jumps jumps' : List Nat} {a b c : Assembler H} {bytes : List UInt8}
    (wrote : b.chunk.code.toList = a.chunk.code.toList ++ bytes) (inside : ∀ l ∈ jumps, l + 2 ≤ a.chunk.size)
    (keeps : b.Keeps jumps jumps' c) : ∀ k < bytes.length, c.chunk.code[a.chunk.size + k]? = bytes[k]? := by
  intro k within
  have size : b.chunk.size = a.chunk.size + bytes.length := by
    simpa [Chunk.size] using congrArg List.length wrote
  have apart : ∀ l ∈ jumps, a.chunk.size + k ≠ l ∧ a.chunk.size + k ≠ l + 1 := by
    intro l isJump
    have before := inside l isJump
    omega
  rw [keeps.bytes _ (by omega) apart, ← Array.getElem?_toList, wrote, List.getElem?_append_right (by simp [Chunk.size])]
  simp [Chunk.size]

namespace AssemblerCall

variable {jumps jumps' jumps'' : List Nat} {e : AssemblerCall H} {a b c : Assembler H}

/-- At the offset stands the instruction of a call for a literal or a type: it pushes the literal, or its operand is
read as the type. -/
def Stands [HostObject H] (p : Program H) (offset : Nat) : AssemblerCall H → Prop
  | .literal v => ∃ i, p.chunk.instrAt? offset = some i ∧
      ∀ env stack, Machine.step p env i ⟨stack, offset⟩ = .ok ⟨v.value :: stack, offset + i.size⟩
  | .typeOp op t => p.chunk.opAt? offset = some op ∧
      ∃ n, p.chunk.wideAt? (offset + 1) = some n ∧ Machine.constantType p n.toNat = .ok t
  | _ => True

theorem After.stands [HostObject H] {used : List Constant} (after : After jumps used a)
    (done : (e.perform jumps).run.run a = (.ok jumps', b)) (keeps : b.Keeps jumps' jumps'' c)
    (longer : b.tables.constants.entries.toList <+: c.tables.constants.entries.toList) {p : Program H}
    (chunk : p.chunk = c.chunk) (tables : p.tables = c.tables) : e.Stands p a.chunk.size := by
  have kept (index : Nat) (k : Constant) (entry : b.tables.constants.get? index = some k) :
      p.tables.constants.get? index = some k := by
    rw [tables]
    exact Tables.prefix_getElem? longer entry
  cases e with
  | literal v =>
    obtain ⟨same, acted⟩ := Assembly.then_ok done
    subst same
    obtain ⟨i, wrote, sized, loads⟩ := Assembly.literal_loads acted
    have bytes := keeps.written wrote after.inside
    rw [← chunk] at bytes
    exact ⟨i, Chunk.instrAt?_of_bytes sized bytes, fun env stack => (loads.mono kept).step env stack _⟩
  | typeOp op t =>
    obtain ⟨same, acted⟩ := Assembly.then_ok done
    subst same
    obtain ⟨n, wrote, names⟩ := Assembly.typeOp_names acted
    have bytes := keeps.written wrote after.inside
    rw [← chunk] at bytes
    have first : p.chunk.code[a.chunk.size]? = some op.toByte := bytes 0 (by simp [Instr.length_bytes, Instr.size])
    have second : p.chunk.code[a.chunk.size + 1]? = some (n >>> 8).toUInt8 :=
      bytes 1 (by simp [Instr.length_bytes, Instr.size])
    have third : p.chunk.code[a.chunk.size + 1 + 1]? = some n.toUInt8 :=
      bytes 2 (by simp [Instr.length_bytes, Instr.size])
    refine ⟨?_, n, ?_, ?_⟩
    · rw [Chunk.opAt?, Chunk.byteAt?, first, Option.bind_some, Opcode.ofByte?_toByte]
    · rw [Chunk.wideAt?, second, third]
      exact congrArg some (ofWideBytes_wideBytes n)
    · rw [Machine.constantType, kept _ _ names]
      rfl
  | _ => trivial

end AssemblerCall

/-! ### Failing calls -/

namespace Assembly

variable {a : Assembler H}

theorem then_error {α : Type} {x : Assembly H Unit} {r : α} :
    (∃ fault, ((do x; return r : Assembly H α).run.run a).1 = .error fault) ↔
      ∃ fault, (x.run.run a).1 = .error fault := by
  rw [ExceptT.run_bind, StateT.run_bind]
  cases x.run.run a with
  | mk outcome m =>
    cases outcome with
    | error fault => exact ⟨fun _ => ⟨fault, rfl⟩, fun _ => ⟨fault, rfl⟩⟩
    | ok u =>
      constructor
      · rintro ⟨_, failed⟩
        cases failed
      · rintro ⟨_, failed⟩
        cases failed

theorem constant_error (valid : a.tables.constants.Valid) (c : Constant) :
    (∃ fault, ((constant c : Assembly H Unit).run.run a).1 = .error fault) ↔
      65535 < a.tables.constants.entries.toList.idxOf c := by
  rw [constant_run, writeChecked_error, loadConstant_error_iff, ← valid.add_index]
  rfl

theorem typeOp_error (valid : a.tables.constants.Valid) (op : Opcode) (t : Ty) :
    (∃ fault, ((typeOp op t : Assembly H Unit).run.run a).1 = .error fault) ↔
      65535 < a.tables.constants.entries.toList.idxOf (.type t) := by
  rw [typeOp_run, writeChecked_error, typeInstr_error_iff, ← valid.add_index]
  rfl

theorem literal_error (valid : a.tables.constants.Valid) (v : Literal) :
    (∃ fault, ((literal v : Assembly H Unit).run.run a).1 = .error fault) ↔
      ∃ c, v.constant? = some c ∧ 65535 < a.tables.constants.entries.toList.idxOf c := by
  rcases literal_cases (H := H) v with ⟨op, isBare, needed, -⟩ | ⟨c, isConstant, needed, -⟩
  · have written : ((emit op : Assembly H Unit).run.run a).1 = .ok () := rfl
    simp [isBare, needed, written]
  · simp [isConstant, needed, constant_error valid]

end Assembly

namespace AssemblerCall

/-- The calls for literals and types. -/
def IsConstant : AssemblerCall H → Prop
  | .literal _ | .typeOp .. => True
  | _ => False

theorem perform_error {a : Assembler H} (valid : a.tables.constants.Valid) (jumps : List Nat) {e : AssemblerCall H}
    (isConstant : e.IsConstant) : (∃ fault, ((e.perform jumps).run.run a).1 = .error fault) ↔
      ∃ c, e.constant? = some c ∧ 65535 < a.tables.constants.entries.toList.idxOf c := by
  cases e with
  | literal v => exact Assembly.then_error.trans (Assembly.literal_error valid v)
  | typeOp op t =>
    refine Assembly.then_error.trans ((Assembly.typeOp_error valid op t).trans ?_)
    simp [constant?]
  | _ => exact isConstant.elim

/-- After calls that all succeed, the pool holds the constants that they needed in the order of their first use, each
once, and a number that was given to a constant stays its number. In the finished code every instruction for a literal
pushes this literal, and every operand for a type is read as this type. A further call for a literal or a type fails
exactly if the number of its constant is larger than any two-byte operand. -/
theorem performAll_faithful [HostObject H] {es : List (AssemblerCall H)} {jumps : List Nat} {a : Assembler H}
    (done : (performAll [] es).run.run {} = (.ok jumps, a)) :
    a.tables.constants.entries.toList = (es.filterMap constant?).eraseDups ∧
    a.tables.constants.entries.toList.Nodup ∧
    (∀ before e after, es = before ++ e :: after → ∃ jumps' b,
      (performAll [] before).run.run {} = (.ok jumps', b) ∧
      (∀ index c, b.tables.constants.get? index = some c → a.tables.constants.get? index = some c) ∧
      ∀ p : Program H, p.chunk = a.chunk → p.tables = a.tables → e.Stands p b.chunk.size) ∧
    ∀ e : AssemblerCall H, e.IsConstant →
      ((∃ fault, ((e.perform jumps).run.run a).1 = .error fault) ↔
        ∃ c, e.constant? = some c ∧ 65535 < a.tables.constants.entries.toList.idxOf c) := by
  have after := after_start.run done
  refine ⟨after.entries, after.pool.distinct, ?_, fun e isConstant => perform_error after.pool jumps isConstant⟩
  rintro before e rest rfl
  obtain ⟨jumps', b, first, done⟩ := performAll_split done
  obtain ⟨-, longer⟩ := performAll_keeps done
  refine ⟨jumps', b, first, fun index c entry => Tables.prefix_getElem? longer entry, fun p chunk tables => ?_⟩
  obtain ⟨_, _, emitted, done⟩ := Assembly.bind_ok done
  obtain ⟨keeps, longer⟩ := performAll_keeps done
  exact (after_start.run first).stands emitted keeps longer chunk tables

/-- Zeros of both signs and equal numbers of two kinds, with a jump over one of them that is patched later. -/
def mixedCalls : List (AssemblerCall Record) :=
  [.literal (.double ⟨0⟩), .jump .jumpIfTrue, .literal (.double ⟨0x8000000000000000⟩), .literal (.int 5), .patch 0,
    .literal (.long 5), .typeOp .instanceOf .string, .literal (.int 1), .literal (.double ⟨0⟩)]

theorem mixedCalls_faithful : ∃ jumps a, (performAll [] mixedCalls).run.run {} = (.ok jumps, a) ∧
    a.tables.constants.entries.toList =
      [.double ⟨0⟩, .double ⟨0x8000000000000000⟩, .int 5, .long 5, .type .string] ∧
    ∀ p : Program Record, p.chunk = a.chunk → p.tables = a.tables →
      (literal (.double ⟨0x8000000000000000⟩) : AssemblerCall Record).Stands p 5 := by
  obtain ⟨jumps, a, done⟩ := exists_ok (x := (performAll [] mixedCalls).run.run {}) (by decide +kernel)
  obtain ⟨entries, -, stands, -⟩ := performAll_faithful done
  refine ⟨jumps, a, done, entries.trans (by decide +kernel), fun p chunk tables => ?_⟩
  obtain ⟨_, b, first, -, stands⟩ := stands (mixedCalls.take 2) _ (mixedCalls.drop 3) rfl
  have size : ((performAll [] (mixedCalls.take 2)).run.run {}).2.chunk.size = 5 := by decide +kernel
  rw [first] at size
  exact size ▸ stands p chunk tables

end AssemblerCall

end TypedExpr
