import Mathlib.Data.List.Forall2
import TypedExpr.Proofs.History
import TypedExpr.Proofs.Standalone
/-!
# Chains of a logical operator

However the operands of one logical operator are associated, they are compiled as the sequence they are. The checks
of the operands come in the same order in every tree, and differ only in the place they blame
(`Expr.Chains.resolves`); the drafts of all trees are one chain (`Typed.Chains.draft_eq`). The code of the chain is
flat: each operand but the last is followed by a jump behind the last one and by a pop (`Code.Flat`).
-/

namespace TypedExpr

open Generation (part finish condition exitOp chainSize layChain)
open Resolution (booleanOperand)

/-- A tree in which the sequence is joined, from left to right. -/
inductive Association {α ι : Type} (join : ι → α → α → α) : List α → α → Prop where
  | operand (a : α) : Association join [a] a
  | node (i : ι) {as bs : List α} {l r : α} (left : Association join as l) (right : Association join bs r) :
      Association join (as ++ bs) (join i l r)

variable {H : Type} {ctx : Context H} {op : LogicalOp}

/-- A tree of one logical operator with these operands. -/
abbrev Expr.Chains (op : LogicalOp) (es : List Expr) (e : Expr) : Prop :=
  Association (fun span => .logical span op) es e

abbrev Typed.Chains (op : LogicalOp) (ts : List (Typed H)) (t : Typed H) : Prop :=
  Association (fun line => .logical line op) ts t

section Outcome

/-- The error without its place, if an operand of a logical operator is not boolean: the place is that of the node
above the operand. -/
def CompileError.unplaced : CompileError → CompileError
  | .mismatch (.booleanOperand symbol t) span =>
    .mismatch (.booleanOperand symbol t) (if symbol = "&&/||" then {} else span)
  | err => err

def EmissionFault.unplaced : EmissionFault → EmissionFault
  | .compile err => .compile err.unplaced
  | fault => fault

/-- Code without its lines, with the tables. -/
def bytesOf (x : Code × Tables H) : Array UInt8 × Tables H := ((Code.chunk x.1).code, x.2)

/-- The bytes and the tables that are generated for an expression, or why there are none. -/
def Expr.generated (ctx : Context H) (e : Expr) (T : Tables H) : Except EmissionFault (Array UInt8 × Tables H) :=
  ((e.emitCode ctx .blank T).1.map bytesOf).mapError EmissionFault.unplaced

theorem Expr.emitCode_blank (e : Expr) (T : Tables H) :
    (e.emitCode ctx .blank T).1 = (e.resolve ctx .blank).1.mapError .compile >>= fun t =>
      (part t (t.draft ctx.catalog) T).mapError fun fault => .compile (.internal fault) := by
  have coherent : (Memo.blank : Memo H).Coherent e := e.after_coherent []
  rw [Expr.emitCode_eq coherent]
  rcases e.resolve ctx .blank with ⟨err | t, m⟩ <;> rfl

end Outcome

section Resolution

variable {span : Span} {l r e : Expr} {es : List Expr}

/-- An operand of a logical operator on its own. -/
def Expr.conditionValue (ctx : Context H) (span : Span) (e : Expr) : Except CompileError (Typed H) := do
  let t ← e.value ctx
  booleanOperand span "&&/||" t
  return t

theorem Expr.conditionValue_ok {t : Typed H} (h : e.conditionValue ctx span = .ok t) :
    (e.resolve ctx .blank).1 = .ok t := by
  obtain ⟨u, isValue, h⟩ := bind_ok h
  obtain ⟨_, _, same⟩ := bind_ok h
  cases same
  exact (Expr.value_ok.mp isValue).1

theorem Expr.resolve_logical :
    ((Expr.logical span op l r).resolve ctx .blank).1 = (do
      let a ← l.conditionValue ctx span
      let b ← r.conditionValue ctx span
      return .logical span.line op a b) := by
  simp only [Expr.conditionValue, bind_assoc, pure_bind]
  rw [Expr.resolve]
  exact ((Visit.Fresh.operand l).bind fun a => (Visit.Fresh.lift _).bind fun _ =>
    (Visit.Fresh.operand r).bind fun b => (Visit.Fresh.lift _).bind fun _ => .pure _).settle

theorem Expr.conditionValue_logical (above : Span) :
    (Expr.logical span op l r).conditionValue ctx above = ((Expr.logical span op l r).resolve ctx .blank).1 := by
  -- A node of a logical operator is boolean, so nothing more is checked where it is an operand.
  rw [Expr.conditionValue, Expr.value, Expr.resolve_logical]
  cases l.conditionValue ctx span with
  | error err => rfl
  | ok a => cases r.conditionValue ctx span <;> rfl

/-- What becomes of a tree, and of the sequence of its operands. -/
inductive Chained (op : LogicalOp) : Except CompileError (Typed H) → Except CompileError (List (Typed H)) → Prop where
  | ok {ts : List (Typed H)} {t : Typed H} (chains : t.Chains op ts) : Chained op (.ok t) (.ok ts)
  | error {err err' : CompileError} (alike : err.unplaced = err'.unplaced) : Chained op (.error err) (.error err')

theorem Chained.node {x y : Except CompileError (Typed H)} {xs ys : Except CompileError (List (Typed H))}
    (left : Chained op x xs) (right : Chained op y ys) (line : Nat) :
    Chained op (do return .logical line op (← x) (← y)) (do return (← xs) ++ (← ys)) := by
  -- The operands on the right are looked at only if all on the left are conditions.
  cases left with
  | error alike => exact .error alike
  | ok first =>
    cases right with
    | error alike => exact .error alike
    | ok second => exact .ok (.node line first second)

theorem Expr.Chains.resolves (chains : e.Chains op es) (above : Span) :
    Chained op (e.conditionValue ctx above) (es.mapM (Expr.conditionValue ctx {})) := by
  induction chains generalizing above with
  | operand e =>
    simp only [List.mapM_cons, List.mapM_nil, Expr.conditionValue]
    cases e.value ctx with
    | error err => exact .error rfl
    | ok t =>
      simp only [ok_bind, booleanOperand]
      cases t.type.isBoolean with
      | true => exact .ok (.operand t)
      | false => exact .error rfl
  | @node span ls rs l r _ _ ihl ihr =>
    rw [Expr.conditionValue_logical, Expr.resolve_logical, List.mapM_append]
    exact (ihl span).node (ihr span) span.line

end Resolution

section Drafts

open Generation (chainOperands)

variable {c : Catalog H} {t : Typed H} {ts : List (Typed H)}

/-- The code of an operand, with whether it is boxed. -/
def Typed.operandCode (c : Catalog H) (t : Typed H) : Generate H (Code × Bool) := do
  let code ← part t (t.draft c)
  return (code, t.type.isBoxed)

/-- The operands that a node adds to the chain around it. -/
def Typed.operandCodes (c : Catalog H) (op : LogicalOp) (t : Typed H) : Generate H (List (Code × Bool)) := do
  let d ← t.draft c
  liftExcept (chainOperands op t d)

/-- The chain around a node takes it as one operand. -/
def Typed.StandsAlone (c : Catalog H) (op : LogicalOp) (t : Typed H) : Prop :=
  t.operandCodes c op = [t].mapM (Typed.operandCode c)

theorem Typed.draft_logical {line : Nat} {l r : Typed H} :
    (Typed.logical line op l r).draft c = (do
      let left ← l.operandCodes c op
      let right ← r.operandCodes c op
      return .chain op (left ++ right)) := by
  rw [Typed.draft]
  simp only [Typed.operandCodes, bind_assoc]

theorem Typed.operandCodes_logical {line : Nat} {l r : Typed H} :
    (Typed.logical line op l r).operandCodes c op = (do
      let left ← l.operandCodes c op
      let right ← r.operandCodes c op
      return left ++ right) := by
  rw [Typed.operandCodes, Typed.draft_logical]
  simp only [bind_assoc, pure_bind, chainOperands, if_true]
  rfl

theorem Typed.Chains.operandCodes_eq (chains : t.Chains op ts) (alone : ∀ u ∈ ts, u.StandsAlone c op) :
    t.operandCodes c op = ts.mapM (Typed.operandCode c) := by
  induction chains with
  | operand t => exact alone t List.mem_cons_self
  | node line _ _ ihl ihr =>
    obtain ⟨left, right⟩ := List.forall_mem_append.mp alone
    rw [Typed.operandCodes_logical, ihl left, ihr right, List.mapM_append]

theorem Typed.Chains.draft_eq (chains : t.Chains op ts) (several : 2 ≤ ts.length)
    (alone : ∀ u ∈ ts, u.StandsAlone c op) :
    t.draft c = ts.mapM (Typed.operandCode c) >>= fun operands => pure (.chain op operands) := by
  cases chains with
  | operand t => simp at several
  | node line first second =>
    obtain ⟨left, right⟩ := List.forall_mem_append.mp alone
    rw [Typed.draft_logical, Typed.Chains.operandCodes_eq first left, Typed.Chains.operandCodes_eq second right,
      List.mapM_append]
    simp only [bind_assoc, pure_bind]

theorem Expr.standsAlone {e : Expr} (apart : ∀ span l r, e ≠ .logical span op l r)
    (resolved : (e.resolve ctx .blank).1 = .ok t) : t.StandsAlone ctx.catalog op := by
  have coherent : (e.resolve ctx .blank).2.Coherent e := Memo.Coherent.resolve (e.after_coherent [])
  have remembered : (e.resolve ctx .blank).2.outcome = some t := Expr.resolve_remembers (Prod.ext resolved rfl)
  have follows := coherent.follows ctx remembered
  -- Only a node of the operator resolves to one, and only such a node is passed through by the chain around it.
  have other (line : Nat) (l r : Typed H) : t ≠ .logical line op l r := by
    rintro rfl
    obtain ⟨ts, resolves⟩ := follows.resolves
    cases resolves
    exact apart _ _ _ rfl
  rw [Typed.StandsAlone, Typed.operandCodes, follows.finished fun d shapes => shapes.chainOperand other]
  simp [Typed.operandCode]

theorem mapM_ok {α β ε : Type} {f : α → Except ε β} {xs : List α} {ys : List β} (h : xs.mapM f = .ok ys) :
    List.Forall₂ (fun x y => f x = .ok y) xs ys := by
  induction xs generalizing ys with
  | nil =>
    cases h
    exact .nil
  | cons x xs ih =>
    rw [List.mapM_cons] at h
    obtain ⟨y, first, h⟩ := bind_ok h
    obtain ⟨others, rest, same⟩ := bind_ok h
    cases same
    exact .cons first (ih rest)

theorem Expr.standsAlone_each {es : List Expr} (apart : ∀ e ∈ es, ∀ span l r, e ≠ .logical span op l r)
    (each : List.Forall₂ (fun e t => (e.resolve ctx .blank).1 = .ok t) es ts) :
    ∀ u ∈ ts, u.StandsAlone ctx.catalog op := by
  induction each with
  | nil => simp
  | cons first _ ih =>
    rw [List.forall_mem_cons] at apart ⊢
    exact ⟨Expr.standsAlone apart.1 first, ih apart.2⟩

end Drafts

namespace Code

/-- The instructions without their lines. -/
def instrs (code : Code) : List Instr := code.map Prod.snd

theorem bytes_eq (code : Code) : (code.flatMap fun i => i.2.bytes) = code.instrs.flatMap Instr.bytes := by
  rw [instrs, List.flatMap_map]

theorem size_congr {a b : Code} (same : a.instrs = b.instrs) : a.size = b.size := by
  rw [← length_bytes, ← length_bytes, bytes_eq, bytes_eq, same]

theorem bytesOf_congr {a b : Code} (same : a.instrs = b.instrs) (T : Tables H) : bytesOf (a, T) = bytesOf (b, T) := by
  simp only [bytesOf, chunk, bytes_eq, same]

/-- Blocks one after the other. Each but the last is followed by a jump to the end of the code and by a pop. -/
inductive Flat (line : Nat) (exit : Opcode) : List Code → Code → Prop where
  | last (block : Code) : Flat line exit [block] block
  | cons (block : Code) {blocks : List Code} {rest : Code} {distance : UInt16}
      (behind : distance.toNat = 1 + rest.size) (later : Flat line exit blocks rest) :
      Flat line exit (block :: blocks) (block ++ (line, .wide exit distance) :: (line, .bare .pop) :: rest)

theorem Flat.exists_cons {line : Nat} {exit : Opcode} {blocks : List Code} {code : Code}
    (flat : code.Flat line exit blocks) : ∃ block rest, blocks = block :: rest := by
  cases flat <;> exact ⟨_, _, rfl⟩

/-- The offsets of the jumps between blocks that stand at an offset. -/
def exits : (offset : Nat) → List Code → List Nat
  | offset, block :: next :: rest => (offset + block.size) :: exits (offset + block.size + 4) (next :: rest)
  | _, _ => []

theorem Flat.length_exits {line : Nat} {exit : Opcode} {blocks : List Code} {code : Code}
    (flat : code.Flat line exit blocks) (offset : Nat) : (exits offset blocks).length + 1 = blocks.length := by
  induction flat generalizing offset with
  | last block => rfl
  | cons block _ later ih =>
    obtain ⟨next, more, rfl⟩ := later.exists_cons
    rw [exits, List.length_cons, ih]
    rfl

end Code

namespace Generation

variable {codes codes' : List Code} {line line' : Nat} {exit : Opcode}

theorem chainSize_congr (same : List.Forall₂ (fun a b => a.instrs = b.instrs) codes codes') :
    chainSize codes = chainSize codes' := by
  induction same with
  | nil => rfl
  | cons first rest ih =>
    cases rest with
    | nil => exact Code.size_congr first
    | cons next more => simp only [chainSize, Code.size_congr first, ih]

/-- The lines of the operands and of the chain are not seen in its instructions. -/
theorem layChain_congr (same : List.Forall₂ (fun a b => a.instrs = b.instrs) codes codes') (size : Nat) :
    (layChain line exit size codes).map Code.instrs = (layChain line' exit size codes').map Code.instrs := by
  induction same generalizing size with
  | nil => rfl
  | @cons operand operand' rest rest' first others ih =>
    cases others with
    | nil => exact congrArg Except.ok first
    | cons =>
      have linked (distance : UInt16) (line : Nat) (operand : Code) (x : Except InternalFault Code) :
          (x >>= fun code => pure (operand ++ [(line, .wide exit distance), (line, .bare .pop)] ++ code)).map
              Code.instrs =
            (x.map Code.instrs).map (operand.instrs ++ [.wide exit distance, .bare .pop] ++ ·) := by
        cases x with
        | error fault => rfl
        | ok code => simp [ok_bind, Code.instrs, Except.map, Pure.pure, Except.pure]
      simp only [layChain, Code.size_congr first]
      rw [map_bind, map_bind]
      refine congrArg _ (funext fun distance => ?_)
      rw [linked, linked, first, ih]

theorem finish_congr (op : LogicalOp) (operands : List (Code × Bool)) :
    (finish line (.chain op operands)).map Code.instrs = (finish line' (.chain op operands)).map Code.instrs := by
  have same : List.Forall₂ (fun a b => a.instrs = b.instrs)
      (operands.map fun x => condition line x.1 x.2) (operands.map fun x => condition line' x.1 x.2) := by
    rw [List.forall₂_map_left_iff, List.forall₂_map_right_iff, List.forall₂_same]
    intro x _
    unfold condition
    split <;> simp [Code.instrs, Code.ofOps]
  simp only [finish]
  rw [chainSize_congr same]
  exact layChain_congr same _

theorem layChain_flat {code : Code} (laid : layChain line exit (chainSize codes) codes = .ok code)
    (some : codes ≠ []) : code.Flat line exit codes := by
  induction codes generalizing code with
  | nil => exact absurd rfl some
  | cons operand rest ih =>
    cases rest with
    | nil =>
      cases laid
      exact .last operand
    | cons next rest =>
      obtain ⟨distance, others, reach, inner, rfl⟩ := layChain_cons laid
      rw [← layChain_size inner] at reach
      exact .cons operand reach (ih inner (List.cons_ne_nil _ _))

end Generation

namespace Machine

open Evaluation (decides)

variable [HostObject H] {p : Program H} {env : Environment H}

/-- Where a chain is left: the jump that stands at the offset leads to the target, a pop follows it, and a value that
decides the chain takes it there. -/
structure Exits (p : Program H) (env : Environment H) (op : LogicalOp) (offset target : Nat) : Prop where
  jump : ∃ distance : UInt16, p.chunk.instrAt? offset = some (.wide (exitOp op) distance) ∧
    offset + 3 + distance.toNat = target
  pop : p.chunk.instrAt? (offset + 3) = some (.bare .pop)
  taken : ∀ (v : Value H) (stack : List (Value H)), decides op v = .ok true →
    Next p env ⟨v :: stack, offset⟩ ⟨v :: stack, target⟩

theorem exits_of_jump {offset : Nat} {distance : UInt16}
    (jump : p.chunk.instrAt? offset = some (.wide (exitOp op) distance))
    (pop : p.chunk.instrAt? (offset + 3) = some (.bare .pop)) :
    Exits p env op offset (offset + 3 + distance.toNat) where
  jump := ⟨distance, jump, rfl⟩
  pop := pop
  taken v stack decided := by
    refine ⟨_, jump, by simp, ?_⟩
    simp only [step, isJump_exitOp, if_true, jumps_exitOp, decided]
    rfl

theorem exits_of_flat {line base : Nat} {blocks : List Code} {code : Code} (flat : code.Flat line (exitOp op) blocks)
    (held : p.chunk.Holds base code) : ∀ offset ∈ Code.exits base blocks, Exits p env op offset (base + code.size) := by
  induction flat generalizing base with
  | last block => simp [Code.exits]
  | @cons block blocks rest distance behind later ih =>
    obtain ⟨_, jump, pop, others⟩ := Chunk.holds_append.mp held
    have first : Exits p env op (base + block.size) (base + block.size + 3 + distance.toNat) :=
      exits_of_jump jump pop
    -- What is left behind the first pop ends where the whole code ends.
    have sameEnd : base + block.size + 3 + distance.toNat = base + block.size + 4 + rest.size := by omega
    have size : base + Code.size (block ++ (line, .wide (exitOp op) distance) :: (line, .bare .pop) :: rest) =
        base + block.size + 4 + rest.size := by
      simp only [Code.size_append, Code.size_cons, Instr.size]
      omega
    obtain ⟨next, more, rfl⟩ := later.exists_cons
    rw [size, Code.exits, List.forall_mem_cons]
    exact ⟨sameEnd ▸ first, ih others⟩

end Machine

/-- The operands are emitted each on its own, with the tables that those before it leave. -/
inductive Expr.EmitsEach (ctx : Context H) : List Expr → Tables H → List (Code × Bool) → Tables H → Prop where
  | nil {T : Tables H} : EmitsEach ctx [] T [] T
  | cons {e : Expr} {es : List Expr} {T U V : Tables H} {t : Typed H} {code : Code} {operands : List (Code × Bool)}
      (resolved : (e.resolve ctx .blank).1 = .ok t) (emitted : (e.emitCode ctx .blank T).1 = .ok (code, U))
      (rest : EmitsEach ctx es U operands V) : EmitsEach ctx (e :: es) T ((code, t.type.isBoxed) :: operands) V

section Emission

variable {e : Expr} {es : List Expr} {ts : List (Typed H)} {T U : Tables H} {operands : List (Code × Bool)}
  {code : Code}

theorem Expr.emitsEach (each : List.Forall₂ (fun e t => (e.resolve ctx .blank).1 = .ok t) es ts)
    (generated : ts.mapM (Typed.operandCode ctx.catalog) T = .ok (operands, U)) :
    Expr.EmitsEach ctx es T operands U := by
  induction each generalizing T operands with
  | nil =>
    obtain ⟨rfl, rfl⟩ := Generate.pure_ok generated
    exact .nil
  | cons resolved _ ih =>
    rw [List.mapM_cons] at generated
    obtain ⟨operand, V, first, generated⟩ := Generate.bind_ok generated
    obtain ⟨others, W, rest, generated⟩ := Generate.bind_ok generated
    obtain ⟨rfl, rfl⟩ := Generate.pure_ok generated
    obtain ⟨code, V, made, same⟩ := Generate.bind_ok first
    obtain ⟨rfl, rfl⟩ := Generate.pure_ok same
    refine .cons resolved ?_ (ih rest)
    rw [Expr.emitCode_blank, resolved]
    simp only [Except.mapError, ok_bind, made]

theorem lift_congr {x y : Except InternalFault Code} (same : x.map Code.instrs = y.map Code.instrs) (T : Tables H) :
    ((liftExcept x : Generate H Code) T).map bytesOf = ((liftExcept y : Generate H Code) T).map bytesOf := by
  cases x with
  | error fault => rw [map_error same.symm]
  | ok a =>
    obtain ⟨b, rfl, instrs⟩ := map_ok same.symm
    exact congrArg Except.ok (Code.bytesOf_congr instrs T).symm

/-- The code of operands in sequence, as a chain on a line. -/
def Typed.chainCode (c : Catalog H) (op : LogicalOp) (line : Nat) (ts : List (Typed H)) : Generate H Code := do
  let operands ← ts.mapM (Typed.operandCode c)
  liftExcept (finish line (.chain op operands))

theorem Typed.Chains.part_eq {c : Catalog H} {t : Typed H} (chains : t.Chains op ts) (several : 2 ≤ ts.length)
    (alone : ∀ u ∈ ts, u.StandsAlone c op) :
    part t (t.draft c) = Typed.chainCode c op t.line ts := by
  rw [part, Typed.Chains.draft_eq chains several alone]
  simp only [bind_assoc, pure_bind, Typed.chainCode]

theorem Typed.chainCode_congr (c : Catalog H) (line line' : Nat) :
    (Typed.chainCode c op line ts T).map bytesOf = (Typed.chainCode c op line' ts T).map bytesOf := by
  simp only [Typed.chainCode, Bind.bind, StateT.bind]
  cases ts.mapM (Typed.operandCode c) T with
  | error fault => rfl
  | ok made => exact lift_congr (Generation.finish_congr op made.1) made.2

theorem Expr.Chains.resolves_root (chains : e.Chains op es) (several : 2 ≤ es.length) :
    Chained op (e.resolve ctx .blank).1 (es.mapM (Expr.conditionValue ctx {})) := by
  have outcome : Chained op (e.conditionValue ctx {}) (es.mapM (Expr.conditionValue ctx {})) := chains.resolves {}
  cases chains with
  | operand e => simp at several
  | node span _ _ => rwa [Expr.conditionValue_logical] at outcome

theorem Expr.conditionValue_each (checked : es.mapM (Expr.conditionValue ctx {}) = .ok ts) :
    List.Forall₂ (fun e t => (e.resolve ctx .blank).1 = .ok t) es ts :=
  (mapM_ok checked).imp fun _ _ => Expr.conditionValue_ok

theorem Expr.Chains.generated_eq {e' : Expr} (several : 2 ≤ es.length)
    (apart : ∀ e ∈ es, ∀ span l r, e ≠ .logical span op l r) (first : e.Chains op es) (second : e'.Chains op es) :
    e.generated ctx T = e'.generated ctx T := by
  have outcome : Chained op (e.resolve ctx .blank).1 _ := first.resolves_root several
  have outcome' : Chained op (e'.resolve ctx .blank).1 _ := second.resolves_root several
  unfold Expr.generated
  rw [Expr.emitCode_blank, Expr.emitCode_blank]
  -- Both trees share the outcome of the checks of the operands, so they are resolved both or fail both.
  generalize (e.resolve ctx .blank).1 = x at outcome ⊢
  generalize (e'.resolve ctx .blank).1 = x' at outcome' ⊢
  generalize checked : es.mapM (Expr.conditionValue ctx {}) = y at outcome outcome'
  cases outcome with
  | error alike =>
    cases outcome' with
    | error alike' =>
      have same := alike.trans alike'.symm
      simp only [Except.mapError, Except.map, Bind.bind, Except.bind, EmissionFault.unplaced, same]
  | @ok ts t chains =>
    cases outcome' with
    | @ok _ t' chains' =>
      have each := Expr.conditionValue_each checked
      have alone := Expr.standsAlone_each apart each
      rw [each.length_eq] at several
      have same : (part t (t.draft ctx.catalog) T).map bytesOf = (part t' (t'.draft ctx.catalog) T).map bytesOf := by
        rw [chains.part_eq several alone, chains'.part_eq several alone]
        exact Typed.chainCode_congr ctx.catalog t.line t'.line
      show (((part t _ T).mapError _).map bytesOf).mapError _ = (((part t' _ T).mapError _).map bytesOf).mapError _
      rw [map_mapError, map_mapError, same]

theorem Expr.Chains.emitted (several : 2 ≤ es.length) (apart : ∀ e ∈ es, ∀ span l r, e ≠ .logical span op l r)
    (chains : e.Chains op es) (emitted : (e.emitCode ctx .blank T).1 = .ok (code, U)) :
    ∃ line operands, Expr.EmitsEach ctx es T operands U ∧ finish line (.chain op operands) = .ok code := by
  have outcome : Chained op (e.resolve ctx .blank).1 _ := chains.resolves_root several
  rw [Expr.emitCode_blank] at emitted
  generalize (e.resolve ctx .blank).1 = x at outcome emitted
  generalize checked : es.mapM (Expr.conditionValue ctx {}) = y at outcome
  cases outcome with
  | error alike => cases emitted
  | @ok ts t chains =>
    have each := Expr.conditionValue_each checked
    rw [each.length_eq] at several
    have made : part t (t.draft ctx.catalog) T = .ok (code, U) := mapError_ok emitted
    rw [chains.part_eq several (Expr.standsAlone_each apart each)] at made
    obtain ⟨operands, V, generated, finished⟩ := Generate.bind_ok made
    obtain ⟨laid, rfl⟩ := Generate.lift_ok finished
    exact ⟨t.line, operands, Expr.emitsEach each generated, laid⟩

theorem Expr.emitCode_wellSized (valid : T.Valid) (emitted : (e.emitCode ctx .blank T).1 = .ok (code, U)) :
    code.WellSized := by
  rw [Expr.emitCode_blank] at emitted
  obtain ⟨t, resolved, generated⟩ := bind_ok emitted
  have typed : t.WellTyped ctx.catalog := Expr.resolve_typed (mapError_ok resolved)
  have laid := ((Typed.draft_yields typed).part T U code valid (mapError_ok generated)).2 U (.refl U)
  exact laid.wellSized

theorem Expr.EmitsEach.length_eq (emits : Expr.EmitsEach ctx es T operands U) : operands.length = es.length := by
  induction emits with
  | nil => rfl
  | cons _ _ _ ih => exact congrArg Nat.succ ih

/-- Generation does not see how the operands of a logical operator are associated: the bytes and the tables are the
same, or all trees fail alike. The code is that of the operands, each emitted on its own and turned into a primitive
boolean, with a jump and a pop after each but the last; wherever the code stands in a program, all these jumps lead to
the offset behind it. -/
theorem Expr.chains_flat [HostObject H] (ctx : Context H) (several : 2 ≤ es.length)
    (apart : ∀ e ∈ es, ∀ span l r, e ≠ .logical span op l r) (T : Tables H) :
    (∀ e e' : Expr, e.Chains op es → e'.Chains op es → e.generated ctx T = e'.generated ctx T) ∧
      ∀ (e : Expr) (code : Code) (U : Tables H), e.Chains op es → T.Valid →
        (e.emitCode ctx .blank T).1 = .ok (code, U) →
        ∃ (line : Nat) (operands : List (Code × Bool)) (blocks : List Code), Expr.EmitsEach ctx es T operands U ∧
          blocks = operands.map (fun x => condition line x.1 x.2) ∧ code.Flat line (exitOp op) blocks ∧
          (∀ base, (Code.exits base blocks).length + 1 = es.length) ∧
          ∀ (p : Program H) (env : Environment H) (before after : Array UInt8),
            p.chunk.code = before ++ (Code.chunk code).code ++ after →
            ∀ offset ∈ Code.exits before.size blocks, Machine.Exits p env op offset (before.size + code.size) := by
  refine ⟨fun e e' first second => first.generated_eq several apart second, ?_⟩
  intro e code U chains valid emitted
  obtain ⟨line, operands, emits, laid⟩ := chains.emitted several apart emitted
  have some : operands ≠ [] := by
    rw [← List.length_pos_iff, emits.length_eq]
    omega
  have flat : code.Flat line (exitOp op) (operands.map fun x => condition line x.1 x.2) :=
    Generation.layChain_flat laid (by simpa using some)
  refine ⟨line, operands, _, emits, rfl, flat, fun base => ?_, fun p env before after bytes => ?_⟩
  · rw [flat.length_exits, List.length_map, emits.length_eq]
  · have held : p.chunk.Holds before.size code := by
      rw [← Array.length_toList]
      refine Chunk.holds_written before.toList after.toList ?_ (Expr.emitCode_wellSized valid emitted)
      rw [bytes]
      simp [Code.chunk]
    exact Machine.exits_of_flat flat held

end Emission

/-- A primitive and a boxed condition and a number are in scope. -/
def alarmContext : Context Record where
  catalog := ⟨[]⟩
  scope := (((({} : Declarations Record).parameter "armed" .boolean).parameter "open" (.boxed .bool)).parameter "level"
    .int).scope

/-- The expression `level > 7 || armed`. -/
def alarmLevel : Expr :=
  .logical (.point 2 11) .or
    (.relational (.point 2 7) .gt (.name (.point 2 1) "level") (.literal (.point 2 9) (.int 7)))
    (.name (.point 2 14) "armed")

def alarmOperands : List Expr := [.name (.point 1 1) "armed", .name (.point 1 10) "open", alarmLevel]

/-- The operands joined by `&&` from the left, on one line. -/
def alarmLeft : Expr :=
  .logical (.point 1 15) .and
    (.logical (.point 1 7) .and (.name (.point 1 1) "armed") (.name (.point 1 10) "open"))
    alarmLevel

/-- The operands joined by `&&` from the right, on two other lines. -/
def alarmRight : Expr :=
  .logical (.point 3 7) .and
    (.name (.point 1 1) "armed")
    (.logical (.point 4 15) .and (.name (.point 1 10) "open") alarmLevel)

theorem alarm_chains_flat :
    alarmLeft.Chains .and alarmOperands ∧ alarmRight.Chains .and alarmOperands ∧
      alarmLeft.generated alarmContext .empty = alarmRight.generated alarmContext .empty ∧
      ∃ code U blocks, (alarmLeft.emitCode alarmContext .blank .empty).1 = .ok (code, U) ∧
        (Code.exits 0 blocks).length = 2 ∧ ∀ (p : Program Record) (env : Environment Record),
          p.chunk = Code.chunk code → ∀ offset ∈ Code.exits 0 blocks, Machine.Exits p env .and offset code.size := by
  have left : alarmLeft.Chains .and alarmOperands := .node _ (.node _ (.operand _) (.operand _)) (.operand _)
  have right : alarmRight.Chains .and alarmOperands := .node _ (.operand _) (.node _ (.operand _) (.operand _))
  have apart : ∀ e ∈ alarmOperands, ∀ span l r, e ≠ .logical span .and l r := by simp [alarmOperands, alarmLevel]
  have succeeds : (alarmLeft.emitCode alarmContext .blank .empty).1.toOption.isSome = true := by decide +kernel
  obtain ⟨⟨code, U⟩, m, emitted⟩ := exists_ok succeeds
  obtain ⟨same, flat⟩ := Expr.chains_flat alarmContext (by decide) apart .empty
  obtain ⟨line, operands, blocks, _, _, _, count, exits⟩ := flat alarmLeft code U left Tables.empty_valid
    (congrArg Prod.fst emitted)
  refine ⟨left, right, same _ _ left right, code, U, blocks, congrArg Prod.fst emitted, ?_, ?_⟩
  · exact Nat.succ.inj (count 0)
  · intro p env isCode offset isExit
    have leaves := exits p env #[] #[] (by simp [isCode]) offset isExit
    simpa using leaves

end TypedExpr
