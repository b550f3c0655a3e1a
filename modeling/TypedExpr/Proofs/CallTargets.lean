import Mathlib.Data.List.Forall2
import TypedExpr.Host.Record
import TypedExpr.Proofs.Composition
import TypedExpr.Proofs.Execution
/-!
# The targets of calls

The call instructions of a program are those of the call sites of its expression, in the same order. What is
called at a site is the first method that was selected under the digest of the site's own method, so methods
that share a digest are called in each other's place.
-/

namespace TypedExpr

open Generation

variable {H : Type}

def Instr.isCall : Instr → Bool
  | .call .. => true
  | _ => false

namespace Code

/-- The call instructions of code that stands at an offset, each with its own offset. -/
def callsFrom : (offset : Nat) → Code → List (Nat × Instr)
  | _, [] => []
  | offset, i :: rest =>
    if i.2.isCall then (offset, i.2) :: callsFrom (offset + i.2.size) rest
    else callsFrom (offset + i.2.size) rest

/-- The call instructions. -/
def calls (code : Code) : List Instr := (code.map Prod.snd).filter Instr.isCall

theorem callsFrom_eq (offset : Nat) (code : Code) :
    callsFrom offset code = (placed offset code).filter fun x => x.2.isCall := by
  induction code generalizing offset with
  | nil => rfl
  | cons i rest ih => simp only [callsFrom, placed, List.filter_cons, ih]

theorem callsFrom_append (offset : Nat) (a b : Code) :
    callsFrom offset (a ++ b) = callsFrom offset a ++ callsFrom (offset + a.size) b := by
  simp only [callsFrom_eq, placed_append, List.filter_append]

theorem callsFrom_snd (offset : Nat) (code : Code) : (callsFrom offset code).map Prod.snd = code.calls := by
  rw [calls, ← placed_snd offset code, List.filter_map, callsFrom_eq]
  rfl

theorem callsFrom_holds {c : Chunk} {offset : Nat} {code : Code} (held : c.Holds offset code) :
    ∀ x ∈ callsFrom offset code, c.instrAt? x.1 = some x.2 := by
  rw [callsFrom_eq]
  exact fun x member => held.instrAt? x (List.mem_of_mem_filter member)

@[simp] theorem calls_nil : calls [] = [] := rfl

@[simp] theorem calls_append (a b : Code) : calls (a ++ b) = calls a ++ calls b := by simp [calls]

@[simp] theorem calls_ofOps (line : Nat) (ops : List Opcode) : calls (Code.ofOps line ops) = [] := by
  simp [calls, Code.ofOps, Instr.isCall]

@[simp] theorem calls_bare_cons (line : Nat) (op : Opcode) (code : Code) :
    calls ((line, .bare op) :: code) = calls code := rfl

@[simp] theorem calls_wide_cons (line : Nat) (op : Opcode) (n : UInt16) (code : Code) :
    calls ((line, .wide op n) :: code) = calls code := rfl

@[simp] theorem calls_call_cons (line : Nat) (op : Opcode) (f : UInt16) (n : UInt8) (code : Code) :
    calls ((line, .call op f n) :: code) = .call op f n :: calls code := rfl

end Code

/-- The offsets of the call instructions that a sweep over the chunk meets. -/
def Chunk.callOffsets (c : Chunk) : List Nat :=
  c.sweep.filterMap fun (offset, op) =>
    if op = some .callMethod ∨ op = some .callStatic then some offset else none

theorem Instr.isCall_iff {i : Instr} (sized : i.WellSized) :
    i.isCall = true ↔ i.op = .callMethod ∨ i.op = .callStatic := by
  cases i with
  | bare op | narrow op | wide op | call op =>
    simp only [wellSized_bare, wellSized_narrow, wellSized_wide, wellSized_call] at sized
    cases op <;> simp_all [isCall, Instr.op, Opcode.operandSize]

theorem Code.callOffsets_chunk {code : Code} (sized : code.WellSized) :
    (Code.chunk code).callOffsets = (code.callsFrom 0).map Prod.fst := by
  rw [Chunk.callOffsets, chunk_sweep sized, List.filterMap_map, callsFrom_eq]
  have each := placed_wellSized sized 0
  generalize code.placed 0 = instrs at each ⊢
  induction instrs with
  | nil => rfl
  | cons x rest ih =>
    obtain ⟨own, others⟩ := List.forall_mem_cons.mp each
    have later := ih others
    simp only [List.filterMap_cons, List.filter_cons, Function.comp_apply, Option.some.injEq,
      ← Instr.isCall_iff own] at later ⊢
    cases x.2.isCall <;> simp [later]

/-- The instruction calls the entry that serves the method of the site. -/
def Tables.Targets (T : Tables H) (i : Instr) (site : Method H × Ty) : Prop :=
  ∃ op f n, i = .call op f n ∧ T.Links f site.1

/-- The call instructions of a draft. -/
@[simp] def Draft.calls : Draft → List Instr
  | .closed code | .concat _ code => code.calls
  | .chain _ operands => operands.flatMap fun x => x.1.calls

section Calls

variable {line : Nat}

theorem condition_calls (code : Code) (isBoxed : Bool) : (condition line code isBoxed).calls = code.calls := by
  unfold condition
  split <;> simp

theorem guarded_calls {nullSafe : Bool} {body code : Code} (laid : guarded line nullSafe body = .ok code) :
    code.calls = body.calls := by
  unfold guarded at laid
  split at laid
  · obtain ⟨past, _, rfl⟩ := skipping_ok laid
    rfl
  · cases laid
    rfl

theorem convertEach_calls {codes : List Code} {conversions : List Conversion}
    (same : codes.length = conversions.length) :
    (convertEach line codes conversions).calls = codes.flatMap Code.calls := by
  induction codes generalizing conversions with
  | nil => simp [convertEach]
  | cons code codes ih =>
    cases conversions with
    | nil => cases same
    | cons conversion conversions =>
      have rest := ih (Nat.succ.inj same)
      simp only [convertEach, List.zipWith_cons_cons, List.flatten_cons, Code.calls_append,
        Code.calls_ofOps, List.append_nil, List.flatMap_cons] at rest ⊢
      rw [rest]

theorem passArguments_calls {s : Selection H} {codes : List Code} {code : Code}
    (same : codes.length = s.conversions.length) (passed : passArguments line s codes = .ok code) :
    code.calls = codes.flatMap Code.calls := by
  unfold passArguments at passed
  split at passed
  · cases passed
    exact convertEach_calls same
  · dsimp only at passed
    split at passed
    · cases passed
    · obtain ⟨i, counted, rfl⟩ := map_ok passed
      obtain ⟨n, rfl, _⟩ := countInstr_ok counted
      rw [← convertEach_split, Code.calls_append, convertEach_calls same]
      exact List.append_nil _

end Calls

theorem flatMap_targets {T : Tables H} {args : List (Typed H)} {codes : List Code}
    (same : codes.length = args.length)
    (each : ∀ x ∈ args.zip codes, List.Forall₂ T.Targets x.2.calls x.1.sites) :
    List.Forall₂ T.Targets (codes.flatMap Code.calls) (args.flatMap Typed.sites) := by
  induction args generalizing codes with
  | nil =>
    cases List.length_eq_zero_iff.mp same
    exact .nil
  | cons t ts ih =>
    cases codes with
    | nil => cases same
    | cons code codes =>
      rw [List.zip_cons_cons, List.forall_mem_cons] at each
      exact List.rel_append each.1 (ih (Nat.succ.inj same) each.2)

theorem Tables.Checks.calls {T : Tables H} {line : Nat} {t : Ty} {code : Code} (checks : T.Checks line t code) :
    code.calls = [] := by
  cases checks <;> rfl

theorem layChain_calls {op : LogicalOp} {line size : Nat} {codes : List Code} {code : Code}
    (laid : layChain line (exitOp op) size codes = .ok code) : code.calls = codes.flatMap Code.calls := by
  induction codes generalizing size code with
  | nil =>
    cases laid
    rfl
  | cons operand rest ih =>
    cases rest with
    | nil =>
      cases laid
      simp
    | cons next rest =>
      obtain ⟨distance, _, laid⟩ := bind_ok laid
      obtain ⟨others, inner, same⟩ := bind_ok laid
      cases same
      have later := ih inner
      simp only [Code.calls_append, Code.calls_wide_cons, Code.calls_bare_cons, Code.calls_nil,
        List.append_nil, later, List.flatMap_cons]

/-- The call instructions of generated code are those of the call sites, in their order. -/
theorem Layout.targets {c : Catalog H} {T : Tables H} {t : Typed H} {d : Draft} (layout : Layout c T t d)
    (typed : t.WellTyped c) : List.Forall₂ T.Targets d.calls t.sites := by
  have own {op : Opcode} {f : UInt16} {n : UInt8} {m : Method H} {type : Ty} (target : T.Links f m) :
      List.Forall₂ T.Targets [.call op f n] [(m, type)] := .cons ⟨op, f, n, rfl, target⟩ .nil
  induction layout with
  | literal loads =>
    cases loads with
    | _ => exact .nil
  | text _ ih => exact ih typed
  | concat _ _ ih => simpa using ih typed
  | operand _ ih => simpa using ih typed
  | logical _ laid ih =>
    have chained := ih typed
    simpa [layChain_calls laid, List.flatMap_map, condition_calls] using chained
  | numeric _ _ _ ihl ihr =>
    cases typed with
    | numeric left right =>
      rw [Typed.sites_eq]
      simpa using List.rel_append (ihl left) (ihr right)
  | join _ _ ihl ihr =>
    cases typed with
    | concat left right =>
      rw [Typed.sites_eq]
      simpa using List.rel_append (ihl left) (ihr right)
  | chain _ _ ihl ihr =>
    cases typed with
    | logical left right =>
      rw [Typed.sites_eq]
      simpa using List.rel_append (ihl left) (ihr right)
  | negate _ _ ih =>
    cases typed with
    | negate operand =>
      rw [Typed.sites_eq]
      simpa using ih operand
  | not _ ih =>
    cases typed with
    | not operand =>
      rw [Typed.sites_eq]
      simpa [condition_calls] using ih operand
  | empty _ ih =>
    cases typed with
    | empty operand =>
      rw [Typed.sites_eq]
      simpa using ih operand
  | equality _ _ ihl ihr =>
    cases typed with
    | equality left right =>
      rw [Typed.sites_eq]
      simpa using List.rel_append (ihl left) (ihr right)
  | ordering _ _ _ ihl ihr =>
    cases typed with
    | ordering left right =>
      rw [Typed.sites_eq]
      simpa using List.rel_append (ihl left) (ihr right)
  | comparison _ _ _ target _ ihl ihr =>
    cases typed with
    | comparison left right =>
      rw [Typed.sites_eq]
      simpa using List.rel_append (ihl left) (List.rel_append (ihr right) (own target))
  | instanceOf _ _ ih =>
    cases typed with
    | instanceOf operand =>
      rw [Typed.sites_eq]
      simpa using ih operand
  | «matches» _ _ ih =>
    cases typed with
    | «matches» operand =>
      rw [Typed.sites_eq]
      simpa using ih operand
  | ternary _ _ _ _ _ _ _ ihc iht ihe =>
    cases typed with
    | ternary condition thenBranch elseBranch =>
      rw [Typed.sites_eq]
      simpa [condition_calls] using
        List.rel_append (ihc condition) (List.rel_append (iht thenBranch) (ihe elseBranch))
  | elvis _ _ _ _ _ _ ihl ihr =>
    cases typed with
    | elvis left right =>
      rw [Typed.sites_eq]
      simpa using List.rel_append (ihl left) (ihr right)
  | arrayIndex _ _ ihe ihi =>
    cases typed with
    | arrayIndex target position =>
      rw [Typed.sites_eq]
      simpa [condition_calls] using List.rel_append (ihe target) (ihi position)
  | listIndex _ _ checked ihe ihi =>
    cases typed with
    | listIndex target position =>
      rw [Typed.sites_eq]
      simpa [condition_calls, checked.calls] using List.rel_append (ihe target) (ihi position)
  | mapIndex _ _ checked ihe ihi =>
    cases typed with
    | mapIndex target position =>
      rw [Typed.sites_eq]
      simpa [checked.calls] using List.rel_append (ihe target) (ihi position)
  | arrayLength _ laid ih =>
    cases typed with
    | arrayLength receiver =>
      rw [Typed.sites_eq]
      simpa [guarded_calls laid] using ih receiver
  | property _ target laid ih =>
    cases typed with
    | property receiver =>
      rw [Typed.sites_eq]
      simpa [guarded_calls laid] using List.rel_append (ih receiver) (own target)
  | @call _ _ s _ args _ _ _ _ _ _ _ same _ passed target _ laid ih iha =>
    cases typed with
    | call receiver arguments values declared chosen =>
      rw [Typed.sites_eq]
      have lengths := chosen.passes.length
      rw [List.length_map] at lengths
      have each := flatMap_targets same fun x member => iha x member (arguments _ (List.of_mem_zip member).1)
      have passing := passArguments_calls (same.trans lengths.symm) passed
      cases kind : s.method.isStatic <;>
        simpa [guarded_calls laid, kind, passing]
          using List.rel_append (ih receiver) (List.rel_append each (own target))
  | staticCall same _ passed target _ iha =>
    cases typed with
    | staticCall arguments values declared isStatic chosen =>
      rw [Typed.sites_eq]
      have lengths := chosen.passes.length
      rw [List.length_map] at lengths
      have each := flatMap_targets same fun x member => iha x member (arguments _ (List.of_mem_zip member).1)
      have passing := passArguments_calls (same.trans lengths.symm) passed
      simpa [passing] using List.rel_append each (own target)
  | contextCall _ _ same _ passed target _ iha | contextStaticCall _ same _ passed target _ iha =>
    cases typed with
    | contextCall arguments values chosen =>
      rw [Typed.sites_eq]
      have lengths := chosen.passes.length
      rw [List.length_map] at lengths
      have each := flatMap_targets same fun x member => iha x member (arguments _ (List.of_mem_zip member).1)
      have passing := passArguments_calls (same.trans lengths.symm) passed
      simpa [passing] using List.rel_append each (own target)
  | parameter _ checked | this checked =>
    rw [Typed.sites_eq]
    simp [checked.calls]
  | contextProperty _ target =>
    rw [Typed.sites_eq]
    simpa using own target
  | bean =>
    rw [Typed.sites_eq]
    simp
  | environment _ ih =>
    cases typed with
    | environment key =>
      rw [Typed.sites_eq]
      simpa using ih key

/-- The entry of the table that a call at the offset goes to. -/
def Program.entryAt? (p : Program H) (offset : Nat) : Option (Method H) :=
  match p.chunk.instrAt? offset with
  | some (.call _ f _) => p.tables.functions[f.toNat]?
  | _ => none

theorem Machine.Calls.entryAt? {p : Program H} {s : State H} {m : Method H} {receiver : Value H}
    {args : List (Value H)} (calls : Calls p s m receiver args) : p.entryAt? s.offset = some m := by
  cases calls with
  | method found entry | static found entry => simpa [Program.entryAt?, found] using entry

/-- The code of a compiled expression stands at the start of its program, and is all there is to call. -/
theorem Expr.compile_stands {ctx : Context H} {e : Expr} {p : Program H} (compiled : e.compile ctx = .ok p) :
    ∃ t code, (e.resolve ctx .blank).1 = .ok t ∧ t.WellTyped ctx.catalog ∧
      Layout ctx.catalog p.tables t (.closed code) ∧ Tables.empty.Grows t.selected p.tables ∧ p.type = t.type ∧
      p.catalog = ctx.catalog ∧ p.chunk.Holds 0 code ∧ p.chunk.instrAt? code.size = some (.bare .return) ∧
      p.chunk.callOffsets = (code.callsFrom 0).map Prod.fst := by
  obtain ⟨t, code, resolved, typed, layout, grows, whole, type, sameCatalog⟩ := Expr.compile_ok compiled
  have codeSized : code.WellSized := layout.wellSized
  have sized : (code ++ Code.ofOps e.span.line [.return]).WellSized := by simp +decide [codeSized]
  have held : p.chunk.Holds 0 (code ++ Code.ofOps e.span.line [.return]) := by
    rw [whole]
    exact Code.chunk_holds sized
  rw [Chunk.holds_append, Nat.zero_add] at held
  refine ⟨t, code, resolved, typed, layout, grows, type, sameCatalog, held.1, held.2.1, ?_⟩
  rw [whole, Code.callOffsets_chunk sized, Code.callsFrom_append]
  exact congrArg _ (List.append_nil _)

/-- The calls of a program stand in the order of the call sites, and each goes to the first method that was
selected under the digest of its site. -/
theorem Expr.compile_sites {ctx : Context H} {e : Expr} {p : Program H} (compiled : e.compile ctx = .ok p) :
    ∃ t, (e.resolve ctx .blank).1 = .ok t ∧ List.Forall₂
      (fun offset site => ∃ entry, p.entryAt? offset = some entry ∧
        t.selected.find? (fun m => m.digest == site.1.digest) = some entry) p.chunk.callOffsets t.sites := by
  obtain ⟨t, code, resolved, typed, layout, grows, _, _, held, _, offsets⟩ := Expr.compile_stands compiled
  have called : ∀ x ∈ code.callsFrom 0, p.chunk.instrAt? x.1 = some x.2 := Code.callsFrom_holds held
  have targets : List.Forall₂ p.tables.Targets code.calls t.sites := layout.targets typed
  rw [← Code.callsFrom_snd 0, List.forall₂_map_left_iff] at targets
  refine ⟨t, resolved, ?_⟩
  rw [offsets, List.forall₂_map_left_iff]
  refine ((List.forall₂_and_left _ _).mpr ⟨called, targets⟩).imp ?_
  rintro ⟨offset, i⟩ site ⟨found, op, f, n, rfl, entry, at_f, linked⟩
  exact ⟨entry, by simpa [Program.entryAt?, found] using at_f, grows.linked? site.1 ▸ linked⟩

/-- Both methods have the same owner, signature and native. -/
def Method.SameTarget (m n : Method H) : Prop :=
  m.owner = n.owner ∧ m.signature = n.signature ∧ m.native = n.native

/-- A digest does not tell the owner of a method from its name, so methods with nothing in common may be selected
under one digest. -/
theorem Method.digestOf_exchanged (owner name : String) (args args' parameters : List Ty) :
    digestOf (.declared owner args) name parameters = digestOf (.declared name args') owner parameters := by
  have mixed (seed mark a b : UInt64) : seed ^^^ (mark ^^^ a) ^^^ b = seed ^^^ (mark ^^^ b) ^^^ a := by
    rw [← UInt64.xor_assoc, ← UInt64.xor_assoc, UInt64.xor_assoc, UInt64.xor_comm a, ← UInt64.xor_assoc]
  change Digest.mk (Digest.foldParameters (_ ^^^ (_ ^^^ Digest.ofText owner) ^^^ Digest.ofText name) 0 _) = _
  rw [mixed]
  rfl

/-- Every call goes to the first method selected under the digest of its site, so it goes to the site's own
method as far as the methods selected under that digest are the same. Instances of one declaration share its
digest; whichever of them is called, its name and native are those of the declaration. -/
theorem Expr.callee_of_site {ctx : Context H} {e : Expr} {p : Program H} (compiled : e.compile ctx = .ok p) :
    ∃ t, (e.resolve ctx .blank).1 = .ok t ∧ p.chunk.callOffsets.length = t.sites.length ∧
      ∀ (k : Nat) (method : Method H) (type : Ty), t.sites[k]? = some (method, type) → ∃ offset entry,
        p.chunk.callOffsets[k]? = some offset ∧ p.entryAt? offset = some entry ∧
        (∀ s callee receiver args, s.offset = offset → Machine.Calls p s callee receiver args → callee = entry) ∧
        t.selected.find? (fun m => m.digest == method.digest) = some entry ∧
        ((∀ m ∈ t.selected, m.digest = method.digest → m.SameTarget method) → entry.SameTarget method) ∧
        ((∃ declared : Method H, ∀ m ∈ t.selected, m.digest = method.digest →
            ∃ args, m = declared.instantiate args) →
          entry.name = method.name ∧ entry.native = method.native) := by
  obtain ⟨t, resolved, sites⟩ := Expr.compile_sites compiled
  refine ⟨t, resolved, sites.length_eq, fun k method type site => ?_⟩
  obtain ⟨offset, atSite, entry, called, first⟩ : ∃ offset, p.chunk.callOffsets[k]? = some offset ∧
      ∃ entry, p.entryAt? offset = some entry ∧
        t.selected.find? (fun m => m.digest == method.digest) = some entry := by
    obtain ⟨inside, isSite⟩ := List.getElem?_eq_some_iff.mp site
    have offsetInside := sites.length_eq ▸ inside
    refine ⟨p.chunk.callOffsets[k], List.getElem?_eq_getElem offsetInside, ?_⟩
    simpa [isSite] using sites.get offsetInside inside
  have isSelected : entry ∈ t.selected := List.mem_of_find?_eq_some first
  have sameDigest : entry.digest = method.digest := by simpa using List.find?_some first
  refine ⟨offset, entry, atSite, called, ?_, first, fun same => same entry isSelected sameDigest, ?_⟩
  · intro s callee receiver args here calls
    have entryHere := calls.entryAt?
    rw [here, called] at entryHere
    exact (Option.some.inj entryHere).symm
  · rintro ⟨declared, instances⟩
    have siteSelected : method ∈ t.selected :=
      List.mem_map.mpr ⟨(method, type), List.mem_of_getElem? site, rfl⟩
    obtain ⟨args, rfl⟩ := instances entry isSelected sameDigest
    obtain ⟨args', rfl⟩ := instances method siteSelected rfl
    exact ⟨rfl, rfl⟩

/-- A generic type with one method. -/
def boxType : TypeDef Record where
  name := "Box"
  parameters := ["T"]
  methods := [.declare (.declared "Box" [.var 0]) "get" [] (.var 0) fun _ _ => .ok .null]

def boxContext : Context Record where
  catalog := ⟨[boxType]⟩
  scope := ((({} : Declarations Record).parameter "a" (.declared "Box" [.string])).parameter "b"
    (.declared "Box" [.boxed .int])).scope

/-- The expression `a.get() == b.get()`. -/
def boxExpr : Expr :=
  .equality default false (.call default (.name default "a") "get" [] false)
    (.call default (.name default "b") "get" [] false)

theorem boxExpr_callee_of_site : ∃ p t method type offset entry, boxExpr.compile boxContext = .ok p ∧
    (boxExpr.resolve boxContext .blank).1 = .ok t ∧ t.sites[1]? = some (method, type) ∧
    p.chunk.callOffsets[1]? = some offset ∧ p.entryAt? offset = some entry ∧
    t.selected.find? (fun m => m.digest == method.digest) = some entry := by
  have succeeds : (boxExpr.compile boxContext).toOption.isSome = true := by decide +kernel
  obtain ⟨p, found⟩ := Option.isSome_iff_exists.mp succeeds
  obtain ⟨t, resolved, _, callees⟩ := Expr.callee_of_site (toOption_some found)
  have second : ((boxExpr.resolve boxContext .blank).1.toOption.bind fun t => t.sites[1]?).isSome = true := by
    decide +kernel
  rw [resolved] at second
  obtain ⟨⟨method, type⟩, site⟩ := Option.isSome_iff_exists.mp second
  obtain ⟨offset, entry, atSite, called, _, first, _⟩ := callees 1 method type site
  exact ⟨p, t, method, type, offset, entry, toOption_some found, resolved, site, atSite, called, first⟩

/-- Both sites call the method of the first one: the entry called at the second site is not of its owner. -/
theorem boxExpr_shares_entry : ∃ p t, boxExpr.compile boxContext = .ok p ∧
    (boxExpr.resolve boxContext .blank).1 = .ok t ∧
    t.selected.map Method.owner = [.declared "Box" [.string], .declared "Box" [.boxed .int]] ∧
    p.chunk.callOffsets.map (fun offset => (p.entryAt? offset).map Method.owner) =
      [some (.declared "Box" [.string]), some (.declared "Box" [.string])] := by
  have compiled : ((boxExpr.compile boxContext).toOption.map fun p =>
      p.chunk.callOffsets.map (fun offset => (p.entryAt? offset).map Method.owner)) =
        some [some (.declared "Box" [.string]), some (.declared "Box" [.string])] := by decide +kernel
  have resolved : ((boxExpr.resolve boxContext .blank).1.toOption.map fun t => t.selected.map Method.owner) =
      some [.declared "Box" [.string], .declared "Box" [.boxed .int]] := by decide +kernel
  obtain ⟨p, isProgram, entries⟩ := Option.map_eq_some_iff.mp compiled
  obtain ⟨t, isTree, owners⟩ := Option.map_eq_some_iff.mp resolved
  exact ⟨p, t, toOption_some isProgram, toOption_some isTree, owners, entries⟩

end TypedExpr
