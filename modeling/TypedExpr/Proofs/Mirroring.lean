import TypedExpr.Proofs.Memory
import TypedExpr.Proofs.Sequencing
/-!
# Emission from memories

Where the memories of an expression fit together, emission does what generation does with the resolved expression
that the root remembers: it yields the same code and tables or the same fault, meets none of its own faults, and
leaves the memories as they are (`Expr.emitCode_cached`). So emission changes what is remembered only by resolving
(`Expr.emitCode_eq`, `Expr.emitProgram_eq`).
-/

namespace TypedExpr

variable {H : Type}

/-- The form that the draft of a resolved node has. -/
def Typed.Shapes : Typed H → Draft → Prop
  | .logical _ op _ _, d => ∃ operands, d = .chain op operands
  | .concat .., d => ∃ count code, d = .concat count code
  | _, d => ∃ code, d = .closed code

namespace Emission

variable {α β γ δ : Type}

theorem bind_run (a : Emission H α) (b : α → Emission H β) (T : Tables H) (v : Visited H) :
    (a >>= b) T v = match a T v with
      | (.ok (x, U), w) => b x U w
      | (.error fault, w) => (.error fault, w) := by
  simp only [Bind.bind, StateT.bind, ExceptT.bind, ExceptT.mk]
  rcases a T v with ⟨result, w⟩
  cases result <;> rfl

/-- The emission does what the generation does, on nodes with these memories. It leaves the memories as they are.
What it yields is that of the generation, seen through `view`, and has the property. -/
structure Mirrors (view : α → β) (property : α → Prop) (a : Emission H β) (g : Generate H α)
    (ms : List (Memo H)) : Prop where
  yields : ∀ {T U : Tables H} {x : α} (done rest : List (Memo H)), g T = .ok (x, U) →
    property x ∧ a T ⟨done, ms ++ rest⟩ = (.ok (view x, U), ⟨ms.reverse ++ done, rest⟩)
  fails : ∀ {T : Tables H} {fault : InternalFault} (done rest : List (Memo H)), g T = .error fault →
    ∃ v, a T ⟨done, ms ++ rest⟩ = (.error (.compile (.internal fault)), v) ∧ v.all = done.reverse ++ (ms ++ rest)

namespace Mirrors

variable {view : α → β} {view' : γ → δ} {P : α → Prop} {Q : γ → Prop} {ms ms' : List (Memo H)}

theorem pure {x : α} (holds : P x) : Mirrors (H := H) view P (Pure.pure (view x)) (Pure.pure x) [] where
  yields done rest h := by
    obtain ⟨rfl, rfl⟩ := Generate.pure_ok h
    exact ⟨holds, rfl⟩
  fails done rest h := nomatch h

theorem generated (g : Generate H α) : Mirrors (fun x => x) (fun _ => True) (ofGenerate g) g [] where
  yields done rest h := by
    refine ⟨trivial, ?_⟩
    simp only [ofGenerate, h]
    rfl
  fails done rest h := by
    refine ⟨⟨done, rest⟩, ?_, List.reverseAux_eq⟩
    simp only [ofGenerate, h]
    rfl

theorem lift (x : Except InternalFault α) :
    Mirrors (H := H) (fun a => a) (fun _ => True) (Emission.lift x) (liftExcept x) [] := generated (liftExcept x)

theorem fail (fault : InternalFault) :
    Mirrors (H := H) view P (throw (.compile (.internal fault))) (throw fault) [] where
  yields done rest h := nomatch h
  fails done rest h := by
    cases h
    exact ⟨⟨done, rest⟩, rfl, List.reverseAux_eq⟩

/-- What the first part leaves done is what the second part starts from. -/
theorem bind {a : Emission H β} {a' : β → Emission H δ} {g : Generate H α} {g' : α → Generate H γ}
    (first : Mirrors view P a g ms) (second : ∀ x, P x → Mirrors view' Q (a' (view x)) (g' x) ms') :
    Mirrors view' Q (a >>= a') (g >>= g') (ms ++ ms') where
  yields done rest h := by
    obtain ⟨x, U, generated, continued⟩ := Generate.bind_ok h
    obtain ⟨holds, emitted⟩ := first.yields done (ms' ++ rest) generated
    obtain ⟨holds', emitted'⟩ := (second x holds).yields (ms.reverse ++ done) rest continued
    refine ⟨holds', ?_⟩
    rw [bind_run, List.append_assoc, emitted, List.reverse_append, List.append_assoc]
    exact emitted'
  fails done rest h := by
    rw [List.append_assoc]
    rcases Generate.bind_error h with failed | ⟨x, U, generated, failed⟩
    · obtain ⟨v, emitted, all⟩ := first.fails done (ms' ++ rest) failed
      exact ⟨v, by rw [bind_run, emitted], all⟩
    · obtain ⟨holds, emitted⟩ := first.yields done (ms' ++ rest) generated
      obtain ⟨v, emitted', all⟩ := (second x holds).fails (ms.reverse ++ done) rest failed
      refine ⟨v, by rw [bind_run, emitted]; exact emitted', ?_⟩
      rw [all, List.reverse_append, List.reverse_reverse, List.append_assoc]

/-- Two steps of a generation may be one of the emission. -/
theorem bind₂ {ε : Type} {a : Emission H β} {a' : β → Emission H δ} {x : Generate H ε} {g : ε → Generate H α}
    {g' : α → Generate H γ} (first : Mirrors view P a (x >>= g) ms)
    (second : ∀ y, P y → Mirrors view' Q (a' (view y)) (g' y) ms') :
    Mirrors view' Q (a >>= a') (x >>= fun y => g y >>= g') (ms ++ ms') := by
  rw [← bind_assoc]
  exact first.bind second

theorem choose {condition : Prop} [Decidable condition] {a a' : Emission H β} {g g' : Generate H α}
    (yes : Mirrors view P a g ms) (no : Mirrors view P a' g' ms) :
    Mirrors view P (if condition then a else a') (if condition then g else g') ms := by
  split
  · exact yes
  · exact no

end Mirrors

/-- The emission of a node does what the generation does, and leaves its memory as it is. -/
def MirrorsNode (view : α → β) (work : NodeEmission H β) (g : Generate H α) (m : Memo H) : Prop :=
  ∀ T, work m T = (match g T with
    | .ok (x, U) => .ok (view x, U)
    | .error fault => .error (.compile (.internal fault)), m)

namespace Mirrors

variable {view : α → β} {P : α → Prop} {m : Memo H}

theorem below {work : NodeEmission H β} {g : Generate H α} (mirrors : MirrorsNode view work g m)
    (holds : ∀ {T U x}, g T = .ok (x, U) → P x) : Mirrors view P (Emission.below work) g [m] where
  yields {T U x} done rest h := by
    have emitted := mirrors T
    rw [h] at emitted
    refine ⟨holds h, ?_⟩
    simp only [Emission.below, List.singleton_append, emitted]
    rfl
  fails {T fault} done rest h := by
    have emitted := mirrors T
    rw [h] at emitted
    refine ⟨⟨m :: done, rest⟩, ?_, by simp [Visited.all]⟩
    simp only [Emission.below, List.singleton_append, emitted]

theorem inside {a : Emission H β} {g : Generate H α} {ms rest : List (Memo H)} (mirrors : Mirrors view P a g ms)
    (children : m.children = ms ++ rest) : MirrorsNode view (Emission.inside a) g m := by
  intro T
  obtain ⟨outcome, below⟩ := m
  obtain rfl : below = ms ++ rest := children
  cases generated : g T with
  | ok result =>
    obtain ⟨x, U⟩ := result
    simp [Emission.inside, Memo.children, (mirrors.yields [] rest generated).2, Visited.all, Memo.outcome]
  | error fault =>
    obtain ⟨v, emitted, all⟩ := mirrors.fails [] rest generated
    simp [Emission.inside, Memo.children, emitted, all, Memo.outcome]

end Mirrors
end Emission

theorem Generate.bind_congr {α β : Type} {P : α → Prop} {g : Generate H α} {f f' : α → Generate H β}
    (holds : ∀ {T U x}, g T = .ok (x, U) → P x) (same : ∀ x, P x → f x = f' x) : g >>= f = g >>= f' := by
  funext T
  cases generated : g T with
  | error fault => simp only [Bind.bind, StateT.bind, generated, Except.bind]
  | ok result =>
    have here := same result.1 (holds generated)
    simp only [Bind.bind, StateT.bind, generated, Except.bind, here]

theorem Generate.lift_map {α β : Type} (x : Except InternalFault α) (f : α → β) :
    (liftExcept (x.map f) : Generate H β) = liftExcept x >>= fun a => pure (f a) := by
  cases x <;> rfl

open Generation (part finish passArguments)

/-- The chain around a node takes the node as one operand, unless its operator is that of the chain. -/
theorem Typed.Shapes.chainOperand {op : LogicalOp} {t : Typed H} {d : Draft} (shapes : t.Shapes d)
    (other : ∀ line l r, t ≠ .logical line op l r) :
    Generation.chainOperands op t d = (finish t.line d).map fun code => [(code, t.type.isBoxed)] := by
  cases t with
  | logical line inner l r =>
    obtain ⟨operands, rfl⟩ := shapes
    have differs : inner ≠ op := by
      rintro rfl
      exact other line l r rfl
    simp only [Generation.chainOperands, if_neg differs]
  | concat line l r =>
    obtain ⟨count, code, rfl⟩ := shapes
    rfl
  | _ =>
    obtain ⟨code, rfl⟩ := shapes
    rfl

theorem Typed.Shapes.concatOperand {t : Typed H} {d : Draft} (shapes : t.Shapes d)
    (other : ∀ line l r, t ≠ .concat line l r) :
    Generation.concatOperands t d = (finish t.line d).map fun code => (1, code) := by
  cases t with
  | logical line inner l r =>
    obtain ⟨operands, rfl⟩ := shapes
    rfl
  | concat line l r => exact absurd rfl (other line l r)
  | _ =>
    obtain ⟨code, rfl⟩ := shapes
    rfl

open Emission (Mirrors MirrorsNode)

/-- A node that remembers a resolved expression, the generation of which its emission mirrors. -/
structure Expr.Follows (ctx : Context H) (e : Expr) (t : Typed H) (m : Memo H) : Prop where
  cached : m.outcome = some t
  resolves : ∃ ts, e.ResolvesTo ts t
  drafts : ∃ ms rest, m.children = ms ++ rest ∧
    Mirrors (fun d => d) t.Shapes (e.emit ctx t.resolved) (t.draft ctx.catalog) ms

namespace Expr.Follows

variable {ctx : Context H} {e : Expr} {t : Typed H} {m : Memo H}

theorem shapes (follows : e.Follows ctx t m) {T U : Tables H} {d : Draft}
    (h : t.draft ctx.catalog T = .ok (d, U)) : t.Shapes d := by
  obtain ⟨ms, rest, _, mirrors⟩ := follows.drafts
  exact (mirrors.yields [] [] h).1

theorem draft (follows : e.Follows ctx t m) :
    MirrorsNode (fun d => d) (Emission.inside (e.emit ctx t.resolved)) (t.draft ctx.catalog) m := by
  obtain ⟨ms, rest, children, mirrors⟩ := follows.drafts
  exact mirrors.inside children

theorem node (follows : e.Follows ctx t m) :
    MirrorsNode (fun code => code) (e.emitCode ctx) (part t (t.draft ctx.catalog)) m := by
  obtain ⟨ms, rest, children, mirrors⟩ := follows.drafts
  obtain ⟨ts, resolves⟩ := follows.resolves
  have finished : Mirrors (fun code => code) (fun _ => True)
      (do Emission.lift (finish e.span.line (← e.emit ctx t.resolved))) (part t (t.draft ctx.catalog))
      (ms ++ []) := by
    unfold part
    rw [resolves.line]
    exact mirrors.bind fun d _ => Mirrors.lift (finish e.span.line d)
  rw [List.append_nil] at finished
  intro T
  have emitted := finished.inside children T
  simpa only [emitCode, Emission.node, resolve_cached follows.cached] using emitted

theorem code (follows : e.Follows ctx t m) :
    Mirrors (fun code => code) (fun _ => True) (Emission.code e (e.resolve ctx) (e.emit ctx))
      (part t (t.draft ctx.catalog)) [m] := .below follows.node fun _ => trivial

theorem typedCode (follows : e.Follows ctx t m) :
    Mirrors (fun code => (code, t.type)) (fun _ => True) (Emission.typedCode e (e.resolve ctx) (e.emit ctx))
      (part t (t.draft ctx.catalog)) [m] := by
  refine .below (fun T => ?_) fun _ => trivial
  have emitted := follows.node T
  have remembered : m.type? = some t.type := by rw [Memo.type?, follows.cached, Option.map_some]
  unfold emitCode at emitted
  simp only [Emission.typed, emitted]
  rcases part t (t.draft ctx.catalog) T with fault | ⟨code, U⟩
  · rfl
  · simp only [remembered]

/-- Where the draft of a node is finished, its code is generated. -/
theorem finished {α : Type} (follows : e.Follows ctx t m) {use : Draft → Except InternalFault α} {view : Code → α}
    (same : ∀ d, t.Shapes d → use d = (finish t.line d).map view) :
    (do let d ← t.draft ctx.catalog; liftExcept (use d)) =
      (do let code ← part t (t.draft ctx.catalog); pure (view code)) := by
  simp only [part, bind_assoc, ← Generate.lift_map]
  refine Generate.bind_congr follows.shapes fun d shapes => ?_
  rw [same d shapes]

theorem chainOperands (follows : e.Follows ctx t m) (op : LogicalOp) :
    Mirrors (fun operands => operands) (fun _ => True)
      (Emission.chainOperands op e (e.resolve ctx) (e.emit ctx))
      (do let d ← t.draft ctx.catalog; liftExcept (Generation.chainOperands op t d)) [m] := by
  obtain ⟨ts, resolves⟩ := follows.resolves
  by_cases same : ∃ line l r, t = .logical line op l r
  · -- A chain of the same operator is passed through, so the draft of the node is not finished.
    obtain ⟨line, l, r, rfl⟩ := same
    cases resolves
    simp only [Emission.chainOperands, if_true]
    refine Mirrors.bind (.below follows.draft follows.shapes) fun d shapes => ?_
    obtain ⟨operands, rfl⟩ := shapes
    simp only [Generation.chainOperands, if_true]
    exact .pure trivial
  · have other (line : Nat) (l r : Typed H) : t ≠ .logical line op l r := fun h => same ⟨line, l, r, h⟩
    rw [follows.finished fun d shapes => shapes.chainOperand other]
    have alone : Emission.chainOperands op e (e.resolve ctx) (e.emit ctx) =
        Emission.typedCode e (e.resolve ctx) (e.emit ctx) >>= fun x => pure [(x.1, x.2.isBoxed)] := by
      cases e with
      | logical span inner l r =>
        cases resolves
        have differs : inner ≠ op := by
          rintro rfl
          exact other _ _ _ rfl
        simp only [Emission.chainOperands, if_neg differs]
      | _ => rfl
    rw [alone]
    exact follows.typedCode.bind fun code _ => .pure trivial

theorem joinsTexts (follows : e.Follows ctx t m) :
    Emission.joinsTexts e m = true ↔ ∃ line l r, t = .concat line l r := by
  obtain ⟨ts, resolves⟩ := follows.resolves
  unfold Emission.joinsTexts
  rw [follows.cached]
  cases resolves with
  | concat => simp [Typed.plan]
  | numeric => simp [Typed.plan]
  | _ => simp

theorem concatOperands (follows : e.Follows ctx t m) :
    Mirrors (fun operands => operands) (fun _ => True)
      (Emission.concatOperands e (e.resolve ctx) (e.emit ctx))
      (do let d ← t.draft ctx.catalog; liftExcept (Generation.concatOperands t d)) [m] := by
  refine .below (fun T => ?_) fun _ => trivial
  by_cases same : ∃ line l r, t = .concat line l r
  · obtain ⟨ms, rest, children, mirrors⟩ := follows.drafts
    rw [if_pos (follows.joinsTexts.mpr same)]
    obtain ⟨line, l, r, rfl⟩ := same
    rw [← List.append_nil ms] at children
    refine Mirrors.inside (P := fun _ => True) (mirrors.bind fun d shapes => ?_) children T
    obtain ⟨count, code, rfl⟩ := shapes
    exact .pure trivial
  · have other (line : Nat) (l r : Typed H) : t ≠ .concat line l r := fun h => same ⟨line, l, r, h⟩
    rw [if_neg (mt follows.joinsTexts.mp same), follows.finished fun d shapes => shapes.concatOperand other]
    have emitted := follows.node T
    unfold emitCode at emitted
    simp only [emitted, Bind.bind, StateT.bind]
    rcases part t (t.draft ctx.catalog) T with fault | ⟨code, U⟩ <;> rfl

end Expr.Follows

/-- A selection that collects no arguments passes all of them as they are. -/
theorem Emission.arguments_fixed (line : Nat) {s : Selection H} (isStart : s.varargsStart = none)
    (works : List (NodeEmission H Code)) :
    Emission.arguments line s works = Emission.convertEach line works s.conversions := by
  unfold Emission.arguments
  simp only [isStart, Option.getD_none, Nat.lt_irrefl, if_false, List.take_length, Selection.isVarargs,
    Option.isSome_none, Bool.false_eq_true, bind_pure]

/-- A selection that goes with the number of arguments cuts no list behind its end. -/
theorem Emission.arguments_collected (line : Nat) {s : Selection H} {start : Nat}
    (isStart : s.varargsStart = some start) {works : List (NodeEmission H Code)} (fits : s.Fits works.length) :
    Emission.arguments line s works = do
      let before ← Emission.convertEach line (works.take start) s.conversions
      let after ← Emission.convertEach line (works.drop start) (s.conversions.drop start)
      let i ← Emission.lift (countInstr .newArray "array element" (works.drop start).length)
      return before ++ after ++ [(line, i)] := by
  have within := fits.2 start isStart
  have same : (works.drop start).length = (s.conversions.drop start).length := by simp [fits.1]
  unfold Emission.arguments
  simp only [isStart, Option.getD_some, if_neg (Nat.not_lt.mpr within), Selection.isVarargs, Option.isSome_some,
    if_true, fits.1, ne_eq, same, not_true, if_false]

theorem Generation.passArguments_collected (line : Nat) {s : Selection H} {before after : List Code}
    (isStart : s.varargsStart = some before.length) (fits : s.conversions.length = before.length + after.length) :
    passArguments line s (before ++ after) =
      (countInstr .newArray "array element" after.length).map fun i =>
        convertEach line before s.conversions ++ convertEach line after (s.conversions.drop before.length)
          ++ [(line, i)] := by
  unfold passArguments
  simp only [isStart, List.drop_left, List.take_left, List.length_drop, fits, Nat.add_sub_cancel_left, ne_eq,
    not_true, if_false]

theorem Expr.emitters_eq (ctx : Context H) (es : List Expr) :
    Expr.emitters ctx es = es.map fun e => e.emitCode ctx := by
  induction es with
  | nil => rfl
  | cons e es ih =>
    unfold Expr.emitters
    rw [ih]
    rfl

theorem Typed.codes_append (c : Catalog H) (ts us : List (Typed H)) :
    Typed.codes c (ts ++ us) =
      Typed.codes c ts >>= fun before => Typed.codes c us >>= fun after => pure (before ++ after) := by
  induction ts with
  | nil => simp [Typed.codes]
  | cons t ts ih => simp [Typed.codes, ih]

/-- Nodes that each remember a resolved expression, the generation of which their emission mirrors. -/
inductive Expr.FollowAll (ctx : Context H) : List Expr → List (Typed H) → List (Memo H) → Prop where
  | nil : FollowAll ctx [] [] []
  | cons {e : Expr} {t : Typed H} {m : Memo H} {es : List Expr} {ts : List (Typed H)} {ms : List (Memo H)}
      (first : e.Follows ctx t m) (rest : FollowAll ctx es ts ms) : FollowAll ctx (e :: es) (t :: ts) (m :: ms)

namespace Expr.FollowAll

variable {ctx : Context H} {es : List Expr} {ts : List (Typed H)} {ms : List (Memo H)}

theorem ofGetD {found : List (Memo H)} (count : ts.length = es.length)
    (each : ∀ (i : Nat) (e : Expr), es[i]? = some e → ∃ t, ts[i]? = some t ∧ e.Follows ctx t (found.getD i .blank)) :
    ∃ ms rest, found = ms ++ rest ∧ FollowAll ctx es ts ms := by
  induction es generalizing ts found with
  | nil =>
    obtain rfl := List.eq_nil_of_length_eq_zero count
    exact ⟨[], found, rfl, .nil⟩
  | cons e es ih =>
    obtain ⟨t, isFirst, first⟩ := each 0 e rfl
    cases ts with
    | nil => cases isFirst
    | cons _ ts =>
      cases isFirst
      cases found with
      | nil => cases first.cached
      | cons m found =>
        obtain ⟨ms, rest, rfl, follow⟩ := ih (Nat.succ.inj count) fun i e' here => each (i + 1) e' here
        exact ⟨m :: ms, rest, rfl, .cons first follow⟩

theorem take (follow : FollowAll ctx es ts ms) (n : Nat) :
    FollowAll ctx (es.take n) (ts.take n) (ms.take n) := by
  induction follow generalizing n with
  | nil => simpa using nil
  | cons first _ ih =>
    cases n with
    | zero => exact nil
    | succ n => exact .cons first (ih n)

theorem drop (follow : FollowAll ctx es ts ms) (n : Nat) :
    FollowAll ctx (es.drop n) (ts.drop n) (ms.drop n) := by
  induction follow generalizing n with
  | nil => simpa using nil
  | cons first rest ih =>
    cases n with
    | zero => exact .cons first rest
    | succ n => exact ih n

theorem convertEach (follow : FollowAll ctx es ts ms) (line : Nat) {conversions : List Conversion}
    (enough : es.length ≤ conversions.length) :
    Mirrors (fun codes => Generation.convertEach line codes conversions) (fun codes => codes.length = es.length)
      (Emission.convertEach line (Expr.emitters ctx es) conversions) (Typed.codes ctx.catalog ts) ms := by
  induction follow generalizing conversions with
  | nil =>
    unfold Typed.codes Emission.convertEach
    exact .pure (x := []) rfl
  | @cons e t m es ts ms first _ ih =>
    cases conversions with
    | nil => cases enough
    | cons conversion conversions =>
      unfold Typed.codes Expr.emitters Emission.convertEach
      rw [← List.append_nil (m :: ms)]
      refine first.code.bind fun code _ => (ih (Nat.le_of_succ_le_succ enough)).bind fun codes count => ?_
      exact .pure (x := code :: codes) (congrArg Nat.succ count)

theorem arguments (follow : FollowAll ctx es ts ms) (line : Nat) {s : Selection H} (fits : s.Fits es.length) :
    Mirrors (fun code => code) (fun _ => True) (Emission.arguments line s (Expr.emitters ctx es))
      (do let codes ← Typed.codes ctx.catalog ts; liftExcept (passArguments line s codes)) ms := by
  have count : (Expr.emitters ctx es).length = es.length := by rw [emitters_eq, List.length_map]
  have enough : es.length ≤ s.conversions.length := Nat.le_of_eq fits.1.symm
  cases isStart : s.varargsStart with
  | none =>
    rw [Emission.arguments_fixed line isStart, ← List.append_nil ms, ← bind_pure (Emission.convertEach _ _ _)]
    unfold passArguments
    rw [isStart]
    exact (follow.convertEach line enough).bind fun codes _ => .pure trivial
  | some start =>
    have within := fits.2 start isStart
    rw [Emission.arguments_collected line isStart (by rwa [count]), emitters_eq, ← List.map_take, ← List.map_drop,
      ← emitters_eq, ← emitters_eq, ← List.take_append_drop start ts, Typed.codes_append,
      ← List.take_append_drop start ms, ← List.append_nil (ms.drop start)]
    simp only [bind_assoc, pure_bind]
    refine ((follow.take start).convertEach line (by simp; omega)).bind fun before isBefore => ?_
    refine ((follow.drop start).convertEach line (by simp; omega)).bind fun after isAfter => ?_
    -- All arguments in front of the collected ones were there, so the two parts are those that are passed.
    obtain rfl : before.length = start := by
      rw [isBefore, List.length_take]
      omega
    rw [Generation.passArguments_collected line isStart (by rw [fits.1, isAfter, List.length_drop]; omega),
      Generate.lift_map, isAfter, emitters_eq, List.length_map]
    exact (Mirrors.lift _).bind fun i _ => .pure trivial

open Emission.Mirrors in
theorem contextCall (follow : FollowAll ctx es ts ms) (line : Nat) {s : Selection H} (fits : s.Fits es.length) :
    Mirrors (fun d => d) (Typed.contextCall line s ts).Shapes
      (Emission.contextCall line s (Expr.emitters ctx es)) ((Typed.contextCall line s ts).draft ctx.catalog) ms := by
  unfold Emission.contextCall Typed.draft
  rw [← List.append_nil ms]
  apply choose
  · simp only [pure_bind]
    exact (follow.arguments line fits).bind₂ fun passed _ => (generated _).bind fun invocation _ => pure ⟨_, rfl⟩
  · exact (generated _).bind fun receiver _ => (follow.arguments line fits).bind₂ fun passed _ =>
      (generated _).bind fun invocation _ => pure ⟨_, rfl⟩

end Expr.FollowAll

theorem Generation.negationOp?_numeric {t : Ty} {kind : Kind} (number : t.numericKind? = some kind) :
    ∃ op, negationOp? kind = some op := by
  have isNumeric := (Option.filter_eq_some_iff.mp number).2
  cases kind with
  | bool => cases isNumeric
  | int | long | float | double => exact ⟨_, rfl⟩

open Emission.Mirrors in
/-- The emission of a node mirrors the generation of what it remembers, if those of the nodes below do. -/
theorem Expr.emit_mirrors {ctx : Context H} {e : Expr} {ts : List (Typed H)} {t : Typed H} {ms : List (Memo H)}
    (resolves : e.ResolvesTo ts t) (follow : FollowAll ctx e.children ts ms) :
    Mirrors (fun d => d) t.Shapes (e.emit ctx t.resolved) (t.draft ctx.catalog) ms := by
  cases resolves with
  | literal =>
    cases follow
    unfold emit Typed.draft
    exact (generated _).bind fun code _ => pure ⟨_, rfl⟩
  | numeric =>
    obtain _ | ⟨left, _ | ⟨right, ⟨⟩⟩⟩ := follow
    unfold emit Typed.draft
    exact left.typedCode.bind fun l _ => right.typedCode.bind fun r _ => (lift _).bind fun operation _ =>
      pure ⟨_, rfl⟩
  | concat =>
    obtain _ | ⟨left, _ | ⟨right, ⟨⟩⟩⟩ := follow
    unfold emit Typed.draft
    exact left.concatOperands.bind₂ fun l _ => right.concatOperands.bind₂ fun r _ => pure ⟨_, _, rfl⟩
  | negate number =>
    obtain _ | ⟨operand, ⟨⟩⟩ := follow
    obtain ⟨op, found⟩ := Generation.negationOp?_numeric number
    unfold emit Typed.draft
    simp only [Typed.resolved, Typed.plan, found]
    exact operand.typedCode.bind fun code _ => pure ⟨_, rfl⟩
  | logical =>
    obtain _ | ⟨left, _ | ⟨right, ⟨⟩⟩⟩ := follow
    unfold emit Typed.draft
    exact (left.chainOperands _).bind₂ fun l _ => (right.chainOperands _).bind₂ fun r _ => pure ⟨_, rfl⟩
  | not =>
    obtain _ | ⟨operand, ⟨⟩⟩ := follow
    unfold emit Typed.draft
    exact operand.typedCode.bind fun code _ => pure ⟨_, rfl⟩
  | empty =>
    obtain _ | ⟨operand, ⟨⟩⟩ := follow
    unfold emit Typed.draft
    exact operand.code.bind fun code _ => pure ⟨_, rfl⟩
  | equality =>
    obtain _ | ⟨left, _ | ⟨right, ⟨⟩⟩⟩ := follow
    unfold emit Typed.draft
    exact left.code.bind fun l _ => right.code.bind fun r _ => pure ⟨_, rfl⟩
  | ordering =>
    obtain _ | ⟨left, _ | ⟨right, ⟨⟩⟩⟩ := follow
    unfold emit Typed.draft
    exact left.typedCode.bind fun l _ => right.typedCode.bind fun r _ => (lift _).bind fun operation _ =>
      pure ⟨_, rfl⟩
  | @comparison span op s isLeft =>
    obtain _ | ⟨left, _ | ⟨right, ⟨⟩⟩⟩ := follow
    unfold emit Typed.draft
    simp only [Typed.resolved, Typed.plan]
    refine left.code.bind fun l _ => right.code.bind fun r _ => ?_
    cases s.conversions.head? with
    | none => exact fail _
    | some conversion =>
      simp only [pure_bind]
      exact (generated _).bind fun comparison _ => (lift _).bind fun operation _ => pure ⟨_, rfl⟩
  | instanceOf =>
    obtain _ | ⟨operand, ⟨⟩⟩ := follow
    unfold emit Typed.draft
    exact operand.code.bind fun code _ => (generated _).bind fun test _ => pure ⟨_, rfl⟩
  | «matches» =>
    obtain _ | ⟨operand, ⟨⟩⟩ := follow
    unfold emit Typed.draft
    exact operand.code.bind fun code _ => (generated _).bind fun test _ => pure ⟨_, rfl⟩
  | ternary =>
    obtain _ | ⟨condition, _ | ⟨yes, _ | ⟨no, ⟨⟩⟩⟩⟩ := follow
    unfold emit Typed.draft
    simp only [Typed.resolved, Typed.type, Emission.codeAs, bind_assoc, pure_bind]
    exact condition.typedCode.bind fun test _ => yes.typedCode.bind fun a _ => (lift _).bind fun a' _ =>
      (lift _).bind fun toElse _ => no.typedCode.bind fun b _ => (lift _).bind fun b' _ =>
      (lift _).bind fun otherwise _ => pure ⟨_, rfl⟩
  | elvis =>
    obtain _ | ⟨left, _ | ⟨right, ⟨⟩⟩⟩ := follow
    unfold emit Typed.draft
    simp only [Typed.resolved, Typed.type, Emission.codeAs, bind_assoc, pure_bind]
    exact left.typedCode.bind fun l _ => right.typedCode.bind fun r _ => (lift _).bind fun r' _ =>
      (lift _).bind fun present _ => (lift _).bind fun l' _ => (lift _).bind fun otherwise _ => pure ⟨_, rfl⟩
  | @index span form =>
    obtain _ | ⟨target, _ | ⟨position, ⟨⟩⟩⟩ := follow
    unfold emit Typed.draft
    cases form with
    | array => exact target.code.bind fun a _ => position.typedCode.bind fun b _ => pure ⟨_, rfl⟩
    | list =>
      exact target.code.bind fun a _ => position.typedCode.bind fun b _ => (generated _).bind fun checked _ =>
        pure ⟨_, rfl⟩
    | map =>
      exact target.code.bind fun a _ => position.code.bind fun b _ => (generated _).bind fun checked _ =>
        pure ⟨_, rfl⟩
  | arrayLength =>
    obtain _ | ⟨receiver, ⟨⟩⟩ := follow
    unfold emit Typed.draft
    exact receiver.code.bind fun code _ => (lift _).bind fun access _ => pure ⟨_, rfl⟩
  | property =>
    obtain _ | ⟨receiver, ⟨⟩⟩ := follow
    unfold emit Typed.draft
    exact receiver.code.bind fun code _ => (generated _).bind fun body _ => (lift _).bind fun access _ =>
      pure ⟨_, rfl⟩
  | call count fits =>
    obtain _ | @⟨_, _, m, _, _, ms, receiver, args⟩ := follow
    unfold emit Typed.draft
    rw [← List.append_nil ms]
    refine Mirrors.bind receiver.code fun code _ => (args.arguments _ fits).bind₂ fun passed _ => ?_
    apply choose
    · simp only [pure_bind]
      exact (generated _).bind fun invocation _ => (lift _).bind fun access _ => pure ⟨_, rfl⟩
    · simp only [pure_bind]
      exact (generated _).bind fun invocation _ => (lift _).bind fun access _ => pure ⟨_, rfl⟩
  | staticCall count fits =>
    unfold emit Typed.draft
    rw [← List.append_nil ms]
    exact (follow.arguments _ fits).bind₂ fun passed _ => (generated _).bind fun invocation _ => pure ⟨_, rfl⟩
  | parameter =>
    cases follow
    unfold emit Typed.draft
    exact (lift _).bind fun i _ => (generated _).bind fun checked _ => pure ⟨_, rfl⟩
  | contextProperty =>
    cases follow
    unfold emit Typed.draft
    exact (generated _).bind fun bean _ => (generated _).bind fun invocation _ => pure ⟨_, rfl⟩
  | contextMethod fits =>
    unfold emit
    exact follow.contextCall _ fits
  | contextCall count fits =>
    unfold emit
    exact follow.contextCall _ fits
  | this =>
    cases follow
    unfold emit Typed.draft
    exact (generated _).bind fun checked _ => pure ⟨_, rfl⟩
  | bean =>
    cases follow
    unfold emit Typed.draft
    exact (generated _).bind fun bean _ => pure ⟨_, rfl⟩
  | environment =>
    obtain _ | ⟨key, ⟨⟩⟩ := follow
    unfold emit Typed.draft
    exact key.code.bind fun code _ => pure ⟨_, rfl⟩

theorem Memo.Coherent.follows (ctx : Context H) {e : Expr} {m : Memo H} {t : Typed H} (coherent : m.Coherent e)
    (cached : m.outcome = some t) : e.Follows ctx t m := by
  induction e using Expr.induction_below generalizing m t with
  | step e ih =>
    obtain ⟨root, rest⟩ := Memo.everywhere_iff.mp coherent
    obtain ⟨ts, resolves, remembered⟩ := root t cached
    have below (i : Nat) (child : Expr) (here : e.children[i]? = some child) :
        ∃ u, ts[i]? = some u ∧ child.Follows ctx u (m.children.getD i .blank) := by
      obtain ⟨u, isResult, outcome⟩ := remembered i child here
      exact ⟨u, isResult, ih child (List.mem_of_getElem? here) (rest i child here) outcome⟩
    obtain ⟨ms, others, children, follow⟩ := Expr.FollowAll.ofGetD resolves.length below
    exact ⟨cached, ⟨ts, resolves⟩, ms, others, children, Expr.emit_mirrors resolves follow⟩

namespace Expr

variable {ctx : Context H} {e : Expr} {m : Memo H}

/-- A node that remembers its outcome is emitted as the outcome is generated, and nothing else is remembered. -/
theorem emitCode_cached {t : Typed H} (coherent : m.Coherent e) (cached : m.outcome = some t) (T : Tables H) :
    e.emitCode ctx m T =
      ((part t (t.draft ctx.catalog) T).mapError fun fault => .compile (.internal fault), m) := by
  rw [(coherent.follows ctx cached).node T]
  rcases part t (t.draft ctx.catalog) T with fault | ⟨code, U⟩ <;> rfl

/-- Emission resolves the node, and then generates the code of the outcome. -/
theorem emitCode_eq (coherent : m.Coherent e) (T : Tables H) :
    e.emitCode ctx m T = match e.resolve ctx m with
      | (.error err, m) => (.error (.compile err), m)
      | (.ok t, m) => ((part t (t.draft ctx.catalog) T).mapError fun fault => .compile (.internal fault), m) := by
  rcases resolved : e.resolve ctx m with ⟨err | t, m'⟩
  · simp only [emitCode, Emission.node, resolved]
  · have after : (e.resolve ctx m).2.Coherent e := coherent.resolve
    rw [resolved] at after
    have cached := resolve_remembers resolved
    have emitted : e.emitCode ctx m' T = _ := emitCode_cached after cached T
    simp only [emitCode, Emission.node, resolve_cached cached] at emitted
    simpa only [emitCode, Emission.node, resolved] using emitted

/-- Compilation by emission is compilation of the resolved expression. -/
theorem emitProgram_eq (coherent : m.Coherent e) :
    e.emitProgram ctx m = ((e.compileWith ctx m).1.mapError .compile, (e.compileWith ctx m).2) := by
  unfold emitProgram compileWith
  rcases resolved : e.resolve ctx m with ⟨err | t, m'⟩
  · rfl
  · have after : (e.resolve ctx m).2.Coherent e := coherent.resolve
    rw [resolved] at after
    have emitted : e.emitCode ctx m' .empty = _ := emitCode_cached after (resolve_remembers resolved) .empty
    simp only [emitted, Typed.generate, StateT.run]
    rcases part t (t.draft ctx.catalog) .empty with fault | ⟨code, U⟩ <;> rfl

/-- Whatever is asked of a node, what it remembers then is what resolution remembers. -/
theorem perform_eq (coherent : m.Coherent e) (request : Request H) :
    request.perform e ctx m = (e.resolve ctx m).2 := by
  cases request with
  | resolve => rfl
  | generate tables =>
    rw [Request.perform, emitCode_eq coherent]
    rcases e.resolve ctx m with ⟨err | t, m'⟩ <;> rfl
  | compile =>
    rw [Request.perform, emitProgram_eq coherent]
    unfold compileWith
    rcases e.resolve ctx m with ⟨err | t, m'⟩
    · rfl
    · simp only
      rcases t.generate ctx.catalog with fault | ⟨code, U⟩ <;> rfl

end Expr
end TypedExpr
