import TypedExpr.Proofs.Accessors
import TypedExpr.Proofs.Faults
import TypedExpr.Proofs.History
/-!
# How many arguments a call can encode

The limits of a compilation count the arguments that are written; the instruction of a call counts the parameters of
the method. The two differ where trailing arguments are collected in an array: if no argument is left for the array,
the method has one parameter more than there are arguments. So a call within the limits fits its one-byte operand
unless it has 255 arguments and passes an empty array behind them, and nothing else makes generation fail for the
number of arguments (`Expr.emitCode_argumentCount`).
-/

namespace TypedExpr

variable {H : Type}

/-- The limits that hosts compile with: the default ones, and those with a number of arguments set by hand. -/
inductive Options.Configured : Options → Prop where
  | default : Configured {}
  | maxArguments (o : Options) (limit : Nat) : Configured (o.withMaxArguments limit)
  | patternSizeLimit {o : Options} (limit : Nat) (before : Configured o) : Configured (o.withPatternSizeLimit limit)

theorem Options.Configured.within {o : Options} (configured : o.Configured) : o.maxArguments ≤ 255 := by
  induction configured with
  | default => exact Nat.le_refl _
  | maxArguments o limit => exact Nat.min_le_right limit 255
  | patternSizeLimit limit before ih => exact ih

/-- How the parameters of the selected method relate to a number of arguments within the limits. -/
structure Selection.Counts (s : Selection H) (count : Nat) : Prop where
  within : count ≤ 255
  fixed : s.varargsStart = none → s.arity = count
  collected : ∀ start, s.varargsStart = some start → start ≤ count ∧ s.arity = start + 1

/-- All the arguments stand in front of the array, and there are as many as a call may have. -/
def Selection.Overfull (s : Selection H) (count : Nat) : Prop := count = 255 ∧ s.varargsStart = some 255

namespace Selection.Counts

variable {s : Selection H} {count : Nat}

theorem ofChosen {c : Catalog H} {args : List (Typed H)} (chosen : s.ChosenFor c (args.map Typed.type))
    (within : args.length ≤ 255) : s.Counts args.length := by
  obtain ⟨_, _, fixed, collected⟩ := chosen.passes
  rw [List.length_map] at fixed collected
  exact ⟨within, fixed, collected⟩

theorem arity_beyond (counts : s.Counts count) (beyond : 255 < s.arity) : s.arity = 256 ∧ s.Overfull count := by
  have within := counts.within
  cases isStart : s.varargsStart with
  | none =>
    have fixed := counts.fixed isStart
    omega
  | some start =>
    obtain ⟨inside, arity⟩ := counts.collected start isStart
    have full : start = 255 := by omega
    exact ⟨by omega, by omega, by rw [isStart, full]⟩

theorem callInstr_iff (counts : s.Counts count) (op : Opcode) (function : UInt16) :
    (∃ i, callInstr op function s.arity = .ok i) ↔ ¬ s.Overfull count := by
  unfold callInstr
  by_cases fits : s.arity < 256
  · rw [if_pos fits]
    refine ⟨?_, fun _ => ⟨_, rfl⟩⟩
    rintro _ ⟨_, isStart⟩
    have arity := (counts.collected 255 isStart).2
    omega
  · rw [if_neg fits]
    constructor
    · rintro ⟨i, made⟩
      cases made
    · intro notFull
      exact absurd (counts.arity_beyond (by omega)).2 notFull

end Selection.Counts

/-- The node, if it is a call, is one within the limits. -/
def Typed.Counted (t : Typed H) : Prop := ∀ s args, t.passing? = some (s, args) → s.Counts args.length

theorem Typed.Counted.other {t : Typed H} (notCall : t.passing? = none) : t.Counted := by
  intro s args isCall
  rw [notCall] at isCall
  cases isCall

section Resolution

variable {ctx : Context H} {e : Expr} {m : Memo H} {t : Typed H}

theorem Resolution.name_counted {span : Span} {name : String} (resolved : Resolution.name ctx span name = .ok t) :
    t.Counted := by
  intro s args isCall
  unfold Resolution.name at resolved
  split at resolved
  · cases resolved
  · cases resolved
    cases isCall
  · cases resolved
    cases isCall
  · obtain ⟨s', selected, rfl⟩ := map_ok resolved
    cases isCall
    exact .ofChosen (Catalog.selectMethod_chosen selected).2 (Nat.zero_le _)
  · cases resolved

open Visit.Traverses in
/-- A call is resolved after its arguments were counted, and to a method that was chosen for them. -/
theorem Expr.resolve_traverses_counted (limit : ctx.options.maxArguments ≤ 255) (e : Expr) :
    ∃ work, e.resolve ctx = Resolution.settle work ∧
      Visit.Traverses ctx e.children work fun _ t => t.Counted := by
  have counted {span : Span} {args : List Expr} {u : Unit} {args' : List (Typed H)} {name : String}
      {candidates : List (Method H)} {s : Selection H}
      (checked : Resolution.argumentLimit ctx span args = .ok u) (count : args'.length = args.length)
      (selected : ctx.catalog.selectMethod name candidates (args'.map Typed.type) span = .ok s) :
      s.Counts args'.length := by
    have within := Resolution.argumentLimit_ok.mp checked
    exact .ofChosen (Catalog.selectMethod_chosen selected).2 (by omega)
  cases e with
  | call span e name args nullSafe =>
    refine ⟨_, rfl, .next fun _ => check fun _ checked => arguments fun _ count => check fun _ selected => done ?_⟩
    rintro s args' ⟨⟩
    exact counted checked count selected
  | staticCall span typeName name args =>
    refine ⟨_, rfl, check fun _ _ => check fun _ checked => arguments fun _ count => check fun _ selected => done ?_⟩
    rintro s args' ⟨⟩
    exact counted checked count selected
  | contextCall span name args =>
    refine ⟨_, rfl, check fun _ checked => arguments fun _ count => check fun _ selected => done ?_⟩
    rintro s args' ⟨⟩
    exact counted checked count selected
  | name span name => exact ⟨_, rfl, .yield fun _ => Resolution.name_counted⟩
  | _ =>
    -- No other form becomes a call.
    obtain ⟨work, same, traverses⟩ := Expr.resolve_traverses ctx _
    refine ⟨work, same, traverses.weaken fun ts t _ resolves => .other ?_⟩
    cases resolves <;> rfl

theorem Expr.resolve_counted (limit : ctx.options.maxArguments ≤ 255) (unsettled : m.outcome = none)
    (resolved : (e.resolve ctx m).1 = .ok t) : t.Counted := by
  obtain ⟨work, same, traverses⟩ := Expr.resolve_traverses_counted limit e
  obtain ⟨_, _, _, succeeds⟩ := traverses.run [] m.children
  simp only [same, Resolution.settle, unsettled] at resolved
  obtain ⟨_, counted, _⟩ := succeeds t resolved
  exact counted

end Resolution

namespace Memo

variable {ctx : Context H} {e : Expr} {m : Memo H}

def CountedAt (_ : Expr) (m : Memo H) : Prop := ∀ t, m.outcome = some t → t.Counted

theorem CountedAt.lasting : Lasting (CountedAt (H := H)) := by
  intro e m m' counted same _ t remembered
  exact counted t (same ▸ remembered)

theorem CountedAt.resolve (limit : ctx.options.maxArguments ≤ 255) (all : Everywhere CountedAt e m) :
    Everywhere CountedAt e (e.resolve ctx m).2 := by
  refine Everywhere.resolve CountedAt.lasting ?_ all
  intro e m t unsettled _ resolved u remembered
  have outcome := (e.resolve_open ctx unsettled).1
  rw [resolved] at outcome
  obtain rfl : t = u := Option.some.inj (outcome.symm.trans remembered)
  exact Expr.resolve_counted limit unsettled resolved

theorem Reached.counted {allowed : Context H → Prop} (limit : ∀ ctx, allowed ctx → ctx.options.maxArguments ≤ 255)
    (reached : Reached allowed e m) : Everywhere CountedAt e m := by
  refine reached.everywhere CountedAt.lasting ?_ ?_
  · intro node t remembered
    cases remembered
  · intro ctx isAllowed node n all
    exact CountedAt.resolve (limit ctx isAllowed) all

end Memo

theorem Expr.ResolvesTo.children {e : Expr} {ts : List (Typed H)} {t : Typed H} (resolves : e.ResolvesTo ts t) :
    t.children = ts := by
  cases resolves <;> rfl

/-- All that the outcome of a node is built from is remembered in the node or below it. -/
theorem Memo.Coherent.nodes {e : Expr} {m : Memo H} {t : Typed H} (coherent : m.Coherent e)
    (cached : m.outcome = some t) :
    ∀ u ∈ t.nodes, ∃ path node, e.follow? path = some node ∧ (m.follow path).outcome = some u := by
  intro u isNode
  induction e using Expr.induction_below generalizing m t with
  | step e ih =>
    rw [Typed.nodes_eq, List.mem_append, List.mem_flatMap, List.mem_singleton] at isNode
    rcases isNode with ⟨v, isChild, inside⟩ | rfl
    · obtain ⟨root, rest⟩ := everywhere_iff.mp coherent
      obtain ⟨ts, resolves, fits⟩ := root t cached
      rw [resolves.children] at isChild
      obtain ⟨i, bound, isResult⟩ := List.mem_iff_getElem.mp isChild
      have bound' : i < e.children.length := by rwa [← resolves.length]
      have here : e.children[i]? = some e.children[i] := List.getElem?_eq_getElem bound'
      obtain ⟨w, isResult', outcome⟩ := fits i _ here
      rw [List.getElem?_eq_getElem bound, isResult] at isResult'
      cases isResult'
      obtain ⟨path, node, isNode, remembered⟩ :=
        ih e.children[i] (List.getElem_mem bound') (rest i _ here) outcome inside
      exact ⟨i :: path, node, Expr.follow?_cons.mpr ⟨_, here, isNode⟩, remembered⟩
    · exact ⟨[], e, rfl, cached⟩

/-- Generation fails for the number of arguments only where an expression has a call with as many. -/
theorem Typed.part_callOverflow {c : Catalog H} {t : Typed H} {T : Tables H} {count : Nat}
    (failed : Generation.part t (t.draft c) T = .error (.callOverflow count)) :
    255 < count ∧ ∃ u ∈ t.nodes, ∃ s args, u.passing? = some (s, args) ∧ s.arity = count := by
  rcases (t.draft_faults c).part T _ failed with wide | ⟨u, isNode, raises⟩
  · cases wide
  · cases raises with
    | @arguments _ s args isCall beyond => exact ⟨beyond, u, isNode, s, args, isCall, rfl⟩

/-- A node was resolved within limits that hosts compile with, after any calls within such limits. Then each call in
its outcome has at most 255 arguments, and the number that its instruction encodes fits one byte unless there are 255
of them and the array behind them is empty. Only such a call makes generation fail for the number of arguments, with
whatever context and tables, and the number is 256. -/
theorem Expr.emitCode_argumentCount {ctx : Context H} {e node : Expr} {path : List Nat} {calls : List (Call H)}
    {t : Typed H} {m : Memo H} (configured : ctx.options.Configured)
    (earlier : ∀ call ∈ calls, call.context.options.Configured) (isNode : e.follow? path = some node)
    (resolved : node.resolve ctx ((e.after calls).follow path) = (.ok t, m)) :
    (∀ u ∈ t.nodes, ∀ s args, u.passing? = some (s, args) → args.length ≤ 255 ∧
      ∀ op function, (∃ i, callInstr op function s.arity = .ok i) ↔
        ¬ (args.length = 255 ∧ s.varargsStart = some 255)) ∧
    ∀ (ctx' : Context H) (T : Tables H) (count : Nat),
      (node.emitCode ctx' m T).1 = .error (.compile (.internal (.callOverflow count))) →
      count = 256 ∧ ∃ u ∈ t.nodes, ∃ s args, u.passing? = some (s, args) ∧ args.length = 255 ∧
        s.varargsStart = some 255 := by
  have reached : (e.after calls).Reached (fun ctx => ctx.options.Configured) e := after_reached earlier
  have counted : Memo.Everywhere Memo.CountedAt node m := by
    have before := (reached.counted fun _ configured => configured.within).follow isNode
    have after := Memo.CountedAt.resolve configured.within before
    rwa [resolved] at after
  have coherent : m.Coherent node := by
    have before : ((e.after calls).follow path).Coherent node := reached.coherent.follow isNode
    have after : (node.resolve ctx ((e.after calls).follow path)).2.Coherent node := before.resolve
    rwa [resolved] at after
  have cached := resolve_remembers resolved
  have each : ∀ u ∈ t.nodes, u.Counted := by
    intro u isBelow
    obtain ⟨path', node', isNode', remembered⟩ := coherent.nodes cached u isBelow
    exact counted path' node' isNode' u remembered
  refine ⟨?_, ?_⟩
  · intro u isBelow s args isCall
    have counts := each u isBelow s args isCall
    exact ⟨counts.within, counts.callInstr_iff⟩
  · intro ctx' T count failed
    rw [emitCode_cached coherent cached T] at failed
    have generated : Generation.part t (t.draft ctx'.catalog) T = .error (.callOverflow count) := by
      cases generated : Generation.part t (t.draft ctx'.catalog) T with
      | ok result =>
        rw [generated] at failed
        cases failed
      | error fault =>
        rw [generated] at failed
        cases failed
        rfl
    obtain ⟨beyond, u, isBelow, s, args, isCall, rfl⟩ := Typed.part_callOverflow generated
    obtain ⟨arity, full⟩ := (each u isBelow s args isCall).arity_beyond beyond
    exact ⟨arity, u, isBelow, s, args, isCall, full⟩

/-- The number of arguments for which an expression does not compile, where that is the cause. -/
def Expr.overflow? (ctx : Context H) (e : Expr) : Option Nat :=
  match e.compile ctx with
  | .error (.internal (.callOverflow count)) => some count
  | _ => none

theorem Expr.compile_overflow {ctx : Context H} {e : Expr} {count : Nat} (found : e.overflow? ctx = some count) :
    e.compile ctx = .error (.internal (.callOverflow count)) := by
  unfold overflow? at found
  split at found
  next compiled =>
    cases found
    exact compiled
  · cases found

theorem Expr.emitCode_of_compile {ctx : Context H} {e : Expr} {t : Typed H} {m : Memo H} {fault : InternalFault}
    (compiled : e.compile ctx = .error (.internal fault)) (resolved : e.resolve ctx .blank = (.ok t, m)) :
    (e.emitCode ctx m .empty).1 = .error (.compile (.internal fault)) := by
  have coherent : m.Coherent e := by
    have after : (e.resolve ctx .blank).2.Coherent e := Memo.Coherent.resolve (e.after_coherent [])
    rwa [resolved] at after
  rw [emitCode_cached coherent (resolve_remembers resolved)]
  simp only [compile, compileWith, resolved] at compiled
  change Except.mapError _ (t.generate ctx.catalog) = _
  cases generated : t.generate ctx.catalog with
  | error fault' =>
    rw [generated] at compiled
    cases compiled
    rfl
  | ok result =>
    rw [generated] at compiled
    cases compiled

/-- A method with 255 numbers and an array behind them is in scope. -/
def tallyContext : Context Empty where
  catalog := ⟨[]⟩
  scope := (({} : Declarations Empty).method <|
    .declareStatic (.ofName "Ledger") "tally" (List.replicate 255 .int ++ [.array .int]) .int
      fun _ _ => .ok (.int 0)).scope

/-- The expression `tally(1, …, 1)` with 255 arguments. -/
def tallyExpr : Expr := .contextCall default "tally" (List.replicate 255 (.literal default (.int 1)))

theorem tallyExpr_emitCode_argumentCount :
    ∃ t m, tallyExpr.resolve tallyContext (tallyExpr.after []) = (.ok t, m) ∧
      (tallyExpr.emitCode tallyContext m .empty).1 = .error (.compile (.internal (.callOverflow 256))) ∧
      ∃ u ∈ t.nodes, ∃ s args, u.passing? = some (s, args) ∧ args.length = 255 ∧ s.varargsStart = some 255 ∧
        ¬ ∃ i, callInstr .callStatic 0 s.arity = .ok i := by
  obtain ⟨t, m, resolved⟩ := exists_ok (x := tallyExpr.resolve tallyContext (tallyExpr.after [])) (by decide +kernel)
  have failed : (tallyExpr.emitCode tallyContext m .empty).1 = .error (.compile (.internal (.callOverflow 256))) :=
    Expr.emitCode_of_compile (Expr.compile_overflow (by decide +kernel)) resolved
  have configured : tallyContext.options.Configured := .default
  have noCalls : ∀ call ∈ ([] : List (Call Empty)), call.context.options.Configured := by simp
  obtain ⟨fits, fails⟩ := Expr.emitCode_argumentCount configured noCalls
    (rfl : tallyExpr.follow? [] = some tallyExpr) resolved
  obtain ⟨_, u, isBelow, s, args, isCall, full⟩ := fails tallyContext .empty 256 failed
  have encodes := (fits u isBelow s args isCall).2 .callStatic 0
  exact ⟨t, m, resolved, failed, u, isBelow, s, args, isCall, full.1, full.2, fun made => encodes.mp made full⟩

/-- The call has no more arguments than the default limits allow, but does not compile. -/
theorem tallyExpr_overflow :
    tallyContext.options.Configured ∧
      (tallyExpr.resolve tallyContext .blank).1.toOption.isSome = true ∧
      tallyExpr.compile tallyContext = .error (.internal (.callOverflow 256)) :=
  ⟨.default, by decide +kernel, Expr.compile_overflow (by decide +kernel)⟩

end TypedExpr
