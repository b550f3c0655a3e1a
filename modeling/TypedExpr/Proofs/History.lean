import TypedExpr.Proofs.Mirroring
/-!
# What earlier calls leave behind

The nodes of expressions are resolved, emitted and compiled in any order, with any contexts. Whatever a call asks of
a node, it remembers what resolution remembers (`Memo.Reached`). So an outcome that is remembered lasts, all nodes
below it remember theirs, and a resolved expression compiles to the same program whatever context it is given later
(`Forest.outcomes_last`). With one context, compilation yields what it yields for an expression on which no calls
were made (`Expr.emitProgram_after`).
-/

namespace TypedExpr

variable {H : Type}

namespace Memo

theorem follow_update (work : Memo H → Memo H) (path : List Nat) (m : Memo H) :
    (m.update work path).follow path = work (m.follow path) := by
  induction path generalizing m with
  | nil => rfl
  | cons i path ih =>
    rw [follow, child_update, if_pos rfl]
    exact ih (m.child i)

theorem update_congr {work work' : Memo H → Memo H} {path : List Nat} {m : Memo H}
    (same : work (m.follow path) = work' (m.follow path)) : m.update work path = m.update work' path := by
  induction path generalizing m with
  | nil => exact same
  | cons i path ih => rw [update, update, ih same]

theorem Everywhere.follow {holds : Expr → Memo H → Prop} {e node : Expr} {m : Memo H} {path : List Nat}
    (all : Everywhere holds e m) (isNode : e.follow? path = some node) : Everywhere holds node (m.follow path) := by
  induction path generalizing e m with
  | nil =>
    cases isNode
    exact all
  | cons i path ih =>
    obtain ⟨below, here, found⟩ := Expr.follow?_cons.mp isNode
    exact ih ((everywhere_iff.mp all).2 i below here) found

theorem follow_settled {c : Catalog H} {m : Memo H} (settled : m.Settled c) (path : List Nat) :
    (m.follow path).Settled c := by
  induction path generalizing m with
  | nil => exact settled
  | cons i path ih =>
    apply ih
    obtain ⟨_, below⟩ := settled
    rw [child, List.getD_eq_getElem?_getD]
    cases found : (Memo.children _)[i]? with
    | none => exact blank_settled c
    | some m => exact below m (List.mem_of_getElem? found)

theorem mem_place {m n : Memo H} {i : Nat} {ms : List (Memo H)} (member : n ∈ m.place i ms) :
    n = m ∨ n = .blank ∨ n ∈ ms := by
  induction i generalizing ms with
  | zero =>
    rcases List.mem_cons.mp member with rfl | later
    · exact .inl rfl
    · exact .inr (.inr (List.mem_of_mem_tail later))
  | succ i ih =>
    rcases List.mem_cons.mp member with rfl | later
    · cases ms with
      | nil => exact .inr (.inl rfl)
      | cons first rest => exact .inr (.inr (List.mem_cons_self ..))
    · rcases ih later with here | isBlank | other
      · exact .inl here
      · exact .inr (.inl isBlank)
      · exact .inr (.inr (List.mem_of_mem_tail other))

theorem Settled.update {c : Catalog H} {work : Memo H → Memo H} {path : List Nat} {m : Memo H}
    (settled : m.Settled c) (works : ∀ n : Memo H, n.Settled c → (work n).Settled c) :
    (m.update work path).Settled c := by
  induction path generalizing m with
  | nil => exact works m settled
  | cons i path ih =>
    have inner := ih (follow_settled settled [i])
    obtain ⟨here, below⟩ := settled
    refine .node here ?_
    intro n member
    rcases mem_place member with rfl | rfl | other
    · exact inner
    · exact blank_settled c
    · exact below n other

/-- The memories of an expression after its nodes were resolved, each with an allowed context. -/
inductive Reached (allowed : Context H → Prop) (e : Expr) : Memo H → Prop where
  | blank : Reached allowed e .blank
  | resolve {m : Memo H} {path : List Nat} {node : Expr} {ctx : Context H} (before : Reached allowed e m)
      (isNode : e.follow? path = some node) (isAllowed : allowed ctx) :
      Reached allowed e (m.update (fun n => (node.resolve ctx n).2) path)

namespace Reached

variable {allowed : Context H → Prop} {e : Expr} {m : Memo H}

/-- A lasting property holds of all nodes if it holds of blank ones and resolution keeps it. -/
theorem everywhere {holds : Expr → Memo H → Prop} (lasting : Lasting holds) (initial : ∀ node, holds node .blank)
    (step : ∀ ctx, allowed ctx → ∀ node n, Everywhere holds node n → Everywhere holds node (node.resolve ctx n).2)
    (reached : Reached allowed e m) : Everywhere holds e m := by
  induction reached with
  | blank =>
    intro path node _
    rw [follow_blank]
    exact initial node
  | @resolve m path node ctx _ isNode isAllowed ih =>
    have keeps := node.resolve_extends ctx (m.follow path) [] node rfl
    exact ih.update lasting isNode keeps (step ctx isAllowed node (m.follow path))

theorem coherent (reached : Reached allowed e m) : m.Coherent e := by
  refine reached.everywhere CoherentAt.lasting ?_ ?_
  · intro node t remembered
    cases remembered
  · intro ctx _ node n coherent
    exact Coherent.resolve coherent

theorem agrees {ctx : Context H} (reached : Reached (fun other => other = ctx) e m) : m.Agrees ctx e := by
  refine reached.everywhere AgreesAt.lasting ?_ ?_
  · intro node t remembered
    cases remembered
  · rintro other rfl node n agrees
    exact Agrees.resolve agrees

theorem settled {c : Catalog H} (reached : Reached (fun ctx => ctx.catalog = c) e m) : m.Settled c := by
  induction reached with
  | blank => exact blank_settled c
  | @resolve m path node ctx _ _ isAllowed ih =>
    subst isAllowed
    exact ih.update fun n settled => (node.resolve_settles ctx n settled).2

end Reached
end Memo

namespace Call

variable {e node : Expr} {m : Memo H} (call : Call H)

/-- A call changes what is remembered only by resolving its node. -/
theorem perform_node (coherent : m.Coherent e) (isNode : e.follow? call.path = some node) :
    call.perform e m = m.update (fun n => (node.resolve call.context n).2) call.path := by
  simp only [perform, isNode]
  apply Memo.update_congr
  exact Expr.perform_eq (coherent.follow isNode) call.request

theorem perform_extends (coherent : m.Coherent e) : Memo.Extends e m (call.perform e m) := by
  cases found : e.follow? call.path with
  | none =>
    simp only [perform, found]
    exact Memo.Extends.refl e m
  | some node =>
    rw [call.perform_node coherent found]
    exact Memo.Extends.update found (node.resolve_extends call.context _)

theorem perform_reached {allowed : Context H → Prop} (reached : m.Reached allowed e)
    (isAllowed : allowed call.context) : (call.perform e m).Reached allowed e := by
  cases found : e.follow? call.path with
  | none =>
    simp only [perform, found]
    exact reached
  | some node =>
    rw [call.perform_node reached.coherent found]
    exact .resolve reached found isAllowed

end Call

namespace Expr

variable {e : Expr}

theorem foldl_reached {allowed : Context H → Prop} {m : Memo H} (reached : m.Reached allowed e) {calls : List (Call H)}
    (each : ∀ call ∈ calls, allowed call.context) :
    (calls.foldl (fun m call => call.perform e m) m).Reached allowed e := by
  induction calls generalizing m with
  | nil => exact reached
  | cons call calls ih =>
    obtain ⟨first, rest⟩ := List.forall_mem_cons.mp each
    exact ih (call.perform_reached reached first) rest

theorem after_reached {allowed : Context H → Prop} {calls : List (Call H)}
    (each : ∀ call ∈ calls, allowed call.context) : (e.after calls).Reached allowed e :=
  foldl_reached .blank each

theorem after_coherent (e : Expr) (calls : List (Call H)) : (e.after calls).Coherent e := by
  have reached : (e.after calls).Reached (fun _ => True) e := after_reached fun _ _ => trivial
  exact reached.coherent

theorem foldl_extends {m : Memo H} (reached : m.Reached (fun _ => True) e) (calls : List (Call H)) :
    Memo.Extends e m (calls.foldl (fun m call => call.perform e m) m) := by
  induction calls generalizing m with
  | nil => exact Memo.Extends.refl e m
  | cons call calls ih =>
    exact (call.perform_extends reached.coherent).trans (ih (call.perform_reached reached trivial))

/-- What the nodes of an expression remember after calls they remember after more of them. -/
theorem after_extends (e : Expr) (calls later : List (Call H)) :
    Memo.Extends e (e.after calls) (e.after (calls ++ later)) := by
  rw [Expr.after, Expr.after, List.foldl_append]
  exact foldl_extends (after_reached fun _ _ => trivial) later

/-- A node that was resolved remembers its outcome after all later calls. -/
theorem after_resolve (e : Expr) {calls : List (Call H)} {path : List Nat} {node : Expr} {ctx : Context H} {t : Typed H}
    (isNode : e.follow? path = some node) (resolved : (node.resolve ctx ((e.after calls).follow path)).1 = .ok t)
    (later : List (Call H)) :
    ((e.after (calls ++ ⟨path, .resolve, ctx⟩ :: later)).follow path).outcome = some t := by
  have performed : (e.after (calls ++ [⟨path, .resolve, ctx⟩])).follow path =
      (node.resolve ctx ((e.after calls).follow path)).2 := by
    have last : e.after (calls ++ [⟨path, .resolve, ctx⟩]) = Call.perform ⟨path, .resolve, ctx⟩ e (e.after calls) := by
      simp [Expr.after]
    rw [last, Call.perform_node _ (e.after_coherent calls) isNode, Memo.follow_update]
  have remembered : ((e.after (calls ++ [⟨path, .resolve, ctx⟩])).follow path).outcome = some t := by
    rw [performed]
    exact resolve_remembers (Prod.ext resolved rfl)
  have lasts := e.after_extends (calls ++ [⟨path, .resolve, ctx⟩]) later path node isNode t remembered
  rwa [List.append_assoc] at lasts

/-- What compilation yields depends on the context and the memories through the outcome and the catalog only. -/
theorem compileWith_congr {ctx ctx' : Context H} {m m' : Memo H} (catalog : ctx'.catalog = ctx.catalog)
    (same : (e.resolve ctx' m').1 = (e.resolve ctx m).1) : (e.compileWith ctx' m').1 = (e.compileWith ctx m).1 := by
  unfold compileWith
  rcases first : e.resolve ctx m with ⟨result, after⟩
  rcases second : e.resolve ctx' m' with ⟨result', after'⟩
  obtain rfl : result' = result := by rwa [first, second] at same
  cases result' with
  | error err => rfl
  | ok t =>
    simp only [catalog]
    cases t.generate ctx.catalog <;> rfl

theorem emitProgram_congr {ctx ctx' : Context H} {m m' : Memo H} (coherent : m.Coherent e)
    (coherent' : m'.Coherent e) (catalog : ctx'.catalog = ctx.catalog)
    (same : (e.resolve ctx' m').1 = (e.resolve ctx m).1) : (e.emitProgram ctx' m').1 = (e.emitProgram ctx m).1 := by
  rw [emitProgram_eq coherent, emitProgram_eq coherent', compileWith_congr catalog same]

/-- Compilation leaves the memories as they are where the outcome is remembered. -/
theorem emitProgram_cached {ctx : Context H} {m : Memo H} {t : Typed H} (coherent : m.Coherent e)
    (cached : m.outcome = some t) : (e.emitProgram ctx m).2 = m := by
  have remembered : Request.perform e ctx .compile m = _ := perform_eq coherent .compile
  rw [resolve_cached cached] at remembered
  exact remembered

/-- Earlier calls with the context do not show in what an expression compiles to: the program or the error is that of
an expression on which no calls were made. -/
theorem emitProgram_after (ctx : Context H) (e : Expr) (calls : List (Call H))
    (same : ∀ call ∈ calls, call.context = ctx) :
    (e.emitProgram ctx (e.after calls)).1 = (e.emitProgram ctx .blank).1 ∧
      (e.emitProgram ctx .blank).1 = (e.compile ctx).mapError .compile := by
  have reached : (e.after calls).Reached (fun other => other = ctx) e := after_reached same
  have fresh : (Memo.blank : Memo H).Coherent e := after_coherent e []
  refine ⟨?_, ?_⟩
  · exact emitProgram_congr fresh reached.coherent rfl reached.agrees.resolve_eq
  · rw [emitProgram_eq fresh]
    rfl

end Expr

/-- A context with one name. -/
def priceContext : Context Empty where
  catalog := ⟨[]⟩
  scope := (({} : Declarations Empty).parameter "price" .int).scope

/-- The expression `price - 'x'`, which has no type. -/
def discountExpr : Expr :=
  .arithmetic default .sub (.name default "price") (.literal default (.string "x"))

/-- Calls that leave a part of the expression resolved. -/
def discountCalls : List (Call Empty) := [⟨[1], .compile, priceContext⟩, ⟨[], .resolve, priceContext⟩]

theorem discountExpr_emitProgram_after : ∃ err, discountExpr.compile priceContext = .error err ∧
    (discountExpr.emitProgram priceContext (discountExpr.after discountCalls)).1 = .error (.compile err) ∧
    ((discountExpr.after discountCalls).follow [0]).outcome.isSome = true := by
  have same : ∀ call ∈ discountCalls, call.context = priceContext := by simp [discountCalls]
  obtain ⟨again, fresh⟩ := Expr.emitProgram_after priceContext discountExpr discountCalls same
  have fails : (discountExpr.compile priceContext).toOption.isSome = false := by decide +kernel
  cases compiled : discountExpr.compile priceContext with
  | ok p =>
    rw [compiled] at fails
    cases fails
  | error err =>
    refine ⟨err, rfl, ?_, by decide +kernel⟩
    rw [again, fresh, compiled]
    rfl

namespace Forest

/-- The calls on the expression with a number. -/
def callsOn (tree : Nat) (calls : List (Nat × Call H)) : List (Call H) :=
  calls.filterMap fun call => if call.1 = tree then some call.2 else none

theorem foldl_perform (f : Forest H) (calls : List (Nat × Call H)) (tree : Nat) :
    (calls.foldl perform f)[tree]? = f[tree]?.map fun found =>
      (found.1, (callsOn tree calls).foldl (fun m call => call.perform found.1 m) found.2) := by
  induction calls generalizing f with
  | nil => simp [callsOn]
  | cons call calls ih =>
    rw [List.foldl_cons, ih, perform, List.getElem?_modify]
    by_cases here : call.1 = tree
    · simp [callsOn, here, Function.comp_def]
    · simp [callsOn, here]

/-- The calls on one expression do not touch the others. -/
theorem after_getElem? (trees : List Expr) (calls : List (Nat × Call H)) (tree : Nat) :
    (after trees calls)[tree]? = trees[tree]?.map fun e => (e, e.after (callsOn tree calls)) := by
  rw [after, foldl_perform, List.getElem?_map, Option.map_map]
  rfl

theorem node?_after {trees : List Expr} {calls : List (Nat × Call H)} {tree : Nat} {path : List Nat} {node : Expr}
    {m : Memo H} : (after trees calls).node? tree path = some (node, m) ↔
      ∃ e, trees[tree]? = some e ∧ e.follow? path = some node ∧ (e.after (callsOn tree calls)).follow path = m := by
  rw [node?, after_getElem?]
  constructor
  · intro found
    obtain ⟨⟨e, memory⟩, isTree, found⟩ := Option.bind_eq_some_iff.mp found
    obtain ⟨e', here, same⟩ := Option.map_eq_some_iff.mp isTree
    cases same
    obtain ⟨node', isNode, same⟩ := Option.map_eq_some_iff.mp found
    cases same
    exact ⟨e, here, isNode, rfl⟩
  · rintro ⟨e, here, isNode, rfl⟩
    simp [here, isNode]

theorem callsOn_append (tree : Nat) (calls later : List (Nat × Call H)) :
    callsOn tree (calls ++ later) = callsOn tree calls ++ callsOn tree later := List.filterMap_append ..

/-- In expressions on the nodes of which calls are made, with any contexts: a node that remembers its outcome
remembers it for good, and so do all nodes below it. Once a node was resolved with one context, it compiles to the same
program or fails in the same way, and remembers the same, whatever calls came between and whatever the names, the type
of the receiver and the limits of the context it is compiled with. -/
theorem outcomes_last (trees : List Expr) (calls : List (Nat × Call H)) {tree : Nat} {path : List Nat} {node : Expr}
    {m : Memo H} (found : (after trees calls).node? tree path = some (node, m)) :
    (∀ t later, m.outcome = some t →
      ∃ m', (after trees (calls ++ later)).node? tree path = some (node, m') ∧ m'.outcome = some t) ∧
    (∀ t below sub, m.outcome = some t → node.follow? below = some sub → ∃ u, (m.follow below).outcome = some u) ∧
    ∀ (ctx ctx' : Context H) t later, (node.resolve ctx m).1 = .ok t → ctx'.catalog = ctx.catalog →
      ∃ m', (after trees (calls ++ (tree, ⟨path, .resolve, ctx⟩) :: later)).node? tree path = some (node, m') ∧
        node.emitProgram ctx' m' = ((node.emitProgram ctx m).1, m') := by
  obtain ⟨e, here, isNode, rfl⟩ := node?_after.mp found
  have coherent : ((e.after (callsOn tree calls)).follow path).Coherent node :=
    (e.after_coherent (callsOn tree calls)).follow isNode
  refine ⟨?_, ?_, ?_⟩
  · intro t later cached
    refine ⟨_, node?_after.mpr ⟨e, here, isNode, rfl⟩, ?_⟩
    rw [callsOn_append]
    exact e.after_extends _ (callsOn tree later) path node isNode t cached
  · intro t below sub cached isSub
    exact coherent.closed cached isSub
  · intro ctx ctx' t later resolved catalog
    refine ⟨_, node?_after.mpr ⟨e, here, isNode, rfl⟩, ?_⟩
    have split : callsOn tree (calls ++ (tree, ⟨path, .resolve, ctx⟩) :: later) =
        callsOn tree calls ++ ⟨path, .resolve, ctx⟩ :: callsOn tree later := by simp [callsOn]
    rw [split]
    have cached := e.after_resolve isNode resolved (callsOn tree later)
    have coherent' : Memo.Coherent node _ := (e.after_coherent
      (callsOn tree calls ++ ⟨path, .resolve, ctx⟩ :: callsOn tree later)).follow isNode
    refine Prod.ext ?_ (Expr.emitProgram_cached coherent' cached)
    apply Expr.emitProgram_congr coherent coherent' catalog
    rw [Expr.resolve_cached cached, resolved]

end Forest

/-- A context without names, in which no call takes arguments. -/
def bareContext : Context Empty where
  catalog := ⟨[]⟩
  scope := ({} : Declarations Empty).scope
  options := ({} : Options).withMaxArguments 0

/-- The expression `price > 9 ? 'high' : price`. -/
def priceExpr : Expr :=
  .ternary default (.relational default .gt (.name default "price") (.literal default (.int 9)))
    (.literal default (.string "high")) (.name default "price")

/-- The expression does not compile in the bare context, but does so once it was resolved in another. -/
theorem priceExpr_outcomes_last :
    (priceExpr.compile bareContext).toOption.isSome = false ∧
    ∃ p m, (priceExpr.emitProgram priceContext (priceExpr.after [⟨[], .compile, bareContext⟩])).1 = .ok p ∧
      (Forest.after [priceExpr] [(0, ⟨[], .compile, bareContext⟩), (0, ⟨[], .resolve, priceContext⟩),
        (0, ⟨[2], .generate .empty, bareContext⟩)]).node? 0 [] = some (priceExpr, m) ∧
      priceExpr.emitProgram bareContext m = (.ok p, m) := by
  refine ⟨by decide +kernel, ?_⟩
  have found : (Forest.after [priceExpr] [(0, ⟨[], .compile, bareContext⟩)]).node? 0 [] =
      some (priceExpr, priceExpr.after [⟨[], .compile, bareContext⟩]) :=
    Forest.node?_after.mpr ⟨priceExpr, rfl, rfl, rfl⟩
  have resolves : (priceExpr.resolve priceContext
      (priceExpr.after [⟨[], .compile, bareContext⟩])).1.toOption.isSome = true := by decide +kernel
  obtain ⟨t, resolved⟩ := Option.isSome_iff_exists.mp resolves
  have compiles : (priceExpr.emitProgram priceContext
      (priceExpr.after [⟨[], .compile, bareContext⟩])).1.toOption.isSome = true := by decide +kernel
  obtain ⟨p, compiled⟩ := Option.isSome_iff_exists.mp compiles
  obtain ⟨m, isNode, again⟩ := (Forest.outcomes_last [priceExpr] [(0, ⟨[], .compile, bareContext⟩)] found).2.2
    priceContext bareContext t [(0, ⟨[2], .generate .empty, bareContext⟩)] (toOption_some resolved) rfl
  rw [toOption_some compiled] at again
  exact ⟨p, m, toOption_some compiled, isNode, again⟩

end TypedExpr
