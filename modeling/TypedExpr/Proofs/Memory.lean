import TypedExpr.Proofs.Traversal
/-!
# What the nodes of an expression remember

However the nodes of an expression were resolved, each with any context, the memories fit together
(`Memo.Coherent`): the outcome of a node is built from the outcomes of the nodes below it. What a node remembers
stays, and with one context it is what resolution from scratch yields.
-/

namespace TypedExpr

variable {H : Type}

namespace Memo

/-- An outcome that was remembered is remembered still. -/
def Keeps (m m' : Memo H) : Prop := ∀ t, m.outcome = some t → m'.outcome = some t

theorem Keeps.refl (m : Memo H) : m.Keeps m := fun _ remembered => remembered

@[simp] theorem child_blank (i : Nat) : (blank : Memo H).child i = .blank := rfl

@[simp] theorem follow_blank (path : List Nat) : (blank : Memo H).follow path = .blank := by
  induction path with
  | nil => rfl
  | cons i path ih => exact ih

theorem getD_place (m : Memo H) (i j : Nat) (ms : List (Memo H)) :
    (m.place i ms).getD j .blank = if j = i then m else ms.getD j .blank := by
  induction i generalizing j ms with
  | zero => cases j <;> cases ms <;> rfl
  | succ i ih =>
    cases j with
    | zero => cases ms <;> rfl
    | succ j =>
      have tail : ms.tail.getD j .blank = ms.getD (j + 1) .blank := by cases ms <;> rfl
      simp only [place, List.getD_cons_succ, ih, tail, Nat.add_right_cancel_iff]

theorem child_update (work : Memo H → Memo H) (m : Memo H) (i j : Nat) (path : List Nat) :
    (m.update work (i :: path)).child j = if j = i then (m.child i).update work path else m.child j :=
  getD_place _ i j m.children

theorem update_keeps {work : Memo H → Memo H} {m : Memo H} {path : List Nat}
    (keeps : (m.follow path).Keeps (work (m.follow path))) : m.Keeps (m.update work path) := by
  cases path with
  | nil => exact keeps
  | cons i path => exact Keeps.refl m

end Memo

namespace Expr

theorem follow?_cons {e node : Expr} {i : Nat} {path : List Nat} :
    e.follow? (i :: path) = some node ↔ ∃ below, e.children[i]? = some below ∧ below.follow? path = some node :=
  Option.bind_eq_some_iff

/-- A property of all nodes of an expression with their paths. -/
def AllNodes (holds : List Nat → Expr → Prop) (e : Expr) : Prop :=
  ∀ path node, e.follow? path = some node → holds path node

theorem allNodes_iff {holds : List Nat → Expr → Prop} {e : Expr} :
    e.AllNodes holds ↔ holds [] e ∧
      ∀ (i : Nat) (below : Expr), e.children[i]? = some below → below.AllNodes fun path => holds (i :: path) := by
  constructor
  · intro all
    refine ⟨all [] e rfl, ?_⟩
    intro i below here path node found
    exact all (i :: path) node (follow?_cons.mpr ⟨below, here, found⟩)
  · rintro ⟨root, rest⟩ path node found
    cases path with
    | nil =>
      cases found
      exact root
    | cons i path =>
      obtain ⟨below, here, found⟩ := follow?_cons.mp found
      exact rest i below here path node found

end Expr

namespace Memo

/-- A property of all nodes of an expression with what they remember. -/
def Everywhere (holds : Expr → Memo H → Prop) (e : Expr) (m : Memo H) : Prop :=
  e.AllNodes fun path node => holds node (m.follow path)

theorem everywhere_iff {holds : Expr → Memo H → Prop} {e : Expr} {m : Memo H} :
    Everywhere holds e m ↔
      holds e m ∧ ∀ i below, e.children[i]? = some below → Everywhere holds below (m.child i) :=
  Expr.allNodes_iff

/-- What the nodes of an expression remembered they remember still. -/
def Extends (e : Expr) (m m' : Memo H) : Prop := e.AllNodes fun path _ => (m.follow path).Keeps (m'.follow path)

theorem extends_iff {e : Expr} {m m' : Memo H} :
    Extends e m m' ↔
      m.Keeps m' ∧ ∀ i below, e.children[i]? = some below → Extends below (m.child i) (m'.child i) :=
  Expr.allNodes_iff

theorem Extends.refl (e : Expr) (m : Memo H) : Extends e m m := fun _ _ _ => Keeps.refl _

theorem Extends.trans {e : Expr} {m m' m'' : Memo H} (first : Extends e m m') (second : Extends e m' m'') :
    Extends e m m'' := fun path node found t remembered =>
  second path node found t (first path node found t remembered)

/-- Work on one node leaves all others as they were. -/
theorem Extends.update {work : Memo H → Memo H} {e node : Expr} {m : Memo H} {path : List Nat}
    (isNode : e.follow? path = some node) (works : Extends node (m.follow path) (work (m.follow path))) :
    Extends e m (m.update work path) := by
  induction path generalizing e m with
  | nil =>
    cases isNode
    exact works
  | cons i path ih =>
    obtain ⟨below, here, found⟩ := Expr.follow?_cons.mp isNode
    rw [extends_iff]
    refine ⟨Keeps.refl m, ?_⟩
    intro j other there
    rw [child_update]
    split
    next same =>
      subst same
      obtain rfl : below = other := Option.some.inj (here.symm.trans there)
      exact ih found works
    · exact Extends.refl other _

/-- The property is kept while outcomes below are added. -/
def Lasting (holds : Expr → Memo H → Prop) : Prop :=
  ∀ e m m', holds e m → m'.outcome = m.outcome →
    (∀ i below, e.children[i]? = some below → (m.child i).Keeps (m'.child i)) → holds e m'

theorem Everywhere.update {holds : Expr → Memo H → Prop} {work : Memo H → Memo H} {e node : Expr} {m : Memo H}
    {path : List Nat} (all : Everywhere holds e m) (lasting : Lasting holds) (isNode : e.follow? path = some node)
    (keeps : (m.follow path).Keeps (work (m.follow path)))
    (works : Everywhere holds node (m.follow path) → Everywhere holds node (work (m.follow path))) :
    Everywhere holds e (m.update work path) := by
  induction path generalizing e m with
  | nil =>
    cases isNode
    exact works all
  | cons i path ih =>
    obtain ⟨below, here, found⟩ := Expr.follow?_cons.mp isNode
    obtain ⟨root, rest⟩ := everywhere_iff.mp all
    refine everywhere_iff.mpr ⟨lasting e m _ root rfl ?_, ?_⟩
    · intro j other there
      rw [child_update]
      split
      next same =>
        subst same
        exact update_keeps keeps
      · exact Keeps.refl _
    · intro j other there
      rw [child_update]
      split
      next same =>
        subst same
        obtain rfl : below = other := Option.some.inj (here.symm.trans there)
        exact ih (rest _ _ here) found keeps works
      · exact rest j other there

end Memo

namespace Expr

variable {ctx : Context H}

/-- A node that was resolved remembers it. -/
theorem resolve_remembers {e : Expr} {m m' : Memo H} {t : Typed H} (h : e.resolve ctx m = (.ok t, m')) :
    m'.outcome = some t := by
  cases cached : m.outcome with
  | some u =>
    rw [resolve_cached cached] at h
    cases h
    exact cached
  | none =>
    have remembered := (e.resolve_open ctx cached).1
    rw [h] at remembered
    exact remembered

theorem resolve_extends (ctx : Context H) (e : Expr) (m : Memo H) : Memo.Extends e m (e.resolve ctx m).2 := by
  induction e using Expr.induction_below generalizing m with
  | step e ih =>
    cases cached : m.outcome with
    | some t =>
      rw [resolve_cached cached]
      exact Memo.Extends.refl e m
    | none =>
      refine Memo.extends_iff.mpr ⟨by simp [Memo.Keeps, cached], ?_⟩
      intro i below here
      rcases (e.resolve_open ctx cached).2.1 i below here with resolved | left
      · rw [Memo.child, Memo.child, resolved]
        exact ih below (List.mem_of_getElem? here) _
      · rw [Memo.child, Memo.child, left]
        exact Memo.Extends.refl below _

end Expr

namespace Memo

variable {ctx : Context H} {e : Expr} {m : Memo H}

/-- A lasting property holds after a resolution if it holds of each node that was resolved. -/
theorem Everywhere.resolve {holds : Expr → Memo H → Prop} (lasting : Lasting holds)
    (settled : ∀ e m t, m.outcome = none → Everywhere holds e m → (e.resolve ctx m).1 = .ok t →
      holds e (e.resolve ctx m).2) (all : Everywhere holds e m) : Everywhere holds e (e.resolve ctx m).2 := by
  induction e using Expr.induction_below generalizing m with
  | step e ih =>
    cases cached : m.outcome with
    | some t =>
      rw [Expr.resolve_cached cached]
      exact all
    | none =>
      obtain ⟨outcome, touched, _⟩ := e.resolve_open ctx cached
      obtain ⟨root, rest⟩ := everywhere_iff.mp all
      refine everywhere_iff.mpr ⟨?_, ?_⟩
      · cases result : (e.resolve ctx m).1 with
        | ok t => exact settled e m t cached all result
        | error err =>
          rw [result] at outcome
          refine lasting e m _ root (outcome.trans cached.symm) ?_
          intro i below here
          exact e.resolve_extends ctx m [i] below (Expr.follow?_cons.mpr ⟨below, here, rfl⟩)
      · intro i below here
        rcases touched i below here with resolved | left
        · rw [child, resolved]
          exact ih below (List.mem_of_getElem? here) (rest i below here)
        · rw [child, left]
          exact rest i below here

/-- The outcome of a node is built from those of the nodes below it. -/
def CoherentAt (e : Expr) (m : Memo H) : Prop := ∀ t, m.outcome = some t → ∃ ts, e.ResolvesTo ts t ∧
  ∀ (i : Nat) (below : Expr), e.children[i]? = some below → ∃ u, ts[i]? = some u ∧ (m.child i).outcome = some u

def Coherent : Expr → Memo H → Prop := Everywhere CoherentAt

/-- A node remembers what its resolution from scratch yields. -/
def AgreesAt (ctx : Context H) (e : Expr) (m : Memo H) : Prop := ∀ t, m.outcome = some t →
  (e.resolve ctx .blank).1 = .ok t

def Agrees (ctx : Context H) : Expr → Memo H → Prop := Everywhere (AgreesAt ctx)

theorem CoherentAt.lasting : Lasting (CoherentAt (H := H)) := by
  intro e m m' holds same keeps t remembered
  obtain ⟨ts, resolves, fits⟩ := holds t (same ▸ remembered)
  refine ⟨ts, resolves, ?_⟩
  intro i below here
  obtain ⟨u, isResult, outcome⟩ := fits i below here
  exact ⟨u, isResult, keeps i below here u outcome⟩

theorem AgreesAt.lasting : Lasting (AgreesAt ctx) := by
  intro e m m' holds same _ t remembered
  exact holds t (same ▸ remembered)

theorem Coherent.resolve (coherent : Coherent e m) : Coherent e (e.resolve ctx m).2 := by
  refine Everywhere.resolve CoherentAt.lasting ?_ coherent
  intro e m t unsettled _ result u remembered
  obtain ⟨outcome, _, succeeds⟩ := e.resolve_open ctx unsettled
  rw [result] at outcome
  obtain rfl : t = u := Option.some.inj (outcome.symm.trans remembered)
  obtain ⟨ts, resolves, visited⟩ := succeeds t result
  refine ⟨ts, resolves, ?_⟩
  intro i below here
  obtain ⟨v, isResult, resolved⟩ := visited i below here
  exact ⟨v, isResult, Expr.resolve_remembers resolved⟩

theorem Agrees.resolve_eq (agrees : Agrees ctx e m) : (e.resolve ctx m).1 = (e.resolve ctx .blank).1 := by
  induction e using Expr.induction_below generalizing m with
  | step e ih =>
    obtain ⟨root, rest⟩ := everywhere_iff.mp agrees
    cases cached : m.outcome with
    | some t => rw [Expr.resolve_cached cached, root t cached]
    | none =>
      apply Expr.resolve_agree cached rfl
      intro i below here
      rw [child_blank]
      exact ih below (List.mem_of_getElem? here) (rest i below here)

theorem Agrees.resolve (agrees : Agrees ctx e m) : Agrees ctx e (e.resolve ctx m).2 := by
  refine Everywhere.resolve AgreesAt.lasting ?_ agrees
  intro e m t unsettled agrees result u remembered
  have outcome := (e.resolve_open ctx unsettled).1
  rw [result] at outcome
  obtain rfl : t = u := Option.some.inj (outcome.symm.trans remembered)
  rw [← Agrees.resolve_eq agrees]
  exact result

/-- Below a node that remembers its outcome all nodes remember theirs. -/
theorem Coherent.closed {t : Typed H} (coherent : Coherent e m) (cached : m.outcome = some t) {path : List Nat}
    {node : Expr} (isNode : e.follow? path = some node) : ∃ u, (m.follow path).outcome = some u := by
  induction path generalizing e m t with
  | nil => exact ⟨t, cached⟩
  | cons i path ih =>
    obtain ⟨below, here, found⟩ := Expr.follow?_cons.mp isNode
    obtain ⟨root, rest⟩ := everywhere_iff.mp coherent
    obtain ⟨ts, _, fits⟩ := root t cached
    obtain ⟨u, _, outcome⟩ := fits i below here
    exact ih (rest i below here) outcome found

end Memo
end TypedExpr
