import Mathlib.Data.Nat.Notation
import TypedExpr.Text.Scanner
/-!
# Scanning before a closing parenthesis

A scanner is local when a closing parenthesis after the text, with anything behind it, makes no difference to what the
scanner takes from the text. Locality passes through sequences, choices and loops, so it holds of a reader that is made
of local scanners. What scanners pass over may run past the parenthesis, since a comment hides it; then only the end of
a line brings the rest of the text back, and `keep` leaves it out.
-/

namespace TypedExpr.Text

/-- What scanners may pass over before they look: a stretch at the front that ends where something counts. -/
structure Skips (skip : List Char → List Char) : Prop where
  suffix : ∀ cs, skip cs <:+ cs
  append : ∀ {cs c rest}, skip cs = c :: rest → ∀ t, skip (cs ++ t) = c :: rest ++ t
  past : ∀ {cs}, skip cs = [] → ∀ t, skip (cs ++ t) <:+ t
  -- An open comment goes on behind the text and hides what follows on its line.
  hidden : ∀ {cs}, skip cs = [] →
    (∀ r, '\n' ∉ r → skip (cs ++ ')' :: r) = []) ∨ ∀ r, skip (cs ++ ')' :: r) = ')' :: r

theorem Skips.id : Skips id where
  suffix := List.suffix_refl
  append := by
    rintro _ c rest rfl t
    rfl
  past := by
    rintro _ rfl t
    exact List.suffix_refl t
  hidden := by
    rintro _ rfl
    exact .inr fun _ => rfl

theorem suffix_cancel {x t : List Char} (inside : x ++ t <:+ t) : x = [] := by
  have shorter := inside.length_le
  rw [List.length_append] at shorter
  exact List.eq_nil_of_length_eq_zero (by omega)

theorem Skips.cut {skip : List Char → List Char} (skips : Skips skip) {cs x t : List Char}
    (same : skip (cs ++ t) = x ++ t) : skip cs = x := by
  cases skipped : skip cs with
  | nil =>
    have inside := skips.past skipped t
    rw [same] at inside
    exact (suffix_cancel inside).symm
  | cons c rest =>
    rw [skips.append skipped t] at same
    exact List.append_cancel_right same

theorem Skips.length_le {skip : List Char → List Char} (skips : Skips skip) (cs : List Char) :
    (skip cs).length ≤ cs.length := (skips.suffix cs).length_le

theorem Skips.not_prefix {skip : List Char → List Char} (skips : Skips skip) {sign cs t : List Char}
    (nonempty : sign ≠ []) (absent : ¬sign <+: skip (cs ++ t)) : ¬sign <+: skip cs := by
  intro found
  cases skipped : skip cs with
  | nil => exact nonempty (List.prefix_nil.mp (skipped ▸ found))
  | cons c rest =>
    rw [skips.append skipped, ← skipped] at absent
    exact absent (found.trans (List.prefix_append _ _))

namespace Scanner

variable {α β σ : Type} {skip : List Char → List Char}

/-- A closing parenthesis after a text makes no difference to a scanner. -/
structure Local (scan : Scanner α) : Prop where
  suffix : ∀ {cs a rest}, scan cs = some (a, rest) → rest <:+ cs
  keep : ∀ {cs a rest r}, scan cs = some (a, rest) → '\n' ∉ r →
    scan (cs ++ ')' :: r) = some (a, rest ++ ')' :: r)
  cut : ∀ {cs a rest r}, scan (cs ++ ')' :: r) = some (a, rest ++ ')' :: r) → scan cs = some (a, rest)

/-- A scanner that takes at least one character. -/
def Advances (scan : Scanner α) : Prop := ∀ cs a rest, scan cs = some (a, rest) → rest.length < cs.length

theorem bind_some {scan : Scanner α} {follow : α → Scanner β} {cs rest : List Char} {b : β} :
    (scan >>= follow) cs = some (b, rest) ↔
      ∃ a middle, scan cs = some (a, middle) ∧ follow a middle = some (b, rest) := by
  constructor
  · intro read
    obtain ⟨⟨a, middle⟩, first, second⟩ := Option.bind_eq_some_iff.mp read
    exact ⟨a, middle, first, second⟩
  · rintro ⟨a, middle, first, second⟩
    exact Option.bind_eq_some_iff.mpr ⟨(a, middle), first, second⟩

theorem pure_some {a b : α} {cs rest : List Char} :
    (pure a : Scanner α) cs = some (b, rest) ↔ a = b ∧ cs = rest := by
  constructor
  · intro read
    exact Prod.mk.inj (Option.some.inj read)
  · rintro ⟨rfl, rfl⟩
    rfl

namespace Local

theorem pure (a : α) : Local (pure a : Scanner α) where
  suffix := by
    intro cs b rest read
    obtain ⟨-, rfl⟩ := pure_some.mp read
    exact List.suffix_refl cs
  keep := by
    intro cs b rest r read _
    obtain ⟨rfl, rfl⟩ := pure_some.mp read
    exact pure_some.mpr ⟨rfl, rfl⟩
  cut := by
    intro cs b rest r read
    obtain ⟨rfl, same⟩ := pure_some.mp read
    exact pure_some.mpr ⟨rfl, List.append_cancel_right same⟩

theorem failure : Local (failure : Scanner α) where
  suffix := by rintro _ _ _ ⟨⟩
  keep := by rintro _ _ _ _ ⟨⟩
  cut := by rintro _ _ _ _ ⟨⟩

theorem lift (x : Option α) : Local (liftM x : Scanner α) := by
  cases x with
  | none => exact failure
  | some a => exact pure a

theorem bind {scan : Scanner α} {follow : α → Scanner β} (first : Local scan)
    (second : ∀ a, Local (follow a)) : Local (scan >>= follow) where
  suffix := by
    intro cs b rest read
    obtain ⟨a, middle, read₁, read₂⟩ := bind_some.mp read
    exact ((second a).suffix read₂).trans (first.suffix read₁)
  keep := by
    intro cs b rest r read line
    obtain ⟨a, middle, read₁, read₂⟩ := bind_some.mp read
    exact bind_some.mpr ⟨a, _, first.keep read₁ line, (second a).keep read₂ line⟩
  cut := by
    intro cs b rest r read
    obtain ⟨a, middle, read₁, read₂⟩ := bind_some.mp read
    obtain ⟨taken, rfl⟩ := (second a).suffix read₂
    rw [← List.append_assoc] at read₁ read₂
    exact bind_some.mpr ⟨a, _, first.cut read₁, (second a).cut read₂⟩

theorem ite {condition : Prop} [Decidable condition] {yes no : Scanner α} (first : Local yes) (second : Local no) :
    Local (if condition then yes else no) := by
  by_cases holds : condition
  · rwa [if_pos holds]
  · rwa [if_neg holds]

end Local

theorem next_some (skip : List Char → List Char) {cs rest : List Char} {c : Char} :
    next skip cs = some (c, rest) ↔ skip cs = c :: rest := by
  unfold next
  cases skip cs <;> simp

theorem Local.next (skips : Skips skip) : Local (next skip) where
  suffix := by
    intro cs c rest read
    rw [next_some] at read
    exact (List.suffix_cons c rest).trans (read ▸ skips.suffix cs)
  keep := by
    intro cs c rest r read _
    rw [next_some] at read ⊢
    exact skips.append read _
  cut := by
    intro cs c rest r read
    rw [next_some] at read ⊢
    exact skips.cut (x := c :: rest) read

theorem advances_next (skips : Skips skip) : Advances (Scanner.next skip) := by
  intro cs c rest read
  rw [next_some] at read
  have shorter := skips.length_le cs
  rw [read, List.length_cons] at shorter
  omega

section NextIf

variable {test : Char → List Char → Bool}

theorem nextIf_some {cs rest : List Char} {c : Char} :
    nextIf skip test cs = some (some c, rest) ↔ skip cs = c :: rest ∧ test c rest = true := by
  unfold nextIf
  cases skip cs with
  | nil => simp
  | cons d more =>
    by_cases passes : test d more = true
    · simp only [passes, if_true, Option.some.injEq, Prod.mk.injEq, List.cons.injEq]
      constructor
      · rintro ⟨rfl, rfl⟩
        exact ⟨⟨rfl, rfl⟩, passes⟩
      · exact And.left
    · simp only [passes, if_false, Option.some.injEq, Prod.mk.injEq, List.cons.injEq, reduceCtorEq, false_and,
        false_iff]
      rintro ⟨⟨rfl, rfl⟩, passes'⟩
      exact passes passes'

theorem nextIf_none {cs rest : List Char} :
    nextIf skip test cs = some (none, rest) ↔ rest = cs ∧ ∀ c more, skip cs = c :: more → test c more = false := by
  unfold nextIf
  cases skip cs with
  | nil => simpa using eq_comm
  | cons d more =>
    by_cases passes : test d more = true
    · simp [passes]
    · simpa [passes] using eq_comm

theorem Local.nextIf (skips : Skips skip) (closing : ∀ rest, test ')' rest = false)
    (stable : ∀ c x r, test c (x ++ ')' :: r) = test c x) : Local (nextIf skip test) where
  suffix := by
    intro cs found rest read
    cases found with
    | none => exact (nextIf_none.mp read).1 ▸ List.suffix_refl cs
    | some c => exact (List.suffix_cons c rest).trans ((nextIf_some.mp read).1 ▸ skips.suffix cs)
  keep := by
    intro cs found rest r read line
    cases found with
    | some c =>
      obtain ⟨read, passes⟩ := nextIf_some.mp read
      exact nextIf_some.mpr ⟨skips.append read _, (stable c rest r).trans passes⟩
    | none =>
      obtain ⟨rfl, fails⟩ := nextIf_none.mp read
      refine nextIf_none.mpr ⟨rfl, ?_⟩
      intro c more found
      cases skipped : skip rest with
      | nil =>
        rcases skips.hidden skipped with same | same
        · simp [same r line] at found
        · obtain ⟨rfl, rfl⟩ := List.cons.inj ((same r).symm.trans found)
          exact closing r
      | cons d rest' =>
        rw [skips.append skipped] at found
        obtain ⟨rfl, rfl⟩ := List.cons.inj found
        exact (stable d rest' r).trans (fails d rest' skipped)
  cut := by
    intro cs found rest r read
    cases found with
    | some c =>
      obtain ⟨read, passes⟩ := nextIf_some.mp read
      exact nextIf_some.mpr ⟨skips.cut (x := c :: rest) read, (stable c rest r).symm.trans passes⟩
    | none =>
      obtain ⟨same, fails⟩ := nextIf_none.mp read
      obtain rfl := List.append_cancel_right same
      refine nextIf_none.mpr ⟨rfl, ?_⟩
      intro c more found
      exact (stable c more r).symm.trans (fails c _ (skips.append found _))

theorem nextIf_length (skips : Skips skip) {cs rest : List Char} {c : Char}
    (read : Scanner.nextIf skip test cs = some (some c, rest)) : rest.length < cs.length := by
  have shorter := skips.length_le cs
  rw [(nextIf_some.mp read).1, List.length_cons] at shorter
  omega

end NextIf

theorem accept_true {sign cs rest : List Char} :
    accept skip sign cs = some (true, rest) ↔ skip cs = sign ++ rest := by
  unfold accept
  by_cases found : sign.isPrefixOf (skip cs) = true
  · obtain ⟨more, same⟩ := List.isPrefixOf_iff_prefix.mp found
    rw [if_pos found, ← same]
    simp
  · rw [if_neg found]
    simp only [Option.some.injEq, Prod.mk.injEq, Bool.false_eq_true, false_and, false_iff]
    intro same
    exact found (List.isPrefixOf_iff_prefix.mpr ⟨rest, same.symm⟩)

theorem accept_length (skips : Skips skip) {sign cs rest : List Char} (nonempty : sign ≠ [])
    (read : accept skip sign cs = some (true, rest)) : rest.length < cs.length := by
  have shorter := skips.length_le cs
  have positive := List.length_pos_iff.mpr nonempty
  rw [accept_true.mp read, List.length_append] at shorter
  omega

theorem accept_false {sign cs rest : List Char} :
    accept skip sign cs = some (false, rest) ↔ rest = cs ∧ ¬sign <+: skip cs := by
  unfold accept
  rw [← List.isPrefixOf_iff_prefix]
  by_cases found : sign.isPrefixOf (skip cs) = true <;> simp [found, eq_comm]

/-- A sign without parenthesis does not reach over one. -/
theorem prefix_before {sign x r : List Char} (other : ')' ∉ sign) (found : sign <+: x ++ ')' :: r) : sign <+: x := by
  rcases List.prefix_or_prefix_of_prefix found (List.prefix_append x _) with inside | ⟨more, rfl⟩
  · exact inside
  · rw [List.prefix_append_right_inj] at found
    cases more with
    | nil => simp
    | cons c more =>
      obtain ⟨rfl, -⟩ := List.cons_prefix_cons.mp found
      simp at other

theorem Local.accept (skips : Skips skip) {sign : List Char} (plain : sign ≠ [] ∧ ')' ∉ sign) :
    Local (accept skip sign) where
  suffix := by
    intro cs found rest read
    cases found with
    | false => exact (accept_false.mp read).1 ▸ List.suffix_refl cs
    | true => exact (List.suffix_append sign rest).trans (accept_true.mp read ▸ skips.suffix cs)
  keep := by
    intro cs found rest r read line
    cases found with
    | true =>
      rw [accept_true] at read ⊢
      obtain ⟨c, more, rfl⟩ := List.exists_cons_of_ne_nil plain.1
      rw [skips.append read]
      simp
    | false =>
      obtain ⟨rfl, absent⟩ := accept_false.mp read
      refine accept_false.mpr ⟨rfl, ?_⟩
      intro found
      cases skipped : skip rest with
      | nil =>
        rcases skips.hidden skipped with same | same
        · exact plain.1 (List.prefix_nil.mp (same r line ▸ found))
        · exact plain.1 (List.prefix_nil.mp (prefix_before (x := []) plain.2 (same r ▸ found)))
      | cons c more =>
        rw [skips.append skipped, ← skipped] at found
        exact absent (prefix_before plain.2 found)
  cut := by
    intro cs found rest r read
    cases found with
    | true =>
      rw [accept_true, ← List.append_assoc] at read
      exact accept_true.mpr (skips.cut read)
    | false =>
      obtain ⟨same, absent⟩ := accept_false.mp read
      obtain rfl := List.append_cancel_right same
      exact accept_false.mpr ⟨rfl, skips.not_prefix plain.1 absent⟩

theorem Local.oneOf (skips : Skips skip) {signs : List (List Char × α)}
    (plain : ∀ p ∈ signs, p.1 ≠ [] ∧ ')' ∉ p.1) : Local (oneOf skip signs) := by
  induction signs with
  | nil => exact pure none
  | cons p signs ih =>
    obtain ⟨first, others⟩ := List.forall_mem_cons.mp plain
    exact (accept skips first).bind fun _ => ite (pure _) (ih others)

theorem Advances.bind {scan : Scanner α} {follow : α → Scanner β} (first : Advances scan)
    (second : ∀ a, Local (follow a)) : Advances (scan >>= follow) := by
  intro cs b rest read
  obtain ⟨a, middle, read₁, read₂⟩ := bind_some.mp read
  have shorter := first _ _ _ read₁
  have inside := ((second a).suffix read₂).length_le
  omega

/-- A sign that was found is a character taken; without it the rest has to take one. -/
theorem Advances.accept (skips : Skips skip) {sign : List Char} (nonempty : sign ≠ []) {yes no : Scanner α}
    (first : Local yes) (second : Advances no) :
    Advances (accept skip sign >>= fun found => if found = true then yes else no) := by
  intro cs a rest read
  obtain ⟨found, middle, read₁, read₂⟩ := bind_some.mp read
  cases found with
  | false =>
    obtain ⟨rfl, -⟩ := accept_false.mp read₁
    exact second _ _ _ read₂
  | true =>
    have inside := (first.suffix read₂).length_le
    have shorter := accept_length skips nonempty read₁
    omega

section Loop

variable {step : σ → Scanner (Round σ α)}

theorem Local.rounds (steps : ∀ s, Local (step s)) (fuel : ℕ) (s : σ) : Local (rounds step fuel s) := by
  induction fuel generalizing s with
  | zero => exact failure
  | succ fuel ih =>
    refine (steps s).bind fun round => ?_
    cases round with
    | again s => exact ih s
    | done a => exact pure a

/-- Fuel for every character is enough. -/
theorem rounds_settle (progress : ∀ {s cs s' rest}, step s cs = some (.again s', rest) → rest.length < cs.length)
    {n m : ℕ} {s : σ} {cs rest : List Char} {a : α} (read : rounds step n s cs = some (a, rest))
    (enough : cs.length < m) : rounds step m s cs = some (a, rest) := by
  induction n generalizing m s cs with
  | zero => cases read
  | succ n ih =>
    obtain ⟨m, rfl⟩ : ∃ k, m = k + 1 := ⟨m - 1, by omega⟩
    obtain ⟨round, middle, read₁, read₂⟩ := bind_some.mp read
    refine bind_some.mpr ⟨round, middle, read₁, ?_⟩
    cases round with
    | again s' =>
      have shorter := progress read₁
      exact ih read₂ (by omega)
    | done a => exact read₂

theorem Local.loop (steps : ∀ s, Local (step s))
    (progress : ∀ {s cs s' rest}, step s cs = some (.again s', rest) → rest.length < cs.length) (s : σ) :
    Local (loop step s) where
  suffix := (Local.rounds steps _ s).suffix
  keep := fun read line => rounds_settle progress ((Local.rounds steps _ s).keep read line) (Nat.lt_succ_self _)
  cut := fun read => rounds_settle progress ((Local.rounds steps _ s).cut read) (Nat.lt_succ_self _)

end Loop

/-- A loop whose rounds start with a character. -/
theorem Local.loopNext (skips : Skips skip) {follow : σ → Char → Scanner (Round σ α)}
    (continues : ∀ s c, Local (follow s c)) (s : σ) :
    Local (Scanner.loop (fun s => Scanner.next skip >>= follow s) s) := by
  refine loop (fun s => (next skips).bind (continues s)) ?_ s
  intro s cs s' rest read
  exact (advances_next skips).bind (continues s) _ _ _ read

theorem Local.upTo (skips : Skips skip) (stop : Char) : Local (upTo skip stop) :=
  loopNext skips (fun _ _ => ite (pure _) (pure _)) []

end Scanner
end TypedExpr.Text
