import Mathlib.Data.Nat.Notation
import TypedExpr.Pattern
/-!
# What patterns match

A pattern matches the stretch of a text between two positions (`Regex.Matches`). The matcher moves sets of positions
through the pattern: from a set of positions it reaches exactly the ends of the matches that start there (`run_iff`).
Only the repetitions without a limit need a reason to stop. No match goes back, so a chain of matches that reaches a
position does so with as many steps as there are characters on the way (`Steps.shorten`).
-/

namespace TypedExpr.Pattern

/-- So many steps lead from one position to another. -/
def Steps (move : ℕ → ℕ → Prop) : ℕ → ℕ → ℕ → Prop
  | 0, i, j => i = j
  | count + 1, i, k => ∃ j, move i j ∧ Steps move count j k

/-- The character that ends at a position. -/
def charBefore (text : List Char) (i : ℕ) : Option Char := if i = 0 then none else text[i - 1]?

theorem isNone_charBefore {text : List Char} {i : ℕ} (bound : i ≤ text.length) :
    (charBefore text i).isNone = true ↔ i = 0 := by
  by_cases start : i = 0
  · simp [charBefore, start]
  · have inside : i - 1 < text.length := by omega
    simp [charBefore, start, inside]

/-- A pattern matches a text from one position to another. -/
def Regex.Matches (text : List Char) : Regex → ℕ → ℕ → Prop
  | .empty, i, j => i = j
  | .one set, i, j => j = i + 1 ∧ ∃ c, text[i]? = some c ∧ set.contains c.toNat = true
  | .assertion a, i, j => j = i ∧ i ≤ text.length ∧ a.holds (charBefore text i) text[i]? = true
  | .seq first second, i, k => ∃ j, first.Matches text i j ∧ second.Matches text j k
  | .alt first second, i, j => first.Matches text i j ∨ second.Matches text i j
  | .repeat least most body, i, j =>
    -- The body is met `least` times, and after that up to the limit if there is one.
    ∃ more, (∀ limit ∈ most, more ≤ limit - least) ∧ Steps (body.Matches text) (least + more) i j

/-- A pattern matches a text from its first to its last character. -/
def Regex.MatchesWhole (r : Regex) (text : String) : Prop := r.Matches text.toList 0 text.length

section Steps

variable {move : ℕ → ℕ → Prop} {i j k m n : ℕ}

theorem steps_add : Steps move (m + n) i k ↔ ∃ j, Steps move m i j ∧ Steps move n j k := by
  induction m generalizing i with
  | zero => simp [Steps]
  | succ m ih =>
    rw [Nat.succ_add]
    simp only [Steps, ih]
    constructor
    · rintro ⟨j, first, l, second, third⟩
      exact ⟨l, ⟨j, first, second⟩, third⟩
    · rintro ⟨l, ⟨j, first, second⟩, third⟩
      exact ⟨j, first, l, second, third⟩

/-- Moves go forward and stay in the text. -/
def Forward (size : ℕ) (move : ℕ → ℕ → Prop) : Prop := ∀ i j, i ≤ size → move i j → i ≤ j ∧ j ≤ size

theorem Forward.steps {size : ℕ} (forward : Forward size move) : Forward size (Steps move n) := by
  induction n with
  | zero =>
    rintro i j inside rfl
    exact ⟨Nat.le_refl i, inside⟩
  | succ n ih =>
    rintro i k inside ⟨j, first, rest⟩
    obtain ⟨before, inside'⟩ := forward i j inside first
    obtain ⟨before', inside''⟩ := ih j k inside' rest
    exact ⟨by omega, inside''⟩

/-- Steps that stay where they are can be left out. -/
theorem Steps.shorten {size : ℕ} (forward : Forward size move) (inside : i ≤ size) (steps : Steps move n i j) :
    ∃ m ≤ j - i, Steps move m i j := by
  induction n generalizing i with
  | zero => exact ⟨0, Nat.zero_le _, steps⟩
  | succ n ih =>
    obtain ⟨l, first, rest⟩ := steps
    obtain ⟨before, inside'⟩ := forward i l inside first
    obtain ⟨m, few, rest'⟩ := ih inside' rest
    by_cases stays : l = i
    · subst stays
      exact ⟨m, few, rest'⟩
    · have after := (forward.steps l j inside' rest').1
      exact ⟨m + 1, by omega, l, first, rest'⟩

end Steps

section Positions

theorem testBit_positionsWhere {α : Type} (test : α → Bool) (index : ℕ) (items : List α) (j : ℕ) :
    (positionsWhere test index items).testBit j = true ↔
      index ≤ j ∧ ∃ a, items[j - index]? = some a ∧ test a = true := by
  induction items generalizing index with
  | nil => simp [positionsWhere]
  | cons a rest ih =>
    rw [positionsWhere, Nat.testBit_or, Bool.or_eq_true, ih]
    have here : (if test a = true then Nat.pow 2 index else 0).testBit j = true ↔ j = index ∧ test a = true := by
      by_cases accepted : test a = true
      · rw [if_pos accepted, show Nat.pow 2 index = 2 ^ index from rfl, Nat.testBit_two_pow, decide_eq_true_iff]
        simp [accepted, eq_comm]
      · simp [accepted]
    rw [here]
    rcases Nat.lt_trichotomy j index with before | rfl | after
    · have absent : ¬index ≤ j := by omega
      have absent' : ¬index + 1 ≤ j := by omega
      simp [absent, absent', Nat.ne_of_lt before]
    · have absent : ¬j + 1 ≤ j := by omega
      simp [absent]
    · obtain ⟨k, rfl⟩ : ∃ k, j = index + 1 + k := ⟨j - (index + 1), by omega⟩
      have here' : ¬index + 1 + k = index := by omega
      have next : index + 1 + k - index = k + 1 := by omega
      simp [here', next]
      omega

theorem getElem?_places (before : Option Char) (text : List Char) (i : ℕ) :
    (places before text)[i]? =
      if i ≤ text.length then some (if i = 0 then before else text[i - 1]?, text[i]?) else none := by
  induction text generalizing before i with
  | nil => cases i <;> simp [places]
  | cons c rest ih =>
    cases i with
    | zero => simp [places]
    | succ i =>
      rw [places, List.getElem?_cons_succ, ih]
      cases i <;> simp

/-- All positions of a set stand in the text. -/
def Within (size : ℕ) (s : Positions) : Prop := ∀ i, s.testBit i = true → i ≤ size

/-- A move of sets follows a move of positions. -/
def Follows (size : ℕ) (move : Positions → Positions) (step : ℕ → ℕ → Prop) : Prop :=
  ∀ s, Within size s → ∀ j, (move s).testBit j = true ↔ ∃ i, s.testBit i = true ∧ step i j

variable {size : ℕ} {move : Positions → Positions} {step : ℕ → ℕ → Prop} {s : Positions}

theorem Follows.within (follows : Follows size move step) (forward : Forward size step) (inside : Within size s) :
    Within size (move s) := by
  intro j reached
  obtain ⟨i, member, moved⟩ := (follows s inside j).mp reached
  exact (forward i j (inside i member) moved).2

theorem Follows.iterate (follows : Follows size move step) (forward : Forward size step) (count : ℕ) :
    Follows size (iterate move count) (Steps step count) := by
  induction count with
  | zero =>
    intro s _ j
    simp [Pattern.iterate, Steps]
  | succ count ih =>
    intro s inside j
    rw [Pattern.iterate, ih _ (follows.within forward inside)]
    simp only [Steps, follows s inside]
    constructor
    · rintro ⟨k, ⟨i, member, first⟩, rest⟩
      exact ⟨i, member, k, first, rest⟩
    · rintro ⟨i, member, k, first, rest⟩
      exact ⟨k, ⟨i, member, first⟩, rest⟩

theorem Follows.closed (follows : Follows size move step) (inside : Within size s) (stops : s ||| move s = s)
    {n i j : ℕ} (member : s.testBit i = true) (steps : Steps step n i j) : s.testBit j = true := by
  induction n generalizing i with
  | zero =>
    obtain rfl : i = j := steps
    exact member
  | succ n ih =>
    obtain ⟨k, first, rest⟩ := steps
    have moved : (move s).testBit k = true := (follows s inside k).mpr ⟨i, member, first⟩
    have kept : s.testBit k = true := by rw [← stops, Nat.testBit_or, moved, Bool.or_true]
    exact ih kept rest

theorem Follows.reach (follows : Follows size move step) (forward : Forward size step) (rounds : ℕ) :
    Follows size (reach move rounds) fun i j => ∃ n ≤ rounds, Steps step n i j := by
  induction rounds with
  | zero =>
    intro s _ j
    simp [Pattern.reach, Steps]
  | succ rounds ih =>
    intro s inside j
    rw [Pattern.reach]
    by_cases stops : s ||| move s = s
    · simp only [stops, if_true]
      constructor
      · intro member
        exact ⟨j, member, 0, Nat.zero_le _, rfl⟩
      · rintro ⟨i, member, n, _, steps⟩
        exact follows.closed inside stops member steps
    · have inside' : Within size (s ||| move s) := by
        intro i reached
        rw [Nat.testBit_or, Bool.or_eq_true] at reached
        exact reached.elim (inside i) (follows.within forward inside i)
      simp only [stops, if_false]
      rw [ih _ inside']
      simp only [Nat.testBit_or, Bool.or_eq_true, follows s inside]
      constructor
      · rintro ⟨i, member | ⟨l, member, first⟩, n, few, steps⟩
        · exact ⟨i, member, n, by omega, steps⟩
        · exact ⟨l, member, n + 1, by omega, i, first, steps⟩
      · rintro ⟨i, member, n, few, steps⟩
        cases n with
        | zero => exact ⟨i, .inl member, 0, Nat.zero_le _, steps⟩
        | succ n =>
          obtain ⟨l, first, rest⟩ := steps
          exact ⟨l, .inr ⟨i, member, first⟩, n, by omega, rest⟩

end Positions

theorem Regex.Matches.forward (text : List Char) (r : Regex) : Forward text.length (r.Matches text) := by
  induction r with
  | empty =>
    rintro i j inside rfl
    exact ⟨Nat.le_refl i, inside⟩
  | one set =>
    rintro i j inside ⟨rfl, c, found, -⟩
    obtain ⟨bound, -⟩ := List.getElem?_eq_some_iff.mp found
    omega
  | assertion a =>
    rintro i j inside ⟨rfl, -⟩
    exact ⟨Nat.le_refl j, inside⟩
  | seq first second ih₁ ih₂ =>
    rintro i k inside ⟨j, met, met'⟩
    obtain ⟨before, inside'⟩ := ih₁ i j inside met
    obtain ⟨before', inside''⟩ := ih₂ j k inside' met'
    exact ⟨by omega, inside''⟩
  | alt first second ih₁ ih₂ =>
    rintro i j inside (met | met)
    · exact ih₁ i j inside met
    · exact ih₂ i j inside met
  | «repeat» least most body ih =>
    rintro i j inside ⟨more, -, steps⟩
    exact ih.steps i j inside steps

/-- From a set of positions the matcher reaches the ends of the matches that start there. -/
theorem run_iff (text : List Char) (r : Regex) :
    Follows text.length ((r.moves text).run text.length) (r.Matches text) := by
  induction r with
  | empty =>
    intro s _ j
    simp [Regex.moves, Moves.run, Regex.Matches]
  | one set =>
    intro s _ j
    rw [Regex.moves, Moves.run, Nat.testBit_shiftLeft, Bool.and_eq_true, decide_eq_true_iff, Nat.testBit_and,
      Bool.and_eq_true, testBit_positionsWhere]
    constructor
    · rintro ⟨after, member, -, c, found, accepted⟩
      exact ⟨j - 1, member, by omega, c, found, accepted⟩
    · rintro ⟨i, member, rfl, c, found, accepted⟩
      exact ⟨by omega, member, Nat.zero_le _, c, found, accepted⟩
  | assertion a =>
    intro s _ j
    rw [Regex.moves, Moves.run, Nat.testBit_and, Bool.and_eq_true, testBit_positionsWhere, Nat.sub_zero,
      getElem?_places]
    constructor
    · rintro ⟨member, -, p, found, holds⟩
      by_cases inside : j ≤ text.length
      · rw [if_pos inside, Option.some.injEq] at found
        subst found
        exact ⟨j, member, rfl, inside, holds⟩
      · rw [if_neg inside] at found
        cases found
    · rintro ⟨i, member, rfl, inside, holds⟩
      exact ⟨member, Nat.zero_le _, _, if_pos inside, holds⟩
  | seq first second ih₁ ih₂ =>
    intro s inside k
    rw [Regex.moves, Moves.run, ih₂ _ (ih₁.within (Regex.Matches.forward text first) inside)]
    simp only [ih₁ s inside, Regex.Matches]
    constructor
    · rintro ⟨j, ⟨i, member, met⟩, met'⟩
      exact ⟨i, member, j, met, met'⟩
    · rintro ⟨i, member, j, met, met'⟩
      exact ⟨j, ⟨i, member, met⟩, met'⟩
  | alt first second ih₁ ih₂ =>
    intro s inside j
    rw [Regex.moves, Moves.run, Nat.testBit_or, Bool.or_eq_true, ih₁ s inside, ih₂ s inside]
    simp only [Regex.Matches, and_or_left, exists_or]
  | «repeat» least most body ih =>
    intro s inside k
    have forward := Regex.Matches.forward text body
    have first := ih.iterate forward least
    unfold Regex.moves Moves.run
    rw [ih.reach forward _ _ (first.within forward.steps inside)]
    simp only [first s inside, Regex.Matches, steps_add]
    constructor
    · rintro ⟨j, ⟨i, member, steps⟩, more, few, steps'⟩
      refine ⟨i, member, more, ?_, j, steps, steps'⟩
      rintro limit ⟨⟩
      exact few
    · rintro ⟨i, member, more, few, j, steps, steps'⟩
      refine ⟨j, ⟨i, member, steps⟩, ?_⟩
      cases most with
      | some limit => exact ⟨more, few limit rfl, steps'⟩
      | none =>
        have inside' := (forward.steps i j (inside i member) steps).2
        obtain ⟨n, short, steps''⟩ := steps'.shorten forward inside'
        have bound := (forward.steps j k inside' steps'').2
        exact ⟨n, show n ≤ text.length + 1 by omega, steps''⟩

theorem Regex.isMatch_iff (r : Regex) (text : String) :
    r.isMatch text = true ↔ ∃ i ≤ text.length, ∃ j, r.Matches text.toList i j := by
  have all (i : ℕ) : (Nat.pow 2 (text.toList.length + 1) - 1).testBit i = true ↔ i ≤ text.length := by
    rw [show Nat.pow 2 (text.toList.length + 1) = 2 ^ (text.toList.length + 1) from rfl, Nat.testBit_two_pow_sub_one,
      decide_eq_true_iff, String.length_toList]
    omega
  have inside : Within text.toList.length (Nat.pow 2 (text.toList.length + 1) - 1) := by
    intro i member
    rw [String.length_toList]
    exact (all i).mp member
  rw [Regex.isMatch, bne_iff_ne]
  constructor
  · intro nonempty
    obtain ⟨j, reached⟩ := Nat.exists_testBit_of_ne_zero nonempty
    obtain ⟨i, member, met⟩ := (run_iff text.toList r _ inside j).mp reached
    exact ⟨i, (all i).mp member, j, met⟩
  · rintro ⟨i, bound, j, met⟩ empty
    have reached := (run_iff text.toList r _ inside j).mpr ⟨i, (all i).mpr bound, met⟩
    rw [empty, Nat.zero_testBit] at reached
    cases reached

/-- A pattern between the conditions of the start and the end. -/
def Regex.enclosed (r : Regex) : Regex := .seq (.assertion .startText) (.seq r (.assertion .endText))

/-- Between the start and the end, a pattern has to match the whole text. -/
theorem Regex.isMatch_enclosed (r : Regex) (text : String) : r.enclosed.isMatch text = true ↔ r.MatchesWhole text := by
  rw [Regex.isMatch_iff, Regex.MatchesWhole, ← String.length_toList]
  simp only [Regex.enclosed, Regex.Matches, Assertion.holds]
  constructor
  · rintro ⟨_, -, k, i, ⟨rfl, bound, starts⟩, _, met, rfl, inside, ends⟩
    have atStart : i = 0 := (isNone_charBefore bound).mp starts
    have atEnd : text.toList.length ≤ k := by simpa using ends
    obtain rfl : k = text.toList.length := by omega
    exact atStart ▸ met
  · intro met
    exact ⟨0, Nat.zero_le _, _, 0, ⟨rfl, Nat.zero_le _, rfl⟩, _, met, rfl, Nat.le_refl _, by simp⟩

end TypedExpr.Pattern
