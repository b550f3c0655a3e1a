import TypedExpr.Proofs.Substrings
/-!
# Occurrences in a text

A search gives a position, in bytes. At the position the text occurs, and after fewer characters it does not
(`find?_first`). So `indexOf` agrees with `contains`, `substring` and `startsWith` (`indexOf_coherent`).
-/

namespace TypedExpr.Builtin

open String.Slice.Pattern.Model

variable {s t : String} {p : s.Pos} {n : ℕ}

/-- A text occurs in another after so many characters. -/
def OccursAt (t s : String) (n : ℕ) : Prop := t.toList <+: s.toList.drop n

theorem stands_of_splits {u v : String} (splits : p.Splits u v) : Stands p u.length := by
  have characters : s.toList = u.toList ++ v.toList := by rw [splits.eq_append, String.toList_append]
  refine splits.of_eq ?_ ?_
  · rw [characters, ← String.length_toList, List.take_left, String.ofList_toList]
  · rw [characters, ← String.length_toList, List.drop_left, String.ofList_toList]

theorem Stands.matchesAt_iff (stands : Stands p n) : MatchesAt t p.toSlice ↔ OccursAt t s n := by
  rw [ForwardStringSearcher.matchesAt_iff_splits]
  constructor
  · rintro ⟨u, v, splits⟩
    have rest := (String.Pos.splits_toSlice_iff.mp splits).eq_right stands
    refine ⟨v.toList, ?_⟩
    rw [← String.toList_append, rest, String.toList_ofList]
  · rintro ⟨v, rest⟩
    refine ⟨_, .ofList v, String.Pos.Splits.toSlice (stands.of_eq rfl ?_)⟩
    rw [← rest, String.ofList_append, String.ofList_toList]

theorem find?_empty (s : String) : s.find? "" = some s.startPos := by
  rw [String.find?_eq_find?_toSlice, String.Slice.find?, ← Std.Iter.findSome?_toList,
    ForwardStringSearcher.toSearcher_empty, ForwardSliceSearcher.toList_emptyBefore_eq]
  split <;> rfl

/-- The search finds the first occurrence. -/
theorem find?_first (found : s.find? t = some p) :
    ∃ n ≤ s.length, Stands p n ∧ OccursAt t s n ∧ ∀ j < n, ¬OccursAt t s j := by
  by_cases empty : t = ""
  · subst empty
    rw [find?_empty, Option.some.injEq] at found
    subst found
    have stands : Stands s.startPos 0 := s.splits_startPos.of_eq rfl String.ofList_toList.symm
    exact ⟨0, Nat.zero_le _, stands, ⟨_, rfl⟩, fun j before => absurd before j.not_lt_zero⟩
  · have := ForwardStringSearcher.strictPatternModel empty
    have := ForwardStringSearcher.lawfulToForwardSearcherModel empty
    rw [String.find?_eq_find?_toSlice, Option.map_eq_some_iff] at found
    obtain ⟨q, found, rfl⟩ := found
    obtain ⟨matched, earlier⟩ := (find?_eq_some_iff t).mp found
    have splits := (String.Pos.ofToSlice q).splits
    have stands := stands_of_splits splits
    have within := congrArg String.length splits.eq_append
    rw [String.length_append] at within
    refine ⟨_, by omega, stands, stands.matchesAt_iff.mp (by simpa using matched), fun j before occurs => ?_⟩
    -- An occurrence after fewer characters would be at an earlier position.
    have stands' : Stands (s.startPos.nextn j) j := s.splits_nextn_startPos j
    have precedes := stands.not_le stands' before (by omega)
    refine earlier (s.startPos.nextn j).toSlice ?_ (stands'.matchesAt_iff.mpr occurs)
    exact String.Pos.lt_ofToSlice_iff.mp (Std.not_le.mp precedes)

theorem find?_eq_none_iff_contains : s.find? t = none ↔ s.contains t = false := by
  rw [String.find?_eq_find?_toSlice, Option.map_eq_none_iff, String.Slice.find?_eq_none_iff,
    String.contains_eq_contains_toSlice]

theorem OccursAt.extract_eq (occurs : OccursAt t s n) : s.toList.extract n (n + t.length) = t.toList := by
  obtain ⟨rest, append⟩ := occurs
  rw [List.extract_eq_take_drop, ← append, Nat.add_sub_cancel_left, ← String.length_toList, List.take_left]

theorem OccursAt.length_le (occurs : OccursAt t s n) (within : n ≤ s.length) : n + t.length ≤ s.length := by
  have fits := List.IsPrefix.length_le occurs
  rw [List.length_drop, String.length_toList, String.length_toList] at fits
  omega

section Natives

variable {H : Type} [HostObject H]

theorem containsText_string :
    containsText (H := H) (.string s) [.string t] = .ok (.bool (s.contains t)) := rfl

theorem indexOfText_absent (absent : s.find? t = none) :
    indexOfText (H := H) (.string s) [.string t] = .ok (.int (-1)) := by
  simp only [indexOfText, argument, List.getElem?_cons_zero, expectString, ok_bind, absent]
  rfl

theorem indexOfText_found (found : s.find? t = some p) (stands : Stands p n) (within : n ≤ s.length) :
    indexOfText (H := H) (.string s) [.string t] = .ok (.int (.ofNat n)) := by
  have before : (s.sliceTo p).copy.length = n := by
    rw [stands.copy_sliceTo_eq, String.length_ofList, List.length_take, String.length_toList]
    exact Nat.min_eq_left within
  simp only [indexOfText, argument, List.getElem?_cons_zero, expectString, ok_bind, found, before]
  rfl

theorem substring_of_occursAt (small : s.length < 2 ^ 31) (occurs : OccursAt t s n) (within : n ≤ s.length) :
    substring (H := H) (.string s) [.int (.ofNat n), .int (.ofNat n + .ofNat t.length)] = .ok (.string t) := by
  have fits := occurs.length_le within
  have start : (Int32.ofNat n).toInt = n := Int32.toInt_ofNat_of_lt (by omega)
  have finish : (Int32.ofNat n + Int32.ofNat t.length).toInt = (n + t.length : ℕ) := by
    rw [← Int32.ofNat_add]
    exact Int32.toInt_ofNat_of_lt (by omega)
  rw [substring_between (by omega) (by omega) (by omega), start, finish, Int.toNat_natCast, Int.toNat_natCast,
    occurs.extract_eq, String.ofList_toList]

theorem not_startsWith_after {j : Int32} (within : 0 ≤ j.toInt ∧ j.toInt ≤ s.length)
    (absent : ¬OccursAt t s j.toInt.toNat) :
    (substringFrom (H := H) (.string s) [.int j] >>= fun tail => startsWith tail [.string t]) = .ok (.bool false) := by
  have differs : (String.ofList (s.toList.drop j.toInt.toNat)).startsWith t = false := by
    rw [String.startsWith_string_eq_false_iff, String.toList_ofList]
    exact absent
  have compared : startsWith (H := H) (.string (.ofList (s.toList.drop j.toInt.toNat))) [.string t] =
      .ok (.bool ((String.ofList (s.toList.drop j.toInt.toNat)).startsWith t)) := rfl
  rw [substringFrom_of_within within, ok_bind, compared, differs]

/-- `indexOf` gives -1 exactly if the text does not contain the other. Otherwise the other stands there, and the text
does not start with it after fewer characters. -/
theorem indexOf_coherent (small : s.length < 2 ^ 31) (t : String) :
    ∃ k : Int32, indexOfText (H := H) (.string s) [.string t] = .ok (.int k) ∧
      containsText (H := H) (.string s) [.string t] = .ok (.bool (k ≠ -1)) ∧
      (k ≠ -1 → 0 ≤ k.toInt ∧
        (∃ m, length (H := H) (.string t) [] = .ok (.int m) ∧
          substring (H := H) (.string s) [.int k, .int (k + m)] = .ok (.string t)) ∧
        ∀ j : Int32, j < k →
          (substringFrom (H := H) (.string s) [.int j] >>= fun tail => startsWith tail [.string t]) =
            if 0 ≤ j.toInt then .ok (.bool false) else .error (.indexOutOfBounds j.toInt s.length)) := by
  cases result : s.find? t with
  | none =>
    refine ⟨-1, indexOfText_absent result, ?_, fun found => absurd rfl found⟩
    rw [containsText_string, find?_eq_none_iff_contains.mp result]
    rfl
  | some p =>
    obtain ⟨n, within, stands, occurs, first⟩ := find?_first result
    have index : (Int32.ofNat n).toInt = n := Int32.toInt_ofNat_of_lt (by omega)
    have found : Int32.ofNat n ≠ -1 := by
      intro absent
      rw [absent] at index
      change -1 = (n : ℤ) at index
      omega
    have contains : s.contains t = true := by
      apply eq_true_of_ne_false
      intro lacks
      rw [find?_eq_none_iff_contains.mpr lacks] at result
      cases result
    refine ⟨.ofNat n, indexOfText_found result stands within, ?_, fun _ => ⟨by omega, ?_, fun j before => ?_⟩⟩
    · rw [containsText_string, contains, decide_eq_true found]
    · exact ⟨_, rfl, substring_of_occursAt small occurs within⟩
    · rw [Int32.lt_iff_toInt_lt, index] at before
      by_cases isIndex : 0 ≤ j.toInt
      · rw [if_pos isIndex]
        exact not_startsWith_after (by omega) (first _ (by omega))
      · rw [if_neg isIndex, substringFrom_outside (by omega)]
        rfl

end Natives

/-- The word occurs twice, and characters of two bytes stand before it. -/
theorem indexOf_coherent_accented :
    ∃ k : Int32, indexOfText (H := Record) (.string "né à Évry à") [.string "à"] = .ok (.int k) ∧ k ≠ -1 ∧
      substring (H := Record) (.string "né à Évry à") [.int k, .int (k + 1)] = .ok (.string "à") := by
  have occurs : "né à Évry à".contains "à" = true :=
    String.contains_string_iff.mpr ⟨"né ".toList, " Évry à".toList, by decide⟩
  obtain ⟨k, searched, contained, found⟩ := indexOf_coherent (H := Record) (s := "né à Évry à") (by decide) "à"
  rw [containsText_string, occurs] at contained
  have isFound : k ≠ -1 := of_decide_eq_true (Value.bool.inj (Except.ok.inj contained)).symm
  obtain ⟨-, ⟨m, isLength, copied⟩, -⟩ := found isFound
  cases isLength
  exact ⟨k, searched, isFound, copied⟩

end TypedExpr.Builtin
