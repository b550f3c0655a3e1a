import Mathlib.Algebra.Group.Int.Defs
import Mathlib.Algebra.Group.Nat.Defs
import TypedExpr.Builtin.Strings
import TypedExpr.Host.Record
import TypedExpr.Proofs.Sequencing
/-!
# Parts of a text

An index counts characters, a position in a text counts the bytes before it. `Stands` relates the two; the parts of a
text between positions are then those of its list of characters (`Stands.slice?_eq`), and `substring` gives the
characters between its indices (`substring_exact`). Only the error for two indices in the wrong order mixes the counts:
it gives a position as an index (`substring_reversed_bytes`).
-/

namespace TypedExpr.Builtin

section Positions

variable {s : String} {p q : s.Pos} {m n : ℕ}

/-- So many characters stand before a position. -/
def Stands (p : s.Pos) (n : ℕ) : Prop :=
  p.Splits (.ofList (s.toList.take n)) (.ofList (s.toList.drop n))

theorem Stands.copy_sliceFrom (stands : Stands p n) : (s.sliceFrom p).copy = .ofList (s.toList.drop n) :=
  String.Pos.Splits.copy_sliceFrom_eq stands

theorem Stands.byteIdx (stands : Stands p n) :
    p.offset.byteIdx = (String.ofList (s.toList.take n)).utf8ByteSize :=
  congrArg String.Pos.Raw.byteIdx stands.offset_eq_rawEndPos

theorem take_append_extract (l : List Char) (le : m ≤ n) : l.take m ++ l.extract m n = l.take n := by
  rw [List.extract_eq_take_drop, ← List.take_add, Nat.add_sub_cancel' le]

theorem extract_append_drop (l : List Char) (le : m ≤ n) : l.extract m n ++ l.drop n = l.drop m := by
  have rest : l.drop n = (l.drop m).drop (n - m) := by rw [List.drop_drop, Nat.add_sub_cancel' le]
  rw [List.extract_eq_take_drop, rest, List.take_append_drop]

theorem Stands.slice?_eq (first : Stands p m) (second : Stands q n) (le : m ≤ n) :
    ∃ part, s.slice? p q = some part ∧ part.copy = .ofList (s.toList.extract m n) := by
  have before : p.Splits (.ofList (s.toList.take m))
      (.ofList (s.toList.extract m n) ++ .ofList (s.toList.drop n)) := by
    rw [← String.ofList_append, extract_append_drop _ le]
    exact first
  have after : q.Splits (.ofList (s.toList.take m) ++ .ofList (s.toList.extract m n))
      (.ofList (s.toList.drop n)) := by
    rw [← String.ofList_append, take_append_extract _ le]
    exact second
  obtain ⟨ordered, copied⟩ := String.copy_slice_eq_iff_splits.mpr ⟨_, _, before, after⟩
  exact ⟨_, dif_pos ordered, copied⟩

/-- Positions are in the order of their indices. -/
theorem Stands.not_le (first : Stands p m) (second : Stands q n) (lt : n < m) (within : m ≤ s.length) : ¬p ≤ q := by
  intro ordered
  obtain ⟨between, taken, -⟩ := (first.le_iff_exists_eq_append second).mp ordered
  have lengths := congrArg String.length taken
  simp only [String.length_append, String.length_ofList, List.length_take, String.length_toList] at lengths
  omega

theorem position_eq_ok {i : Int32} (within : 0 ≤ i.toInt ∧ i.toInt ≤ s.length) :
    ∃ p, position s i = .ok p ∧ Stands p i.toInt.toNat :=
  ⟨_, if_pos within, s.splits_nextn_startPos _⟩

end Positions

/-- Of the arguments of `substring`, the first if it is no index of the text, else the second. -/
def offending (s : String) (b e : Int32) : ℤ :=
  if 0 ≤ b.toInt ∧ b.toInt ≤ s.length then e.toInt else b.toInt

/-- The index in the error of `substring`. -/
def reported (s : String) (b e : Int32) : ℤ :=
  if 0 ≤ e.toInt ∧ e.toInt < b.toInt ∧ b.toInt ≤ s.length then
    (String.ofList (s.toList.take e.toInt.toNat)).utf8ByteSize
  else offending s b e

/-- Every character takes a byte at least. -/
theorem length_le_utf8ByteSize (l : List Char) : l.length ≤ (String.ofList l).utf8ByteSize := by
  induction l with
  | nil => exact Nat.zero_le _
  | cons c l ih =>
    have size := c.utf8Size_pos
    rw [String.ofList_cons, String.utf8ByteSize_append, String.utf8ByteSize_singleton, List.length_cons]
    omega

theorem utf8ByteSize_eq_length_iff (l : List Char) :
    (String.ofList l).utf8ByteSize = l.length ↔ ∀ c ∈ l, c.utf8Size = 1 := by
  induction l with
  | nil => simp
  | cons c l ih =>
    have size := c.utf8Size_pos
    have rest := length_le_utf8ByteSize l
    rw [String.ofList_cons, String.utf8ByteSize_append, String.utf8ByteSize_singleton, List.length_cons,
      List.forall_mem_cons, ← ih]
    omega

theorem reported_eq_offending_iff {s : String} {b e : Int32} : reported s b e = offending s b e ↔
    (0 ≤ e.toInt ∧ e.toInt < b.toInt ∧ b.toInt ≤ s.length →
      ∀ c ∈ s.toList.take e.toInt.toNat, c.utf8Size = 1) := by
  by_cases reversed : 0 ≤ e.toInt ∧ e.toInt < b.toInt ∧ b.toInt ≤ s.length
  · have isSecond : offending s b e = e.toInt := if_pos (by omega)
    have length : (s.toList.take e.toInt.toNat).length = e.toInt.toNat := by
      rw [List.length_take, String.length_toList]
      omega
    rw [imp_iff_right reversed, ← utf8ByteSize_eq_length_iff, length, isSecond, reported, if_pos reversed]
    omega
  · simp [reported, reversed]

section Natives

variable {H : Type} [HostObject H] {s : String} {b e : Int32}

theorem substring_between (first : 0 ≤ b.toInt) (ordered : b.toInt ≤ e.toInt) (last : e.toInt ≤ s.length) :
    substring (H := H) (.string s) [.int b, .int e] =
      .ok (.string (.ofList (s.toList.extract b.toInt.toNat e.toInt.toNat))) := by
  obtain ⟨p, start, stands⟩ := position_eq_ok (s := s) (i := b) ⟨first, by omega⟩
  obtain ⟨q, finish, stands'⟩ := position_eq_ok (s := s) (i := e) ⟨by omega, last⟩
  obtain ⟨part, sliced, copied⟩ := stands.slice?_eq stands' (by omega)
  change (position s b >>= fun start => position s e >>= fun finish => _) = _
  simp only [start, finish, ok_bind, sliced, copied]
  rfl

theorem substring_outside (outside : ¬(0 ≤ b.toInt ∧ b.toInt ≤ e.toInt ∧ e.toInt ≤ s.length)) :
    substring (H := H) (.string s) [.int b, .int e] =
      .error (.indexOutOfBounds (reported s b e) s.length) := by
  change (position s b >>= fun start => position s e >>= fun finish => _) = _
  unfold reported offending
  by_cases first : 0 ≤ b.toInt ∧ b.toInt ≤ s.length
  · obtain ⟨p, start, stands⟩ := position_eq_ok first
    rw [if_pos first]
    by_cases second : 0 ≤ e.toInt ∧ e.toInt ≤ s.length
    · obtain ⟨q, finish, stands'⟩ := position_eq_ok second
      have none : s.slice? p q = none := dif_neg (stands.not_le stands' (by omega) (by omega))
      rw [if_pos (by omega), ← stands'.byteIdx]
      simp only [start, finish, ok_bind, none]
    · have refused : position s e = .error (.indexOutOfBounds e.toInt s.length) := if_neg second
      rw [if_neg (by omega), start, refused]
      rfl
  · have refused : position s b = .error (.indexOutOfBounds b.toInt s.length) := if_neg first
    rw [if_neg (by omega), if_neg first, refused]
    rfl

theorem substringFrom_of_within (within : 0 ≤ b.toInt ∧ b.toInt ≤ s.length) :
    substringFrom (H := H) (.string s) [.int b] = .ok (.string (.ofList (s.toList.drop b.toInt.toNat))) := by
  obtain ⟨p, start, stands⟩ := position_eq_ok within
  change (position s b >>= fun start => _) = _
  rw [start, ok_bind, stands.copy_sliceFrom]
  rfl

theorem substringFrom_outside (outside : ¬(0 ≤ b.toInt ∧ b.toInt ≤ s.length)) :
    substringFrom (H := H) (.string s) [.int b] = .error (.indexOutOfBounds b.toInt s.length) := by
  have refused : position s b = .error (.indexOutOfBounds b.toInt s.length) := if_neg outside
  change (position s b >>= fun start => _) = _
  rw [refused]
  rfl

/-- The second index of `substring` is the end of the text if it is not given. -/
theorem substringFrom_eq_substring (small : s.length < 2 ^ 31) :
    substringFrom (H := H) (.string s) [.int b] = substring (.string s) [.int b, .int (.ofNat s.length)] := by
  have finish : (Int32.ofNat s.length).toInt = s.length := Int32.toInt_ofNat_of_lt small
  by_cases within : 0 ≤ b.toInt ∧ b.toInt ≤ s.length
  · have whole : s.toList.extract b.toInt.toNat s.length = s.toList.drop b.toInt.toNat := by
      have length : (s.toList.drop b.toInt.toNat).length = s.length - b.toInt.toNat := by
        rw [List.length_drop, String.length_toList]
      rw [List.extract_eq_take_drop, ← length, List.take_length]
    rw [substringFrom_of_within within, substring_between within.1 (by omega) (by omega), finish, Int.toNat_natCast,
      whole]
  · have isFirst : reported s b (.ofNat s.length) = b.toInt := by
      rw [reported, if_neg (by omega), offending, if_neg within]
    rw [substringFrom_outside within, substring_outside (by omega), isFirst]

/-- `substring` succeeds exactly for two indices of the text in order, with the characters between them. Otherwise the
error has the length and the argument that is no index of the text, except that for two indices in the wrong order it
has the number of bytes before the second; this is the second itself exactly if the characters before it take a byte
each. Without a second index the part goes to the end. -/
theorem substring_exact (small : s.length < 2 ^ 31) (b e : Int32) :
    (∀ v, substring (H := H) (.string s) [.int b, .int e] = .ok v ↔
      (0 ≤ b.toInt ∧ b.toInt ≤ e.toInt ∧ e.toInt ≤ s.length) ∧
        v = .string (.ofList (s.toList.extract b.toInt.toNat e.toInt.toNat))) ∧
    (¬(0 ≤ b.toInt ∧ b.toInt ≤ e.toInt ∧ e.toInt ≤ s.length) →
      substring (H := H) (.string s) [.int b, .int e] = .error (.indexOutOfBounds (reported s b e) s.length)) ∧
    (reported s b e = offending s b e ↔
      (0 ≤ e.toInt ∧ e.toInt < b.toInt ∧ b.toInt ≤ s.length → ∀ c ∈ s.toList.take e.toInt.toNat, c.utf8Size = 1)) ∧
    substringFrom (H := H) (.string s) [.int b] = substring (.string s) [.int b, .int (.ofNat s.length)] := by
  refine ⟨fun v => ?_, substring_outside, reported_eq_offending_iff, substringFrom_eq_substring small⟩
  by_cases between : 0 ≤ b.toInt ∧ b.toInt ≤ e.toInt ∧ e.toInt ≤ s.length
  · rw [substring_between between.1 between.2.1 between.2.2, Except.ok.injEq, eq_comm]
    exact (and_iff_right between).symm
  · rw [substring_outside between]
    constructor
    · intro succeeded
      cases succeeded
    · intro succeeded
      exact absurd succeeded.1 between

end Natives

/-- The characters take two, three and one byte. -/
theorem substring_exact_accented :
    substring (H := Record) (.string "é€x") [.int 1, .int 3] = .ok (.string "€x") ∧
      substring (H := Record) (.string "é€x") [.int 1, .int 4] = .error (.indexOutOfBounds 4 3) ∧
      substringFrom (H := Record) (.string "é€x") [.int 2] = substring (.string "é€x") [.int 2, .int 3] := by
  have small : "é€x".length < 2 ^ 31 := by decide
  refine ⟨?_, ?_, (substring_exact small 2 3).2.2.2⟩
  · exact ((substring_exact small 1 3).1 _).mpr ⟨by decide, rfl⟩
  · exact (substring_exact small 1 4).2.1 (by decide)

/-- The second index is 1, and the error has 2. -/
theorem substring_reversed_bytes :
    offending "éé" 2 1 = 1 ∧
      substring (H := Record) (.string "éé") [.int 2, .int 1] = .error (.indexOutOfBounds 2 2) :=
  ⟨by decide, substring_outside (by decide)⟩

end TypedExpr.Builtin
