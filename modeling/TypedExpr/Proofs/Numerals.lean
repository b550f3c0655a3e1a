import Mathlib.Algebra.Group.Nat.Defs
import TypedExpr.Builtin.Numbers
import TypedExpr.Proofs.Sequencing
/-!
# Numerals of whole numbers

A text denotes a whole number by an optional sign and decimal digits (`Denotes`). Reading stops at the first digit that
leaves the range; since more digits never make a number smaller, it succeeds exactly if the whole number is in the range
(`readInteger_ok_iff`). The text of a number denotes it (`denotes_toString`), so it is read back.
-/

namespace TypedExpr.Number

/-- Decimal digits, at least one, and their value. -/
def Magnitude (digits : List Char) (n : ℕ) : Prop :=
  digits ≠ [] ∧ (∀ c ∈ digits, c.isDigit = true) ∧ Nat.ofDigitChars 10 digits 0 = n

/-- The whole number that a text stands for. -/
inductive Denotes : List Char → ℤ → Prop where
  | plain {digits : List Char} {n : ℕ} (magnitude : Magnitude digits n) : Denotes digits n
  | plus {digits : List Char} {n : ℕ} (magnitude : Magnitude digits n) : Denotes ('+' :: digits) n
  | minus {digits : List Char} {n : ℕ} (magnitude : Magnitude digits n) : Denotes ('-' :: digits) (-n)

theorem not_denotes_nil (z : ℤ) : ¬Denotes [] z := by
  intro denotes
  cases denotes with
  | plain magnitude => exact magnitude.1 rfl

theorem not_magnitude_cons {c : Char} {rest : List Char} {n : ℕ} (sign : c.isDigit = false) :
    ¬Magnitude (c :: rest) n := by
  intro magnitude
  have isDigit := magnitude.2.1 c List.mem_cons_self
  rw [sign] at isDigit
  cases isDigit

theorem denotes_plus_iff {digits : List Char} {z : ℤ} :
    Denotes ('+' :: digits) z ↔ ∃ n, Magnitude digits n ∧ (n : ℤ) = z := by
  constructor
  · intro denotes
    cases denotes with
    | plain magnitude => exact absurd magnitude (not_magnitude_cons (by decide))
    | plus magnitude => exact ⟨_, magnitude, rfl⟩
  · rintro ⟨n, magnitude, rfl⟩
    exact .plus magnitude

theorem denotes_minus_iff {digits : List Char} {z : ℤ} :
    Denotes ('-' :: digits) z ↔ ∃ n, Magnitude digits n ∧ -(n : ℤ) = z := by
  constructor
  · intro denotes
    cases denotes with
    | plain magnitude => exact absurd magnitude (not_magnitude_cons (by decide))
    | minus magnitude => exact ⟨_, magnitude, rfl⟩
  · rintro ⟨n, magnitude, rfl⟩
    exact .minus magnitude

theorem denotes_plain_iff {cs : List Char} {z : ℤ} (noPlus : ∀ digits, cs ≠ '+' :: digits)
    (noMinus : ∀ digits, cs ≠ '-' :: digits) : Denotes cs z ↔ ∃ n, Magnitude cs n ∧ (n : ℤ) = z := by
  constructor
  · intro denotes
    cases denotes with
    | plain magnitude => exact ⟨_, magnitude, rfl⟩
    | plus => exact absurd rfl (noPlus _)
    | minus => exact absurd rfl (noMinus _)
  · rintro ⟨n, magnitude, rfl⟩
    exact .plain magnitude

theorem digit?_eq (c : Char) : digit? c = if c.isDigit then some (c.toNat - '0'.toNat) else none := by
  have same : ('0' ≤ c ∧ c ≤ '9') ↔ c.isDigit = true := by
    rw [Char.isDigit, Bool.and_eq_true, decide_eq_true_eq, decide_eq_true_eq]
    rfl
  simp only [digit?, same]

theorem le_ofDigitChars (digits : List Char) (n : ℕ) : n ≤ Nat.ofDigitChars 10 digits n := by
  rw [Nat.ofDigitChars_eq_ofDigitChars_zero]
  have scaled : n ≤ 10 ^ digits.length * n := Nat.le_mul_of_pos_left n (Nat.pow_pos (by decide))
  omega

theorem readMagnitude_ok_iff {limit acc n : ℕ} {fault : IntegerFault} {cs : List Char} (within : acc ≤ limit) :
    readMagnitude limit fault acc cs = .ok n ↔
      (∀ c ∈ cs, c.isDigit = true) ∧ Nat.ofDigitChars 10 cs acc = n ∧ n ≤ limit := by
  induction cs generalizing acc with
  | nil =>
    simp only [readMagnitude, Except.ok.injEq, Nat.ofDigitChars_nil]
    constructor
    · rintro rfl
      exact ⟨by simp, rfl, within⟩
    · rintro ⟨-, rfl, -⟩
      rfl
  | cons c rest ih =>
    rw [readMagnitude, digit?_eq, List.forall_mem_cons, Nat.ofDigitChars_cons]
    by_cases isDigit : c.isDigit = true
    · simp only [isDigit, if_true, true_and]
      by_cases next : 10 * acc + (c.toNat - '0'.toNat) ≤ limit
      · rw [if_pos next, ih next]
      · rw [if_neg next]
        constructor
        · intro read
          cases read
        · rintro ⟨-, value, bounded⟩
          have grows := le_ofDigitChars rest (10 * acc + (c.toNat - '0'.toNat))
          omega
    · simp [isDigit]

theorem readMagnitude_map_ok_iff {limit : ℕ} {fault : IntegerFault} {digits : List Char} {f : ℕ → ℤ} {z : ℤ}
    (nonempty : digits ≠ []) : (readMagnitude limit fault 0 digits).map f = .ok z ↔
      ∃ n, Magnitude digits n ∧ f n = z ∧ n ≤ limit := by
  constructor
  · intro read
    obtain ⟨n, magnitude, rfl⟩ := map_ok read
    obtain ⟨decimal, value, bounded⟩ := (readMagnitude_ok_iff (Nat.zero_le limit)).mp magnitude
    exact ⟨n, ⟨nonempty, decimal, value⟩, rfl, bounded⟩
  · rintro ⟨n, ⟨-, decimal, value⟩, rfl, bounded⟩
    rw [(readMagnitude_ok_iff (Nat.zero_le limit)).mpr ⟨decimal, value, bounded⟩]
    rfl

/-- Reading succeeds exactly for the numerals of whole numbers in the range. -/
theorem readInteger_ok_iff {limit : ℕ} {s : String} {z : ℤ} :
    readInteger limit s = .ok z ↔ Denotes s.toList z ∧ -(limit + 1 : ℤ) ≤ z ∧ z ≤ limit := by
  unfold readInteger
  split
  next empty => simp [empty, not_denotes_nil]
  next sign => simp [sign, denotes_plus_iff, Magnitude]
  next sign => simp [sign, denotes_minus_iff, Magnitude]
  next digits nonempty signed =>
    rw [signed, denotes_plus_iff, readMagnitude_map_ok_iff nonempty]
    constructor
    · rintro ⟨n, magnitude, rfl, bounded⟩
      exact ⟨⟨n, magnitude, rfl⟩, by simp only [Int.ofNat_eq_natCast]; omega⟩
    · rintro ⟨⟨n, magnitude, rfl⟩, bounded⟩
      exact ⟨n, magnitude, rfl, by omega⟩
  next digits nonempty signed =>
    rw [signed, denotes_minus_iff, readMagnitude_map_ok_iff nonempty]
    constructor
    · rintro ⟨n, magnitude, rfl, bounded⟩
      exact ⟨⟨n, magnitude, rfl⟩, by simp only [Int.ofNat_eq_natCast]; omega⟩
    · rintro ⟨⟨n, magnitude, rfl⟩, bounded⟩
      exact ⟨n, magnitude, rfl, by omega⟩
  next nonempty _ _ noPlus noMinus =>
    rw [denotes_plain_iff noPlus noMinus, readMagnitude_map_ok_iff nonempty]
    constructor
    · rintro ⟨n, magnitude, rfl, bounded⟩
      exact ⟨⟨n, magnitude, rfl⟩, by simp only [Int.ofNat_eq_natCast]; omega⟩
    · rintro ⟨⟨n, magnitude, rfl⟩, bounded⟩
      exact ⟨n, magnitude, rfl, by omega⟩

/-- The text of a whole number denotes it. -/
theorem denotes_toString (z : ℤ) : Denotes (toString z).toList z := by
  have magnitude (n : ℕ) : Magnitude n.repr.toList n := by
    rw [Nat.toList_repr]
    exact ⟨Nat.toDigits_ne_nil, fun c => Nat.isDigit_of_mem_toDigits (by decide) (by decide),
      Nat.ofDigitChars_ten_toDigits⟩
  rw [Int.toString_eq_repr, Int.repr_eq_if]
  by_cases sign : 0 ≤ z
  · have denotes := Denotes.plain (magnitude z.toNat)
    rw [Int.toNat_of_nonneg sign] at denotes
    rwa [if_pos sign]
  · have denotes := Denotes.minus (magnitude (-z).toNat)
    rw [Int.toNat_of_nonneg (by omega), Int.neg_neg] at denotes
    rwa [if_neg sign, String.toList_append]

theorem readInteger_map_ok_iff {limit : ℕ} {α : Type} {ofInt : ℤ → α} {toInt : α → ℤ} {s : String} {n : α}
    (inRange : ∀ n, -(limit + 1 : ℤ) ≤ toInt n ∧ toInt n ≤ limit) (ofInt_toInt : ∀ n, ofInt (toInt n) = n)
    (toInt_ofInt : ∀ z, -(limit + 1 : ℤ) ≤ z → z ≤ limit → toInt (ofInt z) = z) :
    (readInteger limit s).map ofInt = .ok n ↔ Denotes s.toList (toInt n) := by
  constructor
  · intro read
    obtain ⟨z, isRead, rfl⟩ := map_ok read
    obtain ⟨denotes, low, high⟩ := readInteger_ok_iff.mp isRead
    rwa [toInt_ofInt z low high]
  · intro denotes
    rw [readInteger_ok_iff.mpr ⟨denotes, inRange n⟩]
    exact congrArg Except.ok (ofInt_toInt n)

theorem readInt32_ok_iff {s : String} {n : Int32} : readInt32 s = .ok n ↔ Denotes s.toList n.toInt := by
  have limit : Nat.pow 2 31 = 2147483648 := rfl
  apply readInteger_map_ok_iff
  · intro n
    have low := n.le_toInt
    have high := n.toInt_lt
    omega
  · exact Int32.ofInt_toInt
  · intro z low high
    exact Int32.toInt_ofInt_of_le (by omega) (by omega)

-- Leading zeros do not count, and the smallest number has no positive counterpart.
example : readInt32 "-0002147483648" = .ok (-2147483648) ∧ readInt32 "+2147483648" = .error .tooLarge ∧
    readInt32 "+-1" = .error .badDigit := ⟨rfl, rfl, rfl⟩

theorem readInt64_ok_iff {s : String} {n : Int64} : readInt64 s = .ok n ↔ Denotes s.toList n.toInt := by
  have limit : Nat.pow 2 63 = 9223372036854775808 := rfl
  apply readInteger_map_ok_iff
  · intro n
    have low := n.le_toInt
    have high := n.toInt_lt
    omega
  · exact Int64.ofInt_toInt
  · intro z low high
    exact Int64.toInt_ofInt_of_le (by omega) (by omega)

end TypedExpr.Number

namespace TypedExpr.Builtin

open Number

variable {H : Type} [HostObject H]

/-- What a method does that reads machine numbers: it reads the text of every number back, accepts the numerals of
numbers in its range, and fails for every other text. -/
structure Parses {α : Type} (toInt : α → ℤ) (value : α → Value H) (method : String)
    (parse : String → Except RunError (Value H)) : Prop where
  displayed : ∀ n, parse (value n).text = .ok (value n)
  accepts : ∀ s v, parse s = .ok v ↔ ∃ n, Denotes s.toList (toInt n) ∧ v = value n
  refuses : ∀ s, (¬∃ n, Denotes s.toList (toInt n)) →
    ∃ fault : IntegerFault, parse s = .error (.nativeCall method (fault.message ++ ": \"" ++ s ++ "\""))

/-- The outcome of a call follows from what reading accepts. -/
theorem Parses.of_read {α : Type} {toInt : α → ℤ} {value : α → Value H} {method : String}
    {read : String → Except IntegerFault α} (reads : ∀ {s n}, read s = .ok n ↔ Denotes s.toList (toInt n))
    (text : ∀ n, (value n).text = toString (toInt n)) :
    Parses toInt value method fun s => (((read s).map value).mapError IntegerFault.message).mapError fun message =>
      .nativeCall method (message ++ ": \"" ++ s ++ "\"") where
  displayed n := by
    have isRead : read (value n).text = .ok n := by
      rw [reads, text]
      exact denotes_toString _
    simp only [isRead]
    rfl
  accepts s v := by
    constructor
    · intro parsed
      obtain ⟨n, isRead, rfl⟩ := map_ok (mapError_ok (mapError_ok parsed))
      exact ⟨n, reads.mp isRead, rfl⟩
    · rintro ⟨n, denotes, rfl⟩
      simp only [reads.mpr denotes]
      rfl
  refuses s absent := by
    cases result : read s with
    | error fault => exact ⟨fault, rfl⟩
    | ok n => exact absurd ⟨n, reads.mp result⟩ absent

/-- Reading an int or a long accepts exactly the numerals of numbers in the range and gives the number that the text
denotes, so the text of every number is read back. Every other text is an error of the method. -/
theorem parseNumber_exact (this : Value H) :
    Parses Int32.toInt (.int : Int32 → Value H) "Integer.parseInt" (fun s => parseNumber .int this [.string s]) ∧
      Parses Int64.toInt (.long : Int64 → Value H) "Long.parseLong" (fun s => parseNumber .long this [.string s]) :=
  ⟨.of_read readInt32_ok_iff fun _ => rfl, .of_read readInt64_ok_iff fun _ => rfl⟩

end TypedExpr.Builtin
