import TypedExpr.Host.Record
import TypedExpr.Number.Floating
import TypedExpr.Proofs.ShortestDecimals
import TypedExpr.Value.Text
/-!
# Fractions in the texts of floating-point values

The text of a finite floating-point value shows a fraction exactly if the value is below `10 ^ 16`. A whole number below
gets a zero after the point. The shortest decimal of any other one has places after the point, since no whole number is
as near. From `10 ^ 16` on, the seventeen digits of a shortest decimal all stand before the point.
-/

namespace TypedExpr.Number

/-- A point followed by a digit. -/
def ShowsFraction (s : String) : Prop :=
  ∃ before digit after, s.toList = before ++ '.' :: digit :: after ∧ digit.isDigit = true

theorem not_showsFraction {s : String} (free : '.' ∉ s.toList) : ¬ ShowsFraction s := by
  rintro ⟨before, digit, after, split, -⟩
  exact free (split ▸ by simp)

theorem ShowsFraction.append {s : String} (shows : ShowsFraction s) (sign : String) : ShowsFraction (sign ++ s) := by
  obtain ⟨before, digit, after, split, isDigit⟩ := shows
  exact ⟨sign.toList ++ before, digit, after, by rw [String.toList_append, split, List.append_assoc], isDigit⟩

theorem isDigit_of_mem_digits {n : ℕ} {c : Char} (member : c ∈ Nat.toDigits 10 n) : c.isDigit = true :=
  Nat.isDigit_of_mem_toDigits (by decide) (by decide) member

namespace Decimal

theorem point_notMem_positional {d : Decimal} (whole : 0 ≤ d.exponent) : '.' ∉ d.positional.toList := by
  obtain ⟨digits, e⟩ := d
  cases e with
  | ofNat e =>
    rw [positional, String.toList_ofList, List.mem_append, List.mem_replicate]
    rintro (member | ⟨-, zero⟩)
    · exact absurd (isDigit_of_mem_digits member) (by decide)
    · exact absurd zero (by decide)
  | negSucc e => exact absurd whole (by simp)

theorem positional_showsFraction {d : Decimal} (places : d.exponent < 0) : ShowsFraction d.positional := by
  obtain ⟨digits, e⟩ := d
  cases e with
  | ofNat e => exact absurd places (by simp)
  | negSucc e =>
    let padded := List.replicate (e + 1 + 1 - (Nat.toDigits 10 digits).length) '0' ++ Nat.toDigits 10 digits
    have digit : ∀ c ∈ padded, c.isDigit = true := by
      intro c member
      rcases List.mem_append.mp member with zero | member
      · rw [List.eq_of_mem_replicate zero]
        decide
      · exact isDigit_of_mem_digits member
    have long : e + 1 < padded.length := by
      simp only [padded, List.length_append, List.length_replicate]
      omega
    cases after : padded.drop (padded.length - (e + 1)) with
    | nil =>
      rw [List.drop_eq_nil_iff] at after
      omega
    | cons c rest =>
      refine ⟨padded.take (padded.length - (e + 1)), c, rest, ?_, digit c ?_⟩
      · rw [← after]
        exact String.toList_ofList
      · exact List.mem_of_mem_drop (after ▸ List.mem_cons_self)

theorem value_whole {d : Decimal} (whole : 0 ≤ d.exponent) : ∃ n : ℕ, d.value = n := by
  obtain ⟨digits, e⟩ := d
  cases e with
  | ofNat e => exact ⟨digits * 10 ^ e, by simp [value]⟩
  | negSucc e => exact absurd whole (by simp)

end Decimal

/-- A dyadic number is whole if a whole number is within half of its last bit. -/
theorem whole_of_near {m n : ℕ} {e : ℤ} (near : |(n : ℚ) - m * 2 ^ e| ≤ 2 ^ e / 2) : ∃ k : ℕ, (m * 2 ^ e : ℚ) = k := by
  cases e with
  | ofNat e => exact ⟨m * 2 ^ e, by simp⟩
  | negSucc e =>
    have power : (0 : ℚ) < 2 ^ (e + 1) := by positivity
    rw [zpow_negSucc] at near ⊢
    have scaled : (n : ℚ) - m * (2 ^ (e + 1))⁻¹ = ((n * 2 ^ (e + 1) - m : ℤ) : ℚ) * (2 ^ (e + 1))⁻¹ := by
      push_cast
      field_simp
    rw [scaled, abs_mul, abs_of_pos (inv_pos.mpr power), div_eq_inv_mul] at near
    have less : |((n * 2 ^ (e + 1) - m : ℤ) : ℚ)| < 1 :=
      (le_of_mul_le_mul_right near (inv_pos.mpr power)).trans_lt (by norm_num)
    have same : (n * 2 ^ (e + 1) - m : ℤ) = 0 := Int.abs_lt_one_iff.mp (by exact_mod_cast less)
    refine ⟨n, ?_⟩
    rw [same, Int.cast_zero, zero_mul, sub_eq_zero] at scaled
    exact scaled.symm

theorem eq_natCast_iff_fraction (m n : ℕ) (e : ℤ) :
    (m * 2 ^ e : ℚ) = n ↔ (scaleFraction m 1 e).1 = n * (scaleFraction m 1 e).2 := by
  have positive : (0 : ℚ) < (scaleFraction m 1 e).2 := by exact_mod_cast scaleFraction_pos (by decide) e
  have quotient := scaleFraction_div m 1 e
  rw [Nat.cast_one, div_one] at quotient
  rw [← quotient, div_eq_iff positive.ne']
  exact_mod_cast Iff.rfl

/-- The numbers that get a zero after the point. -/
theorem small_whole_iff (m : ℕ) (e : ℤ) :
    (scaleFraction m 1 e).1 % (scaleFraction m 1 e).2 = 0 ∧
        (scaleFraction m 1 e).1 / (scaleFraction m 1 e).2 < Nat.pow 10 16 ↔
      ∃ n : ℕ, (m * 2 ^ e : ℚ) = n ∧ n < 10 ^ 16 := by
  have positive : 0 < (scaleFraction m 1 e).2 := scaleFraction_pos (by decide) e
  constructor
  · rintro ⟨whole, small⟩
    exact ⟨_, (eq_natCast_iff_fraction m _ e).mpr (Nat.div_mul_cancel (Nat.dvd_of_mod_eq_zero whole)).symm, small⟩
  · rintro ⟨n, whole, small⟩
    rw [eq_natCast_iff_fraction] at whole
    rw [whole, Nat.mul_mod_left, Nat.mul_div_cancel _ positive]
    exact ⟨rfl, small⟩

/-! ### Numbers of a format -/

/-- Formats whose numbers are among those of the double format. -/
structure Format.Narrow (f : Format) : Prop where
  unit : f.unit ≤ 2 ^ 52
  exponents : 2 ≤ f.topExponent
  least : -1074 ≤ f.leastExponent
  greatest : f.leastExponent + f.topExponent ≤ 973

namespace Format

theorem single_narrow : single.Narrow := ⟨by decide, by decide, by decide, by decide⟩

theorem double_narrow : double.Narrow := ⟨by decide, by decide, by decide, by decide⟩

variable {f : Format} {bits m : ℕ} {negative : Bool} {e : ℤ}

/-- Finite numbers have at most 53 bits, between the least exponent and the greatest. -/
theorem Narrow.decode_finite (narrow : f.Narrow) (finite : f.decode bits = .finite negative m e) :
    m < 2 ^ 53 ∧ -1074 ≤ e ∧ e ≤ 971 := by
  obtain ⟨unit, exponents, least, greatest⟩ := narrow
  have fraction : bits % f.unit < f.unit := Nat.mod_lt _ (Nat.pow_pos (by decide))
  have field : bits / f.unit % Nat.pow 2 f.exponentBits < f.topExponent + 1 := by
    have positive : 0 < Nat.pow 2 f.exponentBits := Nat.pow_pos (by decide)
    rw [topExponent, Nat.sub_add_cancel positive]
    exact Nat.mod_lt _ positive
  unfold decode at finite
  simp only at finite
  split at finite
  next => split at finite <;> cases finite
  next top =>
    split at finite
    next =>
      cases finite
      omega
    next =>
      cases finite
      omega

theorem Narrow.decode_range (narrow : f.Narrow) (finite : f.decode bits = .finite negative m e) (positive : 0 < m) :
    (2 : ℚ) ^ (-1074 : ℤ) ≤ m * 2 ^ e ∧ (m * 2 ^ e : ℚ) < 2 ^ (1024 : ℤ) := by
  obtain ⟨few, low, high⟩ := narrow.decode_finite finite
  have one : (1 : ℚ) ≤ m := by exact_mod_cast positive
  have power : (0 : ℚ) < 2 ^ e := by positivity
  constructor
  · calc (2 : ℚ) ^ (-1074 : ℤ) ≤ 2 ^ e := zpow_le_zpow_right₀ (by norm_num) low
      _ ≤ m * 2 ^ e := le_mul_of_one_le_left power.le one
  · calc (m * 2 ^ e : ℚ) < 2 ^ 53 * 2 ^ e := by gcongr; exact_mod_cast few
      _ = 2 ^ (53 + e) := by rw [zpow_add₀ (by norm_num)]; rfl
      _ ≤ 2 ^ (1024 : ℤ) := zpow_le_zpow_right₀ (by norm_num) (by omega)

end Format

/-! ### Texts -/

namespace Datum

/-- The absolute value of a finite number. -/
def magnitude? : Datum → Option ℚ
  | .finite _ significand exponent => some (significand * 2 ^ exponent)
  | _ => none

theorem text_finite (f : Format) (negative : Bool) (m : ℕ) (e : ℤ) :
    text f (.finite negative m e) =
      if (scaleFraction m 1 e).1 % (scaleFraction m 1 e).2 = 0 ∧
          (scaleFraction m 1 e).1 / (scaleFraction m 1 e).2 < Nat.pow 10 16 then
        (if negative then "-" else "") ++ toString ((scaleFraction m 1 e).1 / (scaleFraction m 1 e).2) ++ ".0"
      else (if negative then "-" else "") ++ (f.shortest m e).positional := rfl

theorem signed_showsFraction_iff (negative : Bool) (d : Decimal) :
    ShowsFraction ((if negative then "-" else "") ++ d.positional) ↔ d.exponent < 0 := by
  constructor
  · intro shows
    by_contra whole
    have free := Decimal.point_notMem_positional (not_lt.mp whole)
    refine not_showsFraction ?_ shows
    cases negative <;> simpa using free
  · exact fun places => (Decimal.positional_showsFraction places).append _

theorem text_showsFraction {f : Format} (narrow : f.Narrow) {bits : ℕ} {q : ℚ}
    (finite : (f.decode bits).magnitude? = some q) : ShowsFraction ((f.decode bits).text f) ↔ q < 10 ^ 16 := by
  cases decoded : f.decode bits with
  | nan => rw [decoded] at finite; cases finite
  | infinity => rw [decoded] at finite; cases finite
  | finite negative m e =>
    rw [decoded] at finite
    cases finite
    rw [text_finite]
    split
    next small =>
      obtain ⟨n, whole, small⟩ := (small_whole_iff m e).mp small
      refine iff_of_true (ShowsFraction.append ⟨[], '0', [], rfl, rfl⟩ _) ?_
      rw [whole]
      exact_mod_cast small
    next large =>
      rw [small_whole_iff] at large
      rw [signed_showsFraction_iff]
      have positive : 0 < m := by
        refine Nat.pos_of_ne_zero fun zero => large ⟨0, ?_, by decide⟩
        rw [zero, Nat.cast_zero, zero_mul]
      obtain ⟨least, greatest⟩ := narrow.decode_range decoded positive
      obtain ⟨near, long⟩ :=
        Format.shortest_spec positive (narrow.decode_finite decoded).1 narrow.unit least greatest
      constructor
      · intro places
        exact not_le.mp fun atLeast => not_le.mpr places (long atLeast)
      · intro less
        refine not_le.mp fun noPlaces => ?_
        obtain ⟨n, value⟩ := Decimal.value_whole noPlaces
        obtain ⟨k, whole⟩ := whole_of_near (value ▸ near)
        exact large ⟨k, whole, by rw [whole] at less; exact_mod_cast less⟩

end Datum

end TypedExpr.Number

namespace TypedExpr.Value

variable {H : Type} [HostObject H]

/-- The absolute value of a finite floating-point value. -/
def magnitude? : Value H → Option ℚ
  | .float x => x.datum.magnitude?
  | .double x => x.datum.magnitude?
  | _ => none

/-- The text of a finite floating-point value shows a fraction exactly if the value is below `10 ^ 16`. -/
theorem text_showsFraction_iff {v : Value H} {q : ℚ} (finite : v.magnitude? = some q) :
    Number.ShowsFraction v.text ↔ q < 10 ^ 16 := by
  cases v with
  | float x => exact Number.Datum.text_showsFraction Number.Format.single_narrow finite
  | double x => exact Number.Datum.text_showsFraction Number.Format.double_narrow finite
  | _ => cases finite

/-- The largest double below the bound, and the least single above it. -/
theorem text_showsFraction_at_bound :
    magnitude? (.double ⟨0x4341c37937e07fff⟩ : Value Record) = some 9999999999999998 ∧
      Number.ShowsFraction (text (.double ⟨0x4341c37937e07fff⟩ : Value Record)) ∧
      magnitude? (.float ⟨0x5a0e1bca⟩ : Value Record) = some 10000000272564224 ∧
      ¬ Number.ShowsFraction (text (.float ⟨0x5a0e1bca⟩ : Value Record)) := by
  have below : magnitude? (.double ⟨0x4341c37937e07fff⟩ : Value Record) = some 9999999999999998 := by
    decide +kernel
  have above : magnitude? (.float ⟨0x5a0e1bca⟩ : Value Record) = some 10000000272564224 := by
    decide +kernel
  refine ⟨below, (text_showsFraction_iff below).mpr (by norm_num), above, fun shows => ?_⟩
  exact absurd ((text_showsFraction_iff above).mp shows) (by norm_num)

/-- A whole number of seventeen digits is written without a point. -/
theorem tenQuadrillion_no_fraction :
    magnitude? (.double ⟨0x4341c37937e08000⟩ : Value Record) = some (10 ^ 16) ∧
      ¬ Number.ShowsFraction (text (.double ⟨0x4341c37937e08000⟩ : Value Record)) := by
  have digits : text (.double ⟨0x4341c37937e08000⟩ : Value Record) = "10000000000000000" := by decide +kernel
  refine ⟨by decide +kernel, ?_⟩
  rw [digits]
  exact Number.not_showsFraction (by decide)

end TypedExpr.Value
