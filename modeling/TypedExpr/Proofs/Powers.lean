import Mathlib.Algebra.Order.Field.Power
import Mathlib.Algebra.Order.Floor.Ring
import Mathlib.Data.Rat.Floor
import TypedExpr.Operation.Arithmetic
/-!
# Powers of whole numbers

A power is computed by repeated squaring in wrapping arithmetic. The squares overflow even where the power does not, so
the loop is compared with one over exact numbers, of which it holds the remainders: a round keeps the product of the
result and the power that is left (`power_round`), hence so does the run (`powerLoop_ofInt`). A negative exponent gives
the exact quotient without its fraction (`powLong_exact`).
-/

namespace TypedExpr.Operation

/-- The whole part of a number, toward zero. -/
def truncate (q : ℚ) : ℤ := if 0 ≤ q then ⌊q⌋ else ⌈q⌉

theorem truncate_intCast (n : ℤ) : truncate n = n := by
  simp [truncate]

theorem truncate_of_abs_lt_one {q : ℚ} (small : |q| < 1) : truncate q = 0 := by
  obtain ⟨above, below⟩ := abs_lt.mp small
  unfold truncate
  split
  next positive => exact Int.floor_eq_zero_iff.mpr ⟨positive, below⟩
  next negative => exact Int.ceil_eq_zero_iff.mpr ⟨above, (not_le.mp negative).le⟩

/-- The lowest bit tells the odd numbers from the even ones. -/
theorem and_one_eq_one_iff (n : Int64) : n &&& 1 = 1 ↔ n.toInt % 2 = 1 := by
  have low : (n.toBitVec &&& 1#64).toNat = n.toBitVec.toNat % 2 := by
    rw [BitVec.toNat_and]
    exact Nat.and_one_is_mod _
  rw [← Int64.toBitVec_inj, ← BitVec.toNat_inj, Int64.toBitVec_and, Int64.toBitVec_one, low, ← Int64.toInt_toBitVec,
    BitVec.toInt_eq_toNat_cond]
  change _ = 1 ↔ _
  split <;> omega

/-- A round of the loop over exact numbers keeps the product of the result and the power that is left. -/
theorem power_round (x y : ℤ) (n : ℕ) : (if n % 2 = 1 then x * y else x) * (y * y) ^ (n / 2) = x * y ^ n := by
  conv_rhs => rw [← Nat.div_add_mod n 2, pow_add, pow_mul, pow_two]
  split
  next odd =>
    rw [odd]
    ring
  next even =>
    rw [Nat.mod_two_ne_one.mp even]
    ring

theorem zero_lt_iff_toInt (n : Int64) : 0 < n ↔ 0 < n.toInt := by
  rw [Int64.lt_iff_toInt_lt, Int64.toInt_zero]

theorem zero_le_iff_toInt (n : Int64) : 0 ≤ n ↔ 0 ≤ n.toInt := by
  rw [Int64.le_iff_toInt_le, Int64.toInt_zero]

/-- The loop on the remainders of exact numbers gives the remainder of the exact product. -/
theorem powerLoop_ofInt (x y : ℤ) (exponent : Int64) :
    powerLoop (.ofInt x) (.ofInt y) exponent = .ofInt (x * y ^ exponent.toInt.toNat) := by
  -- The exponent shrinks in every round; the exact result and the exact base change with it.
  induction left : exponent.toInt.toNat using Nat.strong_induction_on generalizing x y exponent with
  | _ n ih =>
    rw [powerLoop]
    by_cases positive : 0 < exponent
    · have bound := (zero_lt_iff_toInt exponent).mp positive
      have halved : (exponent >>> 1).toInt.toNat = n / 2 := by
        rw [toInt_shiftRight_one]
        omega
      have odd : exponent &&& 1 = 1 ↔ n % 2 = 1 := by
        rw [and_one_eq_one_iff]
        omega
      have result : (if exponent &&& 1 = 1 then Int64.ofInt x * .ofInt y else .ofInt x) =
          .ofInt (if n % 2 = 1 then x * y else x) := by
        rw [apply_ite Int64.ofInt, Int64.ofInt_mul]
        simp only [odd]
      rw [if_pos positive, result, ← Int64.ofInt_mul, ih (n / 2) (by omega) _ _ _ halved, power_round]
    · have bound := (zero_lt_iff_toInt exponent).not.mp positive
      obtain rfl : n = 0 := by omega
      rw [if_neg positive, pow_zero, mul_one]

/-- A negative power of a base other than one and minus one has no whole part. -/
theorem truncate_zpow_of_lt {base exponent : ℤ} (large : 1 < |base|) (negative : exponent < 0) :
    truncate ((base : ℚ) ^ exponent) = 0 := by
  apply truncate_of_abs_lt_one
  rw [abs_zpow]
  exact zpow_lt_one_of_neg₀ (by exact_mod_cast large) negative

theorem truncate_neg_one_zpow (exponent : Int64) :
    truncate ((-1 : ℚ) ^ exponent.toInt) = (if exponent % 2 = 0 then 1 else -1 : Int64).toInt := by
  have parity : exponent % 2 = 0 ↔ Even exponent.toInt := by
    rw [← Int64.toInt_inj, Int64.toInt_mod, Int64.toInt_zero, even_iff_two_dvd]
    exact Int.dvd_iff_tmod_eq_zero.symm
  by_cases even : Even exponent.toInt
  · rw [even.neg_one_zpow, if_pos (parity.mpr even)]
    exact truncate_intCast 1
  · rw [(Int.not_even_iff_odd.mp even).neg_one_zpow, if_neg (parity.not.mpr even)]
    exact truncate_intCast (-1)

/-- The quotient of a power with a negative exponent. -/
theorem powLong_of_neg {base exponent : Int64} (negative : exponent.toInt < 0) (nonzero : base ≠ 0) :
    ∃ power, powLong base exponent = .ok power ∧ power.toInt = truncate ((base.toInt : ℚ) ^ exponent.toInt) := by
  have below : ¬ 0 ≤ exponent := by
    rw [zero_le_iff_toInt]
    omega
  simp only [powLong, if_neg below, if_neg nonzero]
  by_cases one : base = 1
  · subst one
    refine ⟨1, if_pos rfl, ?_⟩
    simpa using (truncate_intCast 1).symm
  by_cases minusOne : base = -1
  · subst minusOne
    refine ⟨_, by rw [if_neg one, if_pos rfl], ?_⟩
    simpa using (truncate_neg_one_zpow exponent).symm
  · have large : 1 < |base.toInt| := by
      have apart (n : Int64) (other : base ≠ n) : base.toInt ≠ n.toInt := fun same => other (Int64.toInt_inj.mp same)
      have h0 : base.toInt ≠ 0 := apart 0 nonzero
      have h1 : base.toInt ≠ 1 := apart 1 one
      have h2 : base.toInt ≠ -1 := apart (-1) minusOne
      rw [lt_abs]
      omega
    refine ⟨0, by rw [if_neg one, if_neg minusOne], ?_⟩
    rw [truncate_zpow_of_lt large negative, Int64.toInt_zero]

/-- The exact power, wrapped around, for exponents from zero on. Below zero only a power of zero fails, and all others
are the exact quotient without its fraction. -/
theorem powLong_exact (base exponent : Int64) :
    (0 ≤ exponent.toInt → ∃ power, powLong base exponent = .ok power ∧
      power.toInt = (base.toInt ^ exponent.toInt.toNat).bmod (2 ^ 64)) ∧
    (exponent.toInt < 0 → (powLong base exponent = .error .divisionByZero ↔ base = 0) ∧
      (base ≠ 0 → ∃ power, powLong base exponent = .ok power ∧
        power.toInt = truncate ((base.toInt : ℚ) ^ exponent.toInt))) := by
  refine ⟨?_, ?_⟩
  · intro positive
    refine ⟨powerLoop 1 base exponent, if_pos ((zero_le_iff_toInt exponent).mpr positive), ?_⟩
    have power := powerLoop_ofInt 1 base.toInt exponent
    rw [Int64.ofInt_toInt, one_mul] at power
    exact (congrArg Int64.toInt power).trans Int64.toInt_ofInt
  · intro negative
    refine ⟨⟨?_, ?_⟩, powLong_of_neg negative⟩
    · intro failed
      by_contra nonzero
      obtain ⟨power, succeeded, _⟩ := powLong_of_neg negative nonzero
      rw [succeeded] at failed
      cases failed
    · rintro rfl
      have below : ¬ 0 ≤ exponent := by
        rw [zero_le_iff_toInt]
        omega
      rw [powLong, if_neg below, if_pos rfl]

/-- The power fits a long although the last square of the loop does not; a power of minus one and one of zero with
the least exponent. -/
theorem powLong_exact_three :
    (∃ power, powLong 3 39 = .ok power ∧ power.toInt = ((3 : ℤ) ^ 39).bmod (2 ^ 64)) ∧
    (∃ power, powLong (-1) Int64.minValue = .ok power ∧
      power.toInt = truncate (((-1 : Int64).toInt : ℚ) ^ Int64.minValue.toInt)) ∧
    powLong 0 Int64.minValue = .error .divisionByZero :=
  ⟨(powLong_exact 3 39).1 (by decide), ((powLong_exact (-1) Int64.minValue).2 (by decide)).2 (by decide),
    ((powLong_exact 0 Int64.minValue).2 (by decide)).1.mpr rfl⟩

end TypedExpr.Operation
