import Mathlib.Algebra.Order.Field.Power
import Mathlib.Data.Rat.Cast.Order
import Mathlib.Tactic.FieldSimp
import Mathlib.Tactic.Linarith
import Mathlib.Tactic.NormNum
import Mathlib.Tactic.Positivity
import Mathlib.Tactic.Ring
import TypedExpr.Number.Shortest
/-!
# How near shortest decimals are

The search for the shortest decimal of a number starts at the place of its first digit, which it guesses from the
logarithms of a fraction, and ends with at most seventeen digits: decimals with that many are denser than the numbers of
a format with up to 53 bits. So the decimal lies within half the distance to the next number, and it has no places after
the point if the number has seventeen digits before it (`Format.shortest_spec`).
-/

namespace TypedExpr.Number

theorem scaleFraction_div (num den : ℕ) (e : ℤ) :
    ((scaleFraction num den e).1 : ℚ) / (scaleFraction num den e).2 = num / den * 2 ^ e := by
  cases e with
  | ofNat e =>
    simp only [scaleFraction, Nat.pow_eq, Int.ofNat_eq_natCast, zpow_natCast]
    push_cast
    ring
  | negSucc e =>
    simp only [scaleFraction, Nat.pow_eq, zpow_negSucc]
    push_cast
    rw [div_mul_eq_div_div, div_eq_mul_inv _ ((2 : ℚ) ^ (e + 1))]

theorem scaleFraction_pos {num den : ℕ} (positive : 0 < den) (e : ℤ) : 0 < (scaleFraction num den e).2 := by
  cases e with
  | ofNat e => exact positive
  | negSucc e => exact Nat.mul_pos positive (Nat.pow_pos (by decide))

/-! ### The place of the first digit -/

/-- Whether a power of ten is at most `num / den`. -/
def reaches (num den : ℕ) : ℤ → Bool
  | .ofNat e => 10 ^ e * den ≤ num
  | .negSucc e => den ≤ num * 10 ^ (e + 1)

theorem reaches_iff {num den : ℕ} (positive : 0 < den) (e : ℤ) :
    reaches num den e = true ↔ (10 : ℚ) ^ e ≤ num / den := by
  have positive : (0 : ℚ) < den := by exact_mod_cast positive
  rw [le_div_iff₀ positive]
  cases e with
  | ofNat e =>
    simp only [reaches, decide_eq_true_eq, Int.ofNat_eq_natCast, zpow_natCast]
    exact_mod_cast Iff.rfl
  | negSucc e =>
    simp only [reaches, decide_eq_true_eq, zpow_negSucc]
    rw [inv_mul_le_iff₀ (by positivity), mul_comm]
    exact_mod_cast Iff.rfl

theorem decimalExponent_succ (num den steps : ℕ) (guess : ℤ) :
    decimalExponent num den (steps + 1) guess =
      if reaches num den guess then guess else decimalExponent num den steps (guess - 1) := by
  cases guess <;> rfl

/-- The search finds the exponent if it starts above it and not too far. -/
theorem decimalExponent_spec {num den : ℕ} (positive : 0 < den) {steps : ℕ} {guess : ℤ}
    (low : (10 : ℚ) ^ (guess - steps) ≤ num / den) (high : (num / den : ℚ) < 10 ^ (guess + 1)) :
    (10 : ℚ) ^ decimalExponent num den steps guess ≤ num / den ∧
      (num / den : ℚ) < 10 ^ (decimalExponent num den steps guess + 1) := by
  induction steps generalizing guess with
  | zero =>
    rw [Nat.cast_zero, sub_zero] at low
    exact ⟨low, high⟩
  | succ steps ih =>
    rw [decimalExponent_succ]
    split
    next reached => exact ⟨(reaches_iff positive guess).mp reached, high⟩
    next missed =>
      rw [reaches_iff positive, not_le] at missed
      apply ih
      · rwa [show guess - 1 - steps = guess - (steps + 1 : ℕ) by push_cast; ring]
      · rwa [sub_add_cancel]

/-- Whether the guess for numbers between the powers of two around `2 ^ k` lies above the exponent and not too far. -/
def guessFits (k : ℤ) : Bool :=
  reaches (2 ^ (k - 1).toNat) (2 ^ (-(k - 1)).toNat) (k * 30103 / 100000 + 1 - 4) &&
    !reaches (2 ^ (k + 1).toNat) (2 ^ (-(k + 1)).toNat) (k * 30103 / 100000 + 1 + 1)

/-- The factor of the guess is only near to the logarithm of two, so the exponents of the formats are gone through. -/
theorem guessFits_all : ∀ i ∈ List.range 2201, guessFits (i - 1100) = true := by decide +kernel

theorem two_zpow_eq_div (k : ℤ) : (((2 ^ k.toNat : ℕ) : ℚ) / (2 ^ (-k).toNat : ℕ)) = 2 ^ k := by
  push_cast
  rw [← zpow_natCast, ← zpow_natCast, ← zpow_sub₀ (by norm_num)]
  congr 1
  omega

theorem guess_bounds {k : ℤ} (low : -1100 ≤ k) (high : k ≤ 1100) :
    (10 : ℚ) ^ (k * 30103 / 100000 + 1 - 4) ≤ 2 ^ (k - 1) ∧ (2 : ℚ) ^ (k + 1) < 10 ^ (k * 30103 / 100000 + 1 + 1) := by
  have listed : (k + 1100).toNat ∈ List.range 2201 := List.mem_range.mpr (by omega)
  have fits := guessFits_all _ listed
  rw [show ((k + 1100).toNat : ℤ) - 1100 = k by omega, guessFits, Bool.and_eq_true, Bool.not_eq_true',
    ← Bool.not_eq_true, reaches_iff (Nat.pow_pos (by decide)), reaches_iff (Nat.pow_pos (by decide)),
    two_zpow_eq_div, two_zpow_eq_div, not_le] at fits
  exact fits

theorem log2_bounds {n : ℕ} (positive : 0 < n) : (2 : ℚ) ^ (n.log2 : ℤ) ≤ n ∧ (n : ℚ) < 2 ^ (n.log2 + 1 : ℤ) := by
  constructor
  · rw [zpow_natCast]
    exact_mod_cast Nat.log2_self_le positive.ne'
  · have above : n < 2 ^ (n.log2 + 1) := Nat.lt_log2_self
    have cast : ((n.log2 + 1 : ℕ) : ℤ) = n.log2 + 1 := by push_cast; rfl
    rw [← cast, zpow_natCast]
    exact_mod_cast above

theorem quotient_log2_bounds {num den : ℕ} (positive : 0 < num) (positive' : 0 < den) :
    (2 : ℚ) ^ ((num.log2 : ℤ) - den.log2 - 1) < num / den ∧ (num / den : ℚ) < 2 ^ ((num.log2 : ℤ) - den.log2 + 1) := by
  obtain ⟨low, high⟩ := log2_bounds positive
  obtain ⟨low', high'⟩ := log2_bounds positive'
  have cast : (0 : ℚ) < den := by exact_mod_cast positive'
  constructor
  · rw [lt_div_iff₀ cast]
    calc (2 : ℚ) ^ ((num.log2 : ℤ) - den.log2 - 1) * den
        < 2 ^ ((num.log2 : ℤ) - den.log2 - 1) * 2 ^ (den.log2 + 1 : ℤ) := by gcongr
      _ = 2 ^ (num.log2 : ℤ) := by
        rw [← zpow_add₀ (by norm_num)]
        congr 1
        ring
      _ ≤ num := low
  · rw [div_lt_iff₀ cast]
    calc (num : ℚ) < 2 ^ (num.log2 + 1 : ℤ) := high
      _ = 2 ^ ((num.log2 : ℤ) - den.log2 + 1) * 2 ^ (den.log2 : ℤ) := by
        rw [← zpow_add₀ (by norm_num)]
        congr 1
        ring
      _ ≤ 2 ^ ((num.log2 : ℤ) - den.log2 + 1) * den := by gcongr

/-- The exponent of a number in the range of the formats is found from the guess. -/
theorem decimalExponent_guess {num den : ℕ} (positive : 0 < num) (positive' : 0 < den)
    (low : (2 : ℚ) ^ (-1074 : ℤ) ≤ num / den) (high : (num / den : ℚ) < 2 ^ (1024 : ℤ)) :
    ∃ r : ℤ, decimalExponent num den 4 (((num.log2 : ℤ) - den.log2) * 30103 / 100000 + 1) = r ∧
      (10 : ℚ) ^ r ≤ num / den ∧ (num / den : ℚ) < 10 ^ (r + 1) := by
  obtain ⟨above, below⟩ := quotient_log2_bounds positive positive'
  generalize (num.log2 : ℤ) - den.log2 = k at above below ⊢
  have largest : k - 1 < 1024 := (zpow_lt_zpow_iff_right₀ (by norm_num)).mp (above.trans high)
  have smallest : -1074 < k + 1 := (zpow_lt_zpow_iff_right₀ (by norm_num)).mp (low.trans_lt below)
  obtain ⟨first, second⟩ := guess_bounds (k := k) (by omega) (by omega)
  refine ⟨_, rfl, decimalExponent_spec positive' ?_ (below.trans second)⟩
  exact first.trans above.le

/-! ### The search for digits -/

/-- The number that a decimal stands for. -/
def Decimal.value (d : Decimal) : ℚ := d.digits * 10 ^ d.exponent

/-- A denominator and a numerator of a power of ten. -/
def tenFraction : ℤ → ℕ × ℕ
  | .ofNat e => (1, 10 ^ e)
  | .negSucc e => (10 ^ (e + 1), 1)

theorem tenFraction_pos (e : ℤ) : 0 < (tenFraction e).1 ∧ 0 < (tenFraction e).2 := by
  cases e <;> simp [tenFraction]

theorem tenFraction_div (e : ℤ) : ((tenFraction e).2 : ℚ) / (tenFraction e).1 = 10 ^ e := by
  cases e <;> simp [tenFraction, zpow_negSucc]

/-- The interval as it is compared with the multiples of a power of ten. -/
def gridInterval (den low high : ℕ) (closed : Bool) (e : ℤ) : Interval :=
  ⟨low * (tenFraction e).1, high * (tenFraction e).1, den * (tenFraction e).2, closed⟩

/-- The multiple of a power of ten that is nearest to `num / den`. -/
def nearestMultiple (num den : ℕ) (e : ℤ) : ℕ :=
  let below := num * (tenFraction e).1 / (den * (tenFraction e).2)
  if 2 * (num * (tenFraction e).1 % (den * (tenFraction e).2)) < den * (tenFraction e).2 then below else below + 1

/-- The multiple of a power of ten on the other side of `num / den`. -/
def otherMultiple (num den : ℕ) (e : ℤ) : ℕ :=
  let below := num * (tenFraction e).1 / (den * (tenFraction e).2)
  if 2 * (num * (tenFraction e).1 % (den * (tenFraction e).2)) < den * (tenFraction e).2 then below + 1 else below

theorem shortestFrom_succ (num den low high : ℕ) (closed : Bool) (magnitude : ℤ) (steps digits : ℕ) :
    shortestFrom num den low high closed magnitude (steps + 1) digits =
      if (gridInterval den low high closed (magnitude - digits)).contains (nearestMultiple num den (magnitude - digits))
      then ⟨nearestMultiple num den (magnitude - digits), magnitude - digits⟩
      else if (gridInterval den low high closed (magnitude - digits)).contains
          (otherMultiple num den (magnitude - digits))
      then ⟨otherMultiple num den (magnitude - digits), magnitude - digits⟩
      else shortestFrom num den low high closed magnitude steps (digits + 1) := rfl

/-- Of the whole numbers around a fraction, the nearer one is at most one half away. -/
theorem nearer_close (n : ℕ) {d : ℕ} (positive : 0 < d) :
    |((if 2 * (n % d) < d then n / d else n / d + 1 : ℕ) : ℚ) - n / d| ≤ 1 / 2 := by
  have cast : (0 : ℚ) < d := by exact_mod_cast positive
  have division : (n / d : ℚ) = (n / d : ℕ) + (n % d : ℕ) / d := by
    rw [eq_comm, add_div_eq_mul_add_div _ _ cast.ne']
    congr 1
    exact_mod_cast Nat.div_add_mod' n d
  have small : ((n % d : ℕ) : ℚ) / d < 1 := (div_lt_one cast).mpr (by exact_mod_cast Nat.mod_lt n positive)
  have natural : (0 : ℚ) ≤ ((n % d : ℕ) : ℚ) / d := by positivity
  rw [division, abs_le]
  split
  next near =>
    have half : ((n % d : ℕ) : ℚ) / d < 1 / 2 := by
      have doubled : ((2 * (n % d) : ℕ) : ℚ) < d := by exact_mod_cast near
      push_cast at doubled
      rw [div_lt_div_iff₀ cast (by norm_num)]
      linarith
    constructor <;> linarith
  next far =>
    have half : (1 / 2 : ℚ) ≤ ((n % d : ℕ) : ℚ) / d := by
      have doubled : (d : ℚ) ≤ ((2 * (n % d) : ℕ) : ℚ) := by exact_mod_cast not_lt.mp far
      push_cast at doubled
      rw [div_le_div_iff₀ (by norm_num) cast]
      linarith
    push_cast
    constructor <;> linarith

section Grid

variable {den : ℕ} (positive : 0 < den)

include positive

theorem grid_le_iff (e : ℤ) (n m : ℕ) :
    n * (tenFraction e).1 ≤ m * (den * (tenFraction e).2) ↔ (n / den : ℚ) ≤ m * 10 ^ e := by
  obtain ⟨up, down⟩ := tenFraction_pos e
  rw [← tenFraction_div, div_le_iff₀ (by exact_mod_cast positive), mul_div_assoc', div_mul_eq_mul_div,
    le_div_iff₀ (by exact_mod_cast up), mul_assoc, mul_comm ((tenFraction e).2 : ℚ)]
  exact_mod_cast Iff.rfl

theorem le_grid_iff (e : ℤ) (n m : ℕ) :
    m * (den * (tenFraction e).2) ≤ n * (tenFraction e).1 ↔ (m * 10 ^ e : ℚ) ≤ n / den := by
  obtain ⟨up, down⟩ := tenFraction_pos e
  rw [← tenFraction_div, le_div_iff₀ (by exact_mod_cast positive), mul_div_assoc', div_mul_eq_mul_div,
    div_le_iff₀ (by exact_mod_cast up), mul_assoc, mul_comm ((tenFraction e).2 : ℚ)]
  exact_mod_cast Iff.rfl

theorem between_of_contains {low high n : ℕ} {closed : Bool} {e : ℤ}
    (inside : (gridInterval den low high closed e).contains n = true) :
    (low / den : ℚ) ≤ n * 10 ^ e ∧ (n * 10 ^ e : ℚ) ≤ high / den := by
  rw [← grid_le_iff positive, ← le_grid_iff positive]
  cases closed with
  | false =>
    simp only [Interval.contains, gridInterval, Bool.false_eq_true, if_false, Bool.and_eq_true] at inside
    exact ⟨(of_decide_eq_true inside.1).le, (of_decide_eq_true inside.2).le⟩
  | true =>
    simp only [Interval.contains, gridInterval, if_true, Bool.and_eq_true] at inside
    exact ⟨of_decide_eq_true inside.1, of_decide_eq_true inside.2⟩

theorem contains_of_between {low high n : ℕ} (closed : Bool) {e : ℤ} (above : (low / den : ℚ) < n * 10 ^ e)
    (below : (n * 10 ^ e : ℚ) < high / den) : (gridInterval den low high closed e).contains n = true := by
  rw [← not_le, ← le_grid_iff positive, not_le] at above
  rw [← not_le, ← grid_le_iff positive, not_le] at below
  cases closed
  · simp [Interval.contains, gridInterval, above, below]
  · simp [Interval.contains, gridInterval, above.le, below.le]

theorem nearestMultiple_close (num : ℕ) (e : ℤ) :
    |(nearestMultiple num den e * 10 ^ e : ℚ) - num / den| ≤ 10 ^ e / 2 := by
  obtain ⟨up, down⟩ := tenFraction_pos e
  have cast : (0 : ℚ) < den := by exact_mod_cast positive
  have castUp : (0 : ℚ) < (tenFraction e).1 := by exact_mod_cast up
  have castDown : (0 : ℚ) < (tenFraction e).2 := by exact_mod_cast down
  have scaled : (num / den : ℚ) = (num * (tenFraction e).1 : ℕ) / (den * (tenFraction e).2 : ℕ) * 10 ^ e := by
    rw [← tenFraction_div]
    push_cast
    field_simp
  have power : (0 : ℚ) < 10 ^ e := by positivity
  have close := nearer_close (num * (tenFraction e).1) (Nat.mul_pos positive down)
  calc |(nearestMultiple num den e * 10 ^ e : ℚ) - num / den|
      = |(nearestMultiple num den e : ℚ) - (num * (tenFraction e).1 : ℕ) / (den * (tenFraction e).2 : ℕ)| * 10 ^ e := by
        rw [scaled, ← sub_mul, abs_mul, abs_of_pos power]
    _ ≤ 1 / 2 * 10 ^ e := mul_le_mul_of_nonneg_right close power.le
    _ = 10 ^ e / 2 := by ring

end Grid

/-- The search ends with a decimal inside the interval, at the latest with `last` digits, if the interval is wider on
both sides than half the distance of decimals with that many. -/
theorem shortestFrom_spec {num den low high : ℕ} (positive : 0 < den) (closed : Bool) {magnitude : ℤ} {last : ℕ}
    (below : (10 : ℚ) ^ (magnitude - last) / 2 < num / den - low / den)
    (above : (10 : ℚ) ^ (magnitude - last) / 2 < high / den - num / den) {steps digits : ℕ} (few : digits ≤ last)
    (enough : last < digits + steps) :
    ∃ d, shortestFrom num den low high closed magnitude steps digits = d ∧
      (low / den : ℚ) ≤ d.value ∧ d.value ≤ high / den ∧ magnitude - last ≤ d.exponent := by
  induction steps generalizing digits with
  | zero => omega
  | succ steps ih =>
    rw [shortestFrom_succ]
    split
    next found =>
      obtain ⟨first, second⟩ := between_of_contains positive found
      exact ⟨_, rfl, first, second, by simp only; omega⟩
    next missed =>
      split
      next found =>
        obtain ⟨first, second⟩ := between_of_contains positive found
        exact ⟨_, rfl, first, second, by simp only; omega⟩
      next =>
        have more : digits ≠ last := by
          rintro rfl
          obtain ⟨left, right⟩ := abs_le.mp (nearestMultiple_close positive num (magnitude - digits))
          exact missed (contains_of_between positive closed (by linarith) (by linarith))
        exact ih (by omega) (by omega)

theorem Decimal.stripZeros_spec (steps : ℕ) (d : Decimal) :
    (d.stripZeros steps).value = d.value ∧ d.exponent ≤ (d.stripZeros steps).exponent := by
  induction steps generalizing d with
  | zero => exact ⟨rfl, le_rfl⟩
  | succ steps ih =>
    rw [stripZeros]
    split
    next trailing =>
      obtain ⟨same, higher⟩ := ih ⟨d.digits / 10, d.exponent + 1⟩
      have ten : d.digits = 10 * (d.digits / 10) := by omega
      refine ⟨?_, le_trans (by simp) higher⟩
      rw [same, value, value, zpow_add_one₀ (by norm_num)]
      conv_rhs => rw [ten]
      push_cast
      ring
    next => exact ⟨rfl, le_rfl⟩

/-! ### The decimal of a number -/

/-- The fraction of a number counts in quarters of the distance to the next number. -/
theorem scaleFraction_quarters (m : ℕ) (e : ℤ) : ∃ den u, 0 < den ∧ 0 < u ∧
    scaleFraction (4 * m) 4 e = (4 * m * u, den) ∧ (u : ℚ) / den = 2 ^ e / 4 := by
  cases e with
  | ofNat e => exact ⟨4, 2 ^ e, by decide, by positivity, rfl, by simp⟩
  | negSucc e =>
    refine ⟨4 * 2 ^ (e + 1), 1, by positivity, by decide, by simp [scaleFraction], ?_⟩
    rw [zpow_negSucc]
    push_cast
    field_simp

/-- How far the rounding interval reaches below a number, in quarters of the distance to the next number above: the
numbers below a power of two are twice as dense. -/
def Format.quartersBelow (f : Format) (m : ℕ) (e : ℤ) : ℕ :=
  if m = f.unit ∧ e ≠ f.leastExponent then 1 else 2

namespace Format

variable {f : Format} {m : ℕ} {e : ℤ}

theorem shortest_of_quarters {den u : ℕ} (positive : 0 < m) (fraction : scaleFraction (4 * m) 4 e = (4 * m * u, den)) :
    f.shortest m e =
      (shortestFrom (4 * m * u) den (4 * m * u - f.quartersBelow m e * u) (4 * m * u + 2 * u) (m % 2 = 0)
        (decimalExponent (4 * m * u) den 4 ((((4 * m * u).log2 : ℤ) - den.log2) * 30103 / 100000 + 1) + 1)
        18 1).stripZeros 20 := by
  have quarter : 4 * m * u / m / 4 = u := by
    rw [mul_right_comm, Nat.mul_div_cancel _ positive, Nat.mul_div_cancel_left _ (by decide)]
  unfold shortest quartersBelow
  rw [if_neg positive.ne', fraction]
  simp only [quarter, ite_mul, one_mul]

theorem quartersBelow_le_two : f.quartersBelow m e ≤ 2 := by
  unfold quartersBelow
  split <;> decide

/-- Sixteen digits after the first are enough for 53 bits, also below a power of two. -/
theorem two_mul_lt_quartersBelow (few : m < 2 ^ 53) (unit : f.unit ≤ 2 ^ 52) :
    2 * m < f.quartersBelow m e * 10 ^ 16 := by
  unfold quartersBelow
  split
  next power => omega
  next => omega

/-- Half the distance of decimals with seventeen digits is less than the distance below a number. -/
theorem seventeen_digits {r : ℤ} (few : m < 2 ^ 53) (unit : f.unit ≤ 2 ^ 52) (lower : (10 : ℚ) ^ r ≤ m * 2 ^ e) :
    (10 : ℚ) ^ (r + 1 - (17 : ℕ)) / 2 < f.quartersBelow m e * (2 ^ e / 4) := by
  have enough : (2 * m : ℚ) < f.quartersBelow m e * 10 ^ 16 := by exact_mod_cast two_mul_lt_quartersBelow few unit
  have distance : (0 : ℚ) < 2 ^ e := by positivity
  calc (10 : ℚ) ^ (r + 1 - (17 : ℕ)) / 2
      = 10 ^ r / (2 * 10 ^ 16) := by
        rw [show r + 1 - (17 : ℕ) = r - 16 by norm_num; ring, zpow_sub₀ (by norm_num)]
        norm_num
        ring
    _ ≤ m * 2 ^ e / (2 * 10 ^ 16) := by gcongr
    _ = 2 * m * (2 ^ e / (4 * 10 ^ 16)) := by ring
    _ < f.quartersBelow m e * 10 ^ 16 * (2 ^ e / (4 * 10 ^ 16)) := by gcongr
    _ = f.quartersBelow m e * (2 ^ e / 4) := by ring

/-- The shortest decimal is within half the distance to the next number, and has at most seventeen digits. -/
theorem shortest_spec (positive : 0 < m) (few : m < 2 ^ 53) (unit : f.unit ≤ 2 ^ 52)
    (least : (2 : ℚ) ^ (-1074 : ℤ) ≤ m * 2 ^ e) (greatest : (m * 2 ^ e : ℚ) < 2 ^ (1024 : ℤ)) :
    |(f.shortest m e).value - m * 2 ^ e| ≤ 2 ^ e / 2 ∧
      ((10 : ℚ) ^ 16 ≤ m * 2 ^ e → 0 ≤ (f.shortest m e).exponent) := by
  obtain ⟨den, u, denominator, some, fraction, share⟩ := scaleFraction_quarters m e
  have worth : ((4 * m * u : ℕ) / den : ℚ) = m * 2 ^ e := by
    push_cast
    rw [mul_div_assoc, share]
    ring
  have bottom : ((4 * m * u - f.quartersBelow m e * u : ℕ) / den : ℚ) =
      m * 2 ^ e - f.quartersBelow m e * (2 ^ e / 4) := by
    have fits : f.quartersBelow m e * u ≤ 4 * m * u :=
      Nat.mul_le_mul_right u (quartersBelow_le_two.trans (by omega))
    rw [Nat.cast_sub fits, sub_div, worth, Nat.cast_mul, mul_div_assoc, share]
  have top : ((4 * m * u + 2 * u : ℕ) / den : ℚ) = m * 2 ^ e + 2 * (2 ^ e / 4) := by
    rw [Nat.cast_add, add_div, worth, Nat.cast_mul, mul_div_assoc, share, Nat.cast_ofNat]
  have distance : (0 : ℚ) < 2 ^ e := by positivity
  have gap : (f.quartersBelow m e : ℚ) * (2 ^ e / 4) ≤ 2 * (2 ^ e / 4) := by
    gcongr
    exact_mod_cast quartersBelow_le_two
  obtain ⟨r, exponent, lower, upper⟩ :=
    decimalExponent_guess (by positivity) denominator (worth ▸ least) (worth ▸ greatest)
  rw [worth] at lower upper
  have half := seventeen_digits few unit lower
  have below : (10 : ℚ) ^ (r + 1 - (17 : ℕ)) / 2 <
      (4 * m * u : ℕ) / den - (4 * m * u - f.quartersBelow m e * u : ℕ) / den := by
    rw [worth, bottom]
    linarith
  have above : (10 : ℚ) ^ (r + 1 - (17 : ℕ)) / 2 < (4 * m * u + 2 * u : ℕ) / den - (4 * m * u : ℕ) / den := by
    rw [worth, top]
    linarith
  obtain ⟨d, found, inside, inside', long⟩ := shortestFrom_spec denominator (m % 2 = 0) below above
    (show 1 ≤ 17 by decide) (show 17 < 1 + 18 by decide)
  obtain ⟨same, higher⟩ := d.stripZeros_spec 20
  rw [shortest_of_quarters positive fraction, exponent, found, same]
  rw [bottom] at inside
  rw [top] at inside'
  refine ⟨abs_le.mpr ⟨by linarith, by linarith⟩, fun large => ?_⟩
  have digits : (16 : ℤ) < r + 1 := (zpow_lt_zpow_iff_right₀ (by norm_num : (1 : ℚ) < 10)).mp (large.trans_lt upper)
  omega

end Format

end TypedExpr.Number
