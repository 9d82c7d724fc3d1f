import ExprLang.Number.Decimal
import Mathlib.Algebra.Order.Field.Power
import Mathlib.Data.Rat.Cast.Order
import Mathlib.Tactic.FieldSimp
import Mathlib.Tactic.NormNum
import Mathlib.Tactic.Positivity
import Mathlib.Tactic.Ring

/-!
# The values of decimals

A decimal stands for the rational number `Decimal.value`. Changing the scale and dropping zeros keep
the value, and `compareValue` is the order of the values (`compareValue_eq`), although it often
decides by the number of digits alone.
-/

namespace ExprLang.Number

/-- Orders are kept by functions that are strictly monotone. -/
theorem compare_map {α β : Type} [LinearOrder α] [LinearOrder β] {f : α → β} (h : StrictMono f)
    (x y : α) : compare (f x) (f y) = compare x y := by
  rw [← cmp_eq_compare, ← cmp_eq_compare]
  exact h.cmp_map_eq x y

/-- Functions that are strictly antitone turn the order round. -/
theorem compare_map_anti {α β : Type} [LinearOrder α] [LinearOrder β] {f : α → β}
    (h : StrictAnti f) (x y : α) : compare (f x) (f y) = compare y x := by
  rw [← cmp_eq_compare, ← cmp_eq_compare]
  exact h.cmp_map_eq x y

/-- A positive number lies between the powers of ten that its number of digits gives. -/
theorem pow_digitCount {n : Nat} (pos : 0 < n) :
    10 ^ (digitCount n - 1) ≤ n ∧ n < 10 ^ digitCount n := by
  have some : 0 < digitCount n := Nat.length_toDigits_pos
  refine ⟨?_, (Nat.length_toDigits_le_iff (by decide) some).mp le_rfl⟩
  by_cases one : digitCount n = 1
  · rw [one]
    exact pos
  · by_contra below
    have fewer : digitCount n ≤ digitCount n - 1 :=
      (Nat.length_toDigits_le_iff (by decide) (by omega)).mpr (Nat.lt_of_not_le below)
    omega

namespace Decimal

/-- The number that a decimal stands for. -/
def value (d : Decimal) : ℚ :=
  d.unscaled * (10 : ℚ) ^ (-d.scale)

@[simp] theorem value_ofInt (n : Int) : (ofInt n).value = n := by
  simp [value, ofInt]

theorem power_pos (k : Int) : (0 : ℚ) < 10 ^ k := by
  positivity

theorem value_eq_zero_iff {d : Decimal} : d.value = 0 ↔ d.unscaled = 0 := by
  simp [value, (power_pos _).ne']

theorem value_pos_iff {d : Decimal} : 0 < d.value ↔ 0 < d.unscaled := by
  simp [value, power_pos]

theorem value_neg_iff {d : Decimal} : d.value < 0 ↔ d.unscaled < 0 := by
  have := value_pos_iff (d := d)
  have := value_eq_zero_iff (d := d)
  grind

/-! ### Scales -/

theorem scale_raise (d : Decimal) (scale : Int) : (d.raise scale).scale = max d.scale scale := by
  unfold raise
  split
  · rename_i above
    exact (max_eq_right above.le).symm
  · rename_i notAbove
    exact (max_eq_left (not_lt.mp notAbove)).symm

@[simp] theorem value_raise (d : Decimal) (scale : Int) : (d.raise scale).value = d.value := by
  unfold raise
  split
  · rename_i above
    have exponent : ((scale - d.scale).toNat : Int) + -scale = -d.scale := by omega
    simp only [value, Nat.pow_eq]
    push_cast
    rw [mul_assoc, ← zpow_natCast, ← zpow_add₀ (by norm_num), exponent]
  · rfl

/-- Decimals of one scale are compared by their digits. -/
theorem compare_unscaled {a b : Decimal} (same : a.scale = b.scale) :
    compare a.unscaled b.unscaled = compare a.value b.value := by
  have mono : StrictMono fun n : Int => (n : ℚ) * 10 ^ (-b.scale) :=
    fun m n less => mul_lt_mul_of_pos_right (by exact_mod_cast less) (power_pos _)
  unfold value
  rw [same]
  exact (compare_map mono a.unscaled b.unscaled).symm

/-! ### Magnitudes -/

theorem abs_value (d : Decimal) : |d.value| = d.unscaled.natAbs * (10 : ℚ) ^ (-d.scale) := by
  rw [value, abs_mul, abs_of_pos (power_pos _), Nat.cast_natAbs, Int.cast_abs]

/-- The magnitude of a decimal other than zero tells between which powers of ten it lies. -/
theorem magnitude_bounds {d : Decimal} (nonzero : d.unscaled ≠ 0) :
    (10 : ℚ) ^ (d.magnitude - 1) ≤ |d.value| ∧ |d.value| < 10 ^ d.magnitude := by
  obtain ⟨low, high⟩ := pow_digitCount (Int.natAbs_pos.mpr nonzero)
  have some : 0 < digitCount d.unscaled.natAbs := Nat.length_toDigits_pos
  have first : d.magnitude - 1 = (digitCount d.unscaled.natAbs - 1 : Nat) + -d.scale := by
    unfold magnitude
    omega
  have last : d.magnitude = (digitCount d.unscaled.natAbs : Nat) + -d.scale := by
    unfold magnitude
    omega
  rw [abs_value]
  constructor
  · rw [first, zpow_add₀ (by norm_num), zpow_natCast]
    exact mul_le_mul_of_nonneg_right (by exact_mod_cast low) (power_pos _).le
  · rw [last, zpow_add₀ (by norm_num), zpow_natCast]
    exact mul_lt_mul_of_pos_right (by exact_mod_cast high) (power_pos _)

/-- Of two decimals the one with the smaller magnitude is nearer to zero. -/
theorem abs_value_lt {a b : Decimal} (nonzeroA : a.unscaled ≠ 0) (nonzeroB : b.unscaled ≠ 0)
    (less : a.magnitude < b.magnitude) : |a.value| < |b.value| :=
  calc
    |a.value| < 10 ^ a.magnitude := (magnitude_bounds nonzeroA).2
    _ ≤ 10 ^ (b.magnitude - 1) := zpow_le_zpow_right₀ (by norm_num) (by omega)
    _ ≤ |b.value| := (magnitude_bounds nonzeroB).1

theorem compare_abs_value {a b : Decimal} (nonzeroA : a.unscaled ≠ 0) (nonzeroB : b.unscaled ≠ 0)
    (differ : a.magnitude ≠ b.magnitude) :
    compare a.magnitude b.magnitude = compare |a.value| |b.value| := by
  rcases lt_or_gt_of_ne differ with less | greater
  · rw [compare_lt_iff_lt.mpr less, compare_lt_iff_lt.mpr (abs_value_lt nonzeroA nonzeroB less)]
  · rw [compare_gt_iff_gt.mpr greater,
      compare_gt_iff_gt.mpr (abs_value_lt nonzeroB nonzeroA greater)]

/-! ### The order -/

theorem compareSameSign_eq {a b : Decimal} (sign : a.unscaled.sign = b.unscaled.sign)
    (nonzero : a.unscaled ≠ 0) : a.compareSameSign b = compare a.value b.value := by
  have nonzero' : b.unscaled ≠ 0 := by
    rwa [Ne, ← Int.sign_eq_zero_iff_zero, ← sign, Int.sign_eq_zero_iff_zero]
  unfold compareSameSign
  split
  · -- digits at one scale
    have scales : (a.raise b.scale).scale = (b.raise a.scale).scale := by
      rw [scale_raise, scale_raise, max_comm]
    rw [compare_unscaled scales, value_raise, value_raise]
  · rename_i differ
    rw [← Ne.eq_def] at differ
    split
    · rename_i positive
      have positive' : 0 < b.unscaled := by
        rwa [← Int.sign_eq_one_iff_pos, ← sign, Int.sign_eq_one_iff_pos]
      rw [compare_abs_value nonzero nonzero' differ, abs_of_pos (value_pos_iff.mpr positive),
        abs_of_pos (value_pos_iff.mpr positive')]
    · rename_i notPositive
      have negative : a.unscaled < 0 := lt_of_le_of_ne (not_lt.mp notPositive) nonzero
      have negative' : b.unscaled < 0 := by
        rwa [← Int.sign_eq_neg_one_iff_neg, ← sign, Int.sign_eq_neg_one_iff_neg]
      rw [compare_abs_value nonzero' nonzero differ.symm, abs_of_neg (value_neg_iff.mpr negative),
        abs_of_neg (value_neg_iff.mpr negative')]
      exact compare_map_anti (fun x y less => neg_lt_neg less) b.value a.value

/-- A decimal of a smaller sign is less. -/
theorem value_lt_of_sign_lt {a b : Decimal} (less : a.unscaled.sign < b.unscaled.sign) :
    a.value < b.value := by
  rcases lt_or_ge a.unscaled 0 with negative | notNegative
  · have other : 0 ≤ b.unscaled := by
      by_contra below
      rw [Int.sign_eq_neg_one_of_neg negative, Int.sign_eq_neg_one_of_neg (not_le.mp below)] at less
      exact lt_irrefl _ less
    exact lt_of_lt_of_le (value_neg_iff.mpr negative) (not_lt.mp (value_neg_iff.not.mpr other.not_gt))
  · have zero : a.unscaled.sign = 0 := by
      have : 0 ≤ a.unscaled.sign := Int.sign_nonneg_iff.mpr notNegative
      have : b.unscaled.sign ≤ 1 := by
        rcases Int.sign_trichotomy b.unscaled with one | zero | minusOne <;> omega
      omega
    rw [zero, Int.sign_pos_iff] at less
    rw [value_eq_zero_iff.mpr (Int.sign_eq_zero_iff_zero.mp zero)]
    exact value_pos_iff.mpr less

/-- Decimals are compared by their values. -/
theorem compareValue_eq (a b : Decimal) : a.compareValue b = compare a.value b.value := by
  unfold compareValue
  split
  · rename_i same
    exact compareSameSign_eq same.1 same.2
  · rename_i other
    rcases lt_trichotomy a.unscaled.sign b.unscaled.sign with less | same | greater
    · rw [compare_lt_iff_lt.mpr less, compare_lt_iff_lt.mpr (value_lt_of_sign_lt less)]
    · -- both numbers are zero
      have zero : a.unscaled = 0 := by
        by_contra nonzero
        exact other ⟨same, nonzero⟩
      have zero' : b.unscaled = 0 := by
        rwa [← Int.sign_eq_zero_iff_zero, ← same, Int.sign_eq_zero_iff_zero]
      rw [value_eq_zero_iff.mpr zero, value_eq_zero_iff.mpr zero', zero, zero']
      exact (compare_eq_iff_eq.mpr rfl).trans (compare_eq_iff_eq.mpr rfl).symm
    · rw [compare_gt_iff_gt.mpr greater, compare_gt_iff_gt.mpr (value_lt_of_sign_lt greater)]

/-- Decimals are the same if their values are. -/
theorem sameValue_eq (a b : Decimal) : a.sameValue b = decide (a.value = b.value) := by
  rw [Bool.eq_iff_iff]
  simp [sameValue, compareValue_eq]

/-! ### The fewest digits -/

theorem dropZeros_eq (fuel n : Nat) :
    (dropZeros fuel n).1 * 10 ^ (dropZeros fuel n).2 = n := by
  induction fuel generalizing n with
  | zero => simp [dropZeros]
  | succ fuel ih =>
    unfold dropZeros
    split
    · rename_i multiple
      have := ih (n / 10)
      simp only [pow_succ]
      rw [← mul_assoc, this]
      omega
    · simp

/-- A number of either sign with zeros dropped, times the power of ten that was dropped. -/
theorem signed_dropZeros (fuel : Nat) (n : Int) :
    signed (n < 0) (dropZeros fuel n.natAbs).1 * 10 ^ (dropZeros fuel n.natAbs).2 = n := by
  have digits : ((dropZeros fuel n.natAbs).1 : Int) * 10 ^ (dropZeros fuel n.natAbs).2 = n.natAbs := by
    exact_mod_cast dropZeros_eq fuel n.natAbs
  by_cases negative : n < 0
  · simp only [signed, negative, decide_true, if_true, neg_mul, digits]
    omega
  · simp only [signed, negative, decide_false, Bool.false_eq_true, if_false, digits]
    omega

/-- Dropping zeros at the end keeps the value. -/
@[simp] theorem value_normalize (d : Decimal) : d.normalize.value = d.value := by
  unfold normalize
  split
  · rename_i zero
    simp [value, zero]
  · have digits := signed_dropZeros (digitCount d.unscaled.natAbs) d.unscaled
    generalize dropZeros (digitCount d.unscaled.natAbs) d.unscaled.natAbs = r at digits
    obtain ⟨m, k⟩ := r
    have exponent : -(d.scale - (k : Int)) = k + -d.scale := by omega
    have digits' : (signed (d.unscaled < 0) m : ℚ) * 10 ^ k = d.unscaled := by
      exact_mod_cast digits
    simp only [value]
    rw [exponent, zpow_add₀ (by norm_num), zpow_natCast, ← mul_assoc, digits']

end Decimal

end ExprLang.Number
