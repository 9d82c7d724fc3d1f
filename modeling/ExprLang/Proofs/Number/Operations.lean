import ExprLang.Proofs.Number.Decimal
import Mathlib.Data.Rat.Floor

/-!
# Operations on decimals

Sums, differences and products of decimals have the exact value, at whatever scale they are held
(`value_add`, `value_sub`, `value_mul`). Dropping the places after the point gives the integral part of
the value, rounded toward zero (`truncate_eq`).
-/

namespace ExprLang.Number

/-- The integral part of a number: the integer next to it on the way to zero, or the number itself. -/
def integralPart (x : ℚ) : Int :=
  if x < 0 then ⌈x⌉ else ⌊x⌋

@[simp] theorem integralPart_intCast (n : Int) : integralPart n = n := by
  unfold integralPart
  split
  · exact Int.ceil_intCast n
  · exact Int.floor_intCast n

/-- What is less than one on either side of zero has no integral part. -/
theorem integralPart_of_abs_lt {x : ℚ} (small : |x| < 1) : integralPart x = 0 := by
  obtain ⟨low, high⟩ := abs_lt.mp small
  unfold integralPart
  split
  · rename_i negative
    rw [Int.ceil_eq_zero_iff]
    exact ⟨low, negative.le⟩
  · rename_i notNegative
    rw [Int.floor_eq_zero_iff]
    exact ⟨not_lt.mp notNegative, high⟩

/-- The integral part of a quotient is the quotient rounded toward zero. -/
theorem integralPart_div (n : Int) {d : Nat} (pos : 0 < d) : integralPart (n / d) = n.tdiv d := by
  have sign : ((n : ℚ) / d < 0) ↔ n < 0 := by
    rw [div_lt_iff₀ (by exact_mod_cast pos), zero_mul]
    exact Int.cast_lt_zero
  unfold integralPart
  rcases lt_or_ge n 0 with negative | notNegative
  · have opposite : n.tdiv d = -((-n).tdiv d) := by rw [Int.neg_tdiv, neg_neg]
    rw [if_pos (sign.mpr negative), Rat.ceil_intCast_div_natCast, opposite,
      Int.tdiv_eq_ediv_of_nonneg (by omega)]
  · rw [if_neg (sign.not.mpr notNegative.not_gt), Rat.floor_intCast_div_natCast,
      Int.tdiv_eq_ediv_of_nonneg notNegative]

namespace Decimal

/-! ### Sums and products -/

/-- The value from the digits at the larger of two scales. -/
theorem value_eq_raise (d : Decimal) (scale : Int) :
    d.value = (d.raise scale).unscaled * (10 : ℚ) ^ (-max d.scale scale) := by
  rw [← value_raise d scale, value, scale_raise]

@[simp] theorem value_add (a b : Decimal) : (a.add b).value = a.value + b.value := by
  rw [value_eq_raise a b.scale, value_eq_raise b a.scale, max_comm b.scale, ← add_mul,
    ← Int.cast_add]
  rfl

@[simp] theorem value_neg (d : Decimal) : d.neg.value = -d.value := by
  simp [value, neg]

@[simp] theorem value_sub (a b : Decimal) : (a.sub b).value = a.value - b.value := by
  unfold sub
  split
  · rename_i zero
    rw [value_eq_zero_iff.mpr zero, sub_zero]
  split
  · rename_i zero
    rw [value_eq_zero_iff.mpr zero, zero_sub, value_neg]
  · rw [value_add, value_neg, sub_eq_add_neg]

theorem value_of_isOne {d : Decimal} (one : d.isOne = true) : d.value = 1 := by
  simp only [isOne, Bool.and_eq_true, decide_eq_true_iff, beq_iff_eq, Nat.pow_eq] at one
  obtain ⟨⟨nonneg, -⟩, digits⟩ := one
  have scale : (d.scale.toNat : Int) = d.scale := Int.toNat_of_nonneg nonneg
  rw [value, digits, ← scale]
  push_cast
  rw [Int.toNat_natCast, zpow_neg, zpow_natCast, mul_inv_cancel₀ (by positivity)]

@[simp] theorem value_mul (a b : Decimal) : (a.mul b).value = a.value * b.value := by
  unfold mul
  split
  · rename_i one
    rw [value_of_isOne one, one_mul]
  split
  · rename_i one
    rw [value_of_isOne one, mul_one]
  · have powers : (10 : ℚ) ^ (-(a.scale + b.scale)) = 10 ^ (-a.scale) * 10 ^ (-b.scale) := by
      rw [neg_add, zpow_add₀ (by norm_num)]
    simp only [value, powers]
    push_cast
    ring

/-! ### Integral parts -/

/-- A decimal with places after the point as a quotient. -/
theorem value_eq_div {d : Decimal} (places : 0 ≤ d.scale) :
    d.value = d.unscaled / (10 ^ d.scale.toNat : Nat) := by
  have scale : (d.scale.toNat : Int) = d.scale := Int.toNat_of_nonneg places
  rw [value, ← scale, Int.toNat_natCast, zpow_neg, zpow_natCast, div_eq_mul_inv]
  push_cast
  rfl

/-- A decimal without places after the point is an integer. -/
theorem value_eq_intCast {d : Decimal} (whole : d.scale ≤ 0) :
    d.value = (d.unscaled * 10 ^ (-d.scale).toNat : Int) := by
  have scale : ((-d.scale).toNat : Int) = -d.scale := Int.toNat_of_nonneg (by omega)
  rw [value, ← scale, Int.toNat_natCast, zpow_natCast]
  push_cast
  rfl

/-- A decimal with no more digits than places lies between minus one and one. -/
theorem abs_value_lt_one {d : Decimal} (places : 0 < d.scale)
    (few : digitCount d.unscaled.natAbs ≤ d.scale.toNat) : |d.value| < 1 := by
  by_cases zero : d.unscaled = 0
  · rw [value_eq_zero_iff.mpr zero, abs_zero]
    exact one_pos
  · have magnitude : d.magnitude ≤ 0 := by
      unfold Decimal.magnitude
      omega
    calc
      |d.value| < 10 ^ d.magnitude := (magnitude_bounds zero).2
      _ ≤ 10 ^ (0 : Int) := zpow_le_zpow_right₀ (by norm_num) magnitude
      _ = 1 := zpow_zero 10

/-- Dropping the places after the point gives the integral part. -/
theorem truncate_eq (d : Decimal) : d.truncate = integralPart d.value := by
  unfold truncate
  split
  · rename_i places
    split
    · rename_i few
      exact (integralPart_of_abs_lt (abs_value_lt_one places few)).symm
    · rw [value_eq_div places.le, integralPart_div _ (by positivity)]
      rfl
  · rename_i whole
    rw [value_eq_intCast (not_lt.mp whole), integralPart_intCast]
    simp

end Decimal

end ExprLang.Number
