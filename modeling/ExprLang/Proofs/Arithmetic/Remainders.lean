import ExprLang.Proofs.Arithmetic.Operands
import Mathlib.Data.Int.ModEq

/-!
# Remainders of integers

The remainder of integers of fixed width has the sign of the dividend; that of integers of any size is never
negative, and its modulus has to be positive. There is an error for the other divisors and for no others.
**Key theorem**: `remainder_of_integers`.
-/

namespace ExprLang

/-- The integer that an operand counts as: null is zero, and a character is its code as a signed number of 16
bits. Decimals, floating-point numbers and texts are left out. -/
def Value.integer? : Value → Option Int
  | null => some 0
  | char c => some (Number.wrap 16 c.toNat)
  | byte n => some n.toInt
  | short n => some n.toInt
  | integer n => some n.toInt
  | long n => some n.toInt
  | bigInteger n => some n
  | _ => none

namespace Arithmetic

/-! ### Remainders -/

/-- A remainder is zero or has the sign of the dividend. -/
theorem tmod_eq_zero_or_sign (x y : Int) : x.tmod y = 0 ∨ (x.tmod y).sign = x.sign := by
  by_cases divides : y ∣ x
  · exact .inl (Int.tmod_eq_zero_of_dvd divides)
  · exact .inr (by rw [Int.sign_tmod, if_neg divides])

theorem abs_tmod_lt (x : Int) {y : Int} (nonzero : y ≠ 0) : |x.tmod y| < |y| := by
  have less := Nat.mod_lt x.natAbs (Int.natAbs_pos.mpr nonzero)
  rw [← Int.natAbs_tmod] at less
  rw [Int.abs_eq_natAbs, Int.abs_eq_natAbs]
  exact_mod_cast less

theorem tmod_modEq (x y : Int) : x.tmod y ≡ x [ZMOD y] :=
  Int.modEq_iff_dvd.mpr (Int.dvd_self_sub_tmod ..)

/-- The remainder of the remainder and the modulus is not negative. -/
theorem tmod_add_tmod (x : Int) {y : Int} (pos : 0 < y) : (x.tmod y + y).tmod y = x % y := by
  have low := Int.lt_tmod_of_pos x pos
  rw [Int.tmod_eq_emod_of_nonneg (by omega), Int.add_emod_right]
  exact tmod_modEq x y

/-! ### Operands -/

variable {a b v : Value} {n x y : Int}

theorem valueOf?_of_integer? (known : v.integer? = some n) (rank : Rank) :
    rank.valueOf? v = some (n : ℚ) := by
  cases v with
  | null | char | byte | short | integer | long | bigInteger =>
    rw [← Option.some_inj.mp known]
    rfl
  | _ => cases known

theorem isDecimal_of_integer? (known : v.integer? = some n) : isDecimal v = false := by
  cases v <;> first | rfl | cases known

theorem isFloating_of_integer? (known : v.integer? = some n) : isFloating v = false := by
  cases v <;> first | rfl | cases known

theorem toLong_of_integer? (known : v.integer? = some n) (small : isBigInteger v = false) :
    ∃ k : Int64, toLong v = .ok k ∧ k.toInt = n := by
  have exact := map_toLong (isDecimal_of_integer? known) (isFloating_of_integer? known) small
  obtain ⟨k, brought, value⟩ := ok_of_map (exact.trans (valueOf?_of_integer? known .long))
  exact ⟨k, brought, Int.cast_inj.mp value⟩

theorem toBigInteger_of_integer? (known : v.integer? = some n) : toBigInteger v = .ok n := by
  have exact := map_toBigInteger (isDecimal_of_integer? known) (isFloating_of_integer? known)
  obtain ⟨k, brought, value⟩ := ok_of_map (exact.trans (valueOf?_of_integer? known .bigInteger))
  rwa [Int.cast_inj.mp value] at brought

/-- The rank of a remainder of integers. -/
theorem rankOf_of_integer? (knownA : a.integer? = some x) (knownB : b.integer? = some y) :
    rankOf .modulo a b = if isBigInteger a || isBigInteger b then .bigInteger else .long := by
  simp [rankOf, isDecimal_of_integer? knownA, isDecimal_of_integer? knownB,
    isFloating_of_integer? knownA, isFloating_of_integer? knownB]

/-! ### Remainders in a rank -/

theorem combine_long_modulo {m k : Int64} (broughtA : toLong a = .ok m) (broughtB : toLong b = .ok k) :
    combine .modulo .long a b = if k = 0 then .error byZero else .ok (.long (m % k)) := by
  show (do return Value.long (← combineLong .modulo (← toLong a) (← toLong b))) = _
  rw [broughtA, broughtB]
  show (if k = 0 then .error byZero else .ok (m % k) : Except EvalError Int64).map Value.long = _
  split <;> rfl

theorem combine_bigInteger_modulo (broughtA : toBigInteger a = .ok x)
    (broughtB : toBigInteger b = .ok y) :
    combine .modulo .bigInteger a b =
      if 0 < y then .ok (.bigInteger (x % y)) else .error (.arithmetic "modulus not positive") := by
  show (do return Value.bigInteger (← combineBigInteger .modulo (← toBigInteger a)
    (← toBigInteger b))) = _
  rw [broughtA, broughtB]
  show (if 0 < y then .ok ((x.tmod y + y).tmod y) else .error _ : Except EvalError Int).map _ = _
  split
  · rename_i pos
    rw [tmod_add_tmod x pos]
    rfl
  · rfl

/-- The remainder of two integers, not both null. Among integers of fixed width it is smaller than the divisor
and of the sign of the dividend, and there is none by zero. With an integer of any size it is smaller than the
divisor and not negative, and there is none by zero or by a negative number. -/
theorem remainder_of_integers (knownA : a.integer? = some x) (knownB : b.integer? = some y)
    (given : (a.isNull && b.isNull) = false) :
    (isBigInteger a = false → isBigInteger b = false →
      (y = 0 → apply .modulo a b = .error (.arithmetic "/ by zero")) ∧
      (y ≠ 0 → ∃ r : Int64, apply .modulo a b = .ok (.long r) ∧
        r.toInt ≡ x [ZMOD y] ∧ |r.toInt| < |y| ∧ (r.toInt = 0 ∨ r.toInt.sign = x.sign))) ∧
    (isBigInteger a = true ∨ isBigInteger b = true →
      (y ≤ 0 → apply .modulo a b = .error (.arithmetic "modulus not positive")) ∧
      (0 < y → ∃ r : Int, apply .modulo a b = .ok (.bigInteger r) ∧
        r ≡ x [ZMOD y] ∧ 0 ≤ r ∧ r < y)) := by
  have combined : apply .modulo a b = combine .modulo (rankOf .modulo a b) a b :=
    apply_eq_combine rfl given
  rw [combined, rankOf_of_integer? knownA knownB]
  refine ⟨fun smallA smallB => ?_, fun big => ?_⟩
  · obtain ⟨m, broughtA, rfl⟩ := toLong_of_integer? knownA smallA
    obtain ⟨k, broughtB, rfl⟩ := toLong_of_integer? knownB smallB
    have zero_iff : k = 0 ↔ k.toInt = 0 := by rw [← Int64.toInt_inj, Int64.toInt_zero]
    rw [smallA, smallB, Bool.or_self, if_neg Bool.false_ne_true,
      combine_long_modulo broughtA broughtB]
    refine ⟨fun zero => if_pos (zero_iff.mpr zero), fun nonzero => ⟨m % k, if_neg ?_, ?_⟩⟩
    · exact fun zero => nonzero (zero_iff.mp zero)
    · rw [Int64.toInt_mod]
      exact ⟨tmod_modEq _ _, abs_tmod_lt _ nonzero, tmod_eq_zero_or_sign _ _⟩
  · rw [if_pos (Bool.or_eq_true_iff.mpr big),
      combine_bigInteger_modulo (toBigInteger_of_integer? knownA) (toBigInteger_of_integer? knownB)]
    refine ⟨fun notPositive => if_neg notPositive.not_gt, fun pos => ⟨x % y, if_pos pos, ?_⟩⟩
    exact ⟨Int.mod_modEq x y, Int.emod_nonneg x pos.ne', Int.emod_lt_of_pos x pos⟩

/-- The least integer of 64 bits has no remainder by minus one, although the quotient is out of range; a
negative character has one by an integer of any size. -/
theorem remainder_of_integers_least :
    let least := Value.long Int64.minValue
    let minusOne := Value.byte (-1)
    let char := Value.char (Char.ofNat 0xFFFF)
    let seven := Value.bigInteger 7
    least.integer? = some (-2 ^ 63) ∧ minusOne.integer? = some (-1) ∧
      (least.isNull && minusOne.isNull) = false ∧
      apply .modulo least minusOne = .ok (.long 0) ∧
      char.integer? = some (-1) ∧ seven.integer? = some 7 ∧
      (char.isNull && seven.isNull) = false ∧
      apply .modulo char seven = .ok (.bigInteger 6) := by
  intro least minusOne char seven
  have knownLeast : least.integer? = some (-2 ^ 63) := by decide
  have knownMinusOne : minusOne.integer? = some (-1) := by decide
  have knownChar : char.integer? = some (-1) := by decide
  have knownSeven : seven.integer? = some 7 := rfl
  obtain ⟨-, remainder⟩ := (remainder_of_integers knownLeast knownMinusOne rfl).1 rfl rfl
  obtain ⟨r, succeeds, -, small, -⟩ := remainder (by decide)
  obtain ⟨-, remainder'⟩ := (remainder_of_integers knownChar knownSeven rfl).2 (.inr rfl)
  obtain ⟨k, succeeds', agree, low, high⟩ := remainder' (by decide)
  have zero : r = 0 := by
    rw [← Int64.toInt_inj]
    simp at small ⊢
    omega
  have six : k = 6 := by
    have := agree
    unfold Int.ModEq at this
    omega
  rw [zero] at succeeds
  rw [six] at succeeds'
  exact ⟨knownLeast, knownMinusOne, rfl, succeeds, knownChar, knownSeven, rfl, succeeds'⟩

end Arithmetic

end ExprLang
