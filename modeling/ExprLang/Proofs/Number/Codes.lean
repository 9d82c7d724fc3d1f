import ExprLang.Proofs.Number.Encoding
import Mathlib.Data.Nat.Bitwise

/-!
# One code for each number

What a code stands for has no other code in a format (`decode_injective`): a finite number has one form
that the format takes it in (`Canonical.unique`), and a NaN is told by its fraction. So it is the same
thing to compare codes, numbers with their signs, and places in the total order. Making a double of a
single loses neither the value nor the sign, and of the fraction of a NaN the first bit only. So two
singles are one double only if one of them is a signalling NaN, and the other the quiet NaN that agrees
with it in all other bits.

**Key theorem**: `Single.toDouble_eq_iff`.
-/

namespace ExprLang.Number

namespace Format

variable {f : Format}

/-! ### The total order -/

theorem orderKey_injective : Function.Injective f.orderKey := by
  intro code code' same
  unfold orderKey at same
  split at same <;> split at same <;> omega

/-! ### Signs -/

/-- Rounding keeps the sign. -/
theorem isNegative_decode_ofBinary (h : f.Sound) (b : Binary) :
    (f.decode (f.ofBinary b)).isNegative = b.isNegative := by
  obtain ⟨code, below, coded⟩ := exists_ofBinary_eq h b
  rw [coded, decode_withSign below]
  split
  · rfl
  split
  · rfl
  split <;> rfl

/-! ### Canonical forms -/

theorem canonical_of_decode (h : f.Sound) {code : Nat} {negative : Bool} {m : Nat} {e : Int}
    (decoded : f.decode code = .finite negative m e) : f.Canonical m e := by
  refine ⟨holds_of_decode h decoded, ?_⟩
  simp only [decode] at decoded
  split at decoded
  · cases decoded
    exact .inl rfl
  split at decoded
  · cases decoded
    exact .inr (Nat.le_add_right _ _)
  split at decoded <;> cases decoded

/-- A form with the greater exponent has a significand that is too short, unless the forms are the
same. -/
theorem Canonical.exponent_le (h : f.Sound) {m m' : Nat} {e e' : Int} (canonical : f.Canonical m e)
    (canonical' : f.Canonical m' e') (same : (m : ℚ) * 2 ^ e = m' * 2 ^ e') : e' ≤ e := by
  by_contra greater
  rw [not_le] at greater
  have low := canonical.low
  have full : f.fractionSize ≤ m' := canonical'.full.resolve_left (by omega)
  obtain ⟨k, rfl⟩ : ∃ k : Nat, e' = e + (k + 1) := ⟨(e' - e - 1).toNat, by omega⟩
  have significand : m = m' * 2 ^ (k + 1) := by
    have power : (2 : ℚ) ^ (e + (k + 1)) = 2 ^ e * 2 ^ (k + 1) := by
      rw [zpow_add₀ two_ne_zero]
      norm_cast
    have nonzero : (2 : ℚ) ^ e ≠ 0 := zpow_ne_zero e two_ne_zero
    rw [power, mul_left_comm, mul_comm (m : ℚ), mul_right_inj' nonzero] at same
    exact_mod_cast same
  have short : m < 2 * f.fractionSize := canonical.lt h
  have long : m' * 2 ≤ m' * 2 ^ (k + 1) :=
    Nat.mul_le_mul_left m' (Nat.le_self_pow (Nat.succ_ne_zero k) 2)
  omega

/-- A value has one canonical form. -/
theorem Canonical.unique (h : f.Sound) {m m' : Nat} {e e' : Int} (canonical : f.Canonical m e)
    (canonical' : f.Canonical m' e') (same : (m : ℚ) * 2 ^ e = m' * 2 ^ e') : m = m' ∧ e = e' := by
  obtain rfl : e = e' :=
    le_antisymm (canonical'.exponent_le h canonical same.symm) (canonical.exponent_le h canonical' same)
  have nonzero : (2 : ℚ) ^ e ≠ 0 := zpow_ne_zero e two_ne_zero
  exact ⟨by exact_mod_cast mul_right_cancel₀ nonzero same, rfl⟩

/-- The code of what a code stands for. -/
def codeOf (f : Format) : Binary → Nat
  | .finite negative m e => f.withSign negative (f.encode m e)
  | .infinite negative => f.withSign negative f.infinity
  | .nan negative fraction _ => f.withSign negative (f.infinity + fraction)

theorem withSign_mod_signBit {code : Nat} (small : code < 2 * f.signBit) :
    f.withSign (f.signBit ≤ code) (code % f.signBit) = code := by
  unfold withSign
  by_cases negative : f.signBit ≤ code
  · rw [if_pos (by simpa using negative), Nat.mod_eq_sub_mod negative, Nat.mod_eq_of_lt (by omega)]
    omega
  · rw [if_neg (by simpa using negative), Nat.mod_eq_of_lt (by omega)]

/-- What a code stands for gives the code again. -/
theorem codeOf_decode (h : f.Sound) {code : Nat} (small : code < 2 * f.signBit) :
    f.codeOf (f.decode code) = code := by
  conv_rhs => rw [← withSign_mod_signBit small]
  have magnitude := Nat.div_add_mod (code % f.signBit) f.fractionSize
  have largest : code % f.signBit / f.fractionSize < Nat.pow 2 f.exponentBits :=
    Nat.div_lt_of_lt_mul (mul_comm f.fractionSize _ ▸ Nat.mod_lt _ f.signBit_pos)
  cases decoded : f.decode code with
  | finite negative m e =>
    rw [codeOf, ((canonical_of_decode h decoded).encode_eq h).1]
    simp only [decode] at decoded
    generalize code % f.signBit / f.fractionSize = field at magnitude decoded
    rw [← magnitude]
    split at decoded
    · rename_i none
      cases decoded
      simp [none]
    split at decoded
    · rename_i some _
      cases decoded
      obtain ⟨k, rfl⟩ := Nat.exists_eq_succ_of_ne_zero some
      have shift : (f.minExponent + ((k.succ : Nat) - 1) - f.minExponent).toNat = k := by omega
      rw [shift, Nat.mul_succ, Nat.mul_comm k, Nat.add_assoc]
    split at decoded <;> cases decoded
  | infinite negative =>
    simp only [decode] at decoded
    split at decoded
    · cases decoded
    split at decoded
    · cases decoded
    split at decoded
    · rename_i whole
      cases decoded
      have last : code % f.signBit / f.fractionSize = Nat.pow 2 f.exponentBits - 1 := by omega
      rw [codeOf, infinity, ← magnitude, whole, last, Nat.mul_comm, Nat.add_zero]
    · cases decoded
  | nan negative fraction width =>
    simp only [decode] at decoded
    split at decoded
    · cases decoded
    split at decoded
    · cases decoded
    split at decoded
    · cases decoded
    · cases decoded
      have last : code % f.signBit / f.fractionSize = Nat.pow 2 f.exponentBits - 1 := by omega
      conv_rhs => rw [← magnitude, last, Nat.mul_comm]
      rfl

theorem decode_injective (h : f.Sound) {code code' : Nat} (small : code < 2 * f.signBit)
    (small' : code' < 2 * f.signBit) (same : f.decode code = f.decode code') : code = code' := by
  rw [← codeOf_decode h small, ← codeOf_decode h small', same]

/-- The fraction of a NaN is the last field of its code. -/
theorem fraction_of_decode {code fraction width : Nat} {negative : Bool}
    (decoded : f.decode code = .nan negative fraction width) :
    fraction < f.fractionSize ∧ width = f.precision - 1 := by
  have small : code % f.signBit % f.fractionSize < f.fractionSize := Nat.mod_lt _ f.fractionSize_pos
  simp only [decode] at decoded
  split at decoded
  · cases decoded
  split at decoded
  · cases decoded
  split at decoded
  · cases decoded
  · cases decoded
    exact ⟨small, rfl⟩

end Format

/-! ### Doubles and singles -/

theorem Double.compareTotal_eq_iff {x y : Double} : x.compareTotal y = .eq ↔ x = y := by
  rw [compareTotal, compare_eq_iff_eq, Format.orderKey_injective.eq_iff, UInt64.toNat_inj]
  exact ⟨fun bits => congrArg Double.mk bits, congrArg Double.bits⟩

theorem Double.decode_injective : Function.Injective Double.decode := by
  intro x y same
  have bits : 2 * Format.double.signBit = 2 ^ 64 := by decide
  have codes : x.bits.toNat = y.bits.toNat :=
    Format.decode_injective Format.sound_double (bits ▸ x.bits.toNat_lt) (bits ▸ y.bits.toNat_lt) same
  exact congrArg Double.mk (UInt64.toNat_inj.mp codes)

namespace Single

variable {x y : Single} {negative : Bool} {fraction width : Nat}

theorem bits_lt (x : Single) : x.bits.toNat < 2 * Format.single.signBit := by
  have bits : 2 * Format.single.signBit = 2 ^ 32 := by decide
  exact bits ▸ x.bits.toNat_lt

theorem decode_injective : Function.Injective decode := by
  intro x y same
  have codes : x.bits.toNat = y.bits.toNat :=
    Format.decode_injective Format.sound_single x.bits_lt y.bits_lt same
  exact congrArg Single.mk (UInt32.toNat_inj.mp codes)

theorem isNegative_toDouble (x : Single) : x.toDouble.decode.isNegative = x.decode.isNegative := by
  rw [decode_toDouble, Format.isNegative_decode_ofBinary Format.sound_double]

/-! ### NaNs -/

/-- The code of a NaN has its fraction in the last field. -/
theorem bits_of_nan (decoded : x.decode = .nan negative fraction width) :
    x.bits.toNat = Format.single.withSign negative (Format.single.infinity + fraction) ∧
      fraction < 2 ^ 23 ∧ width = 23 := by
  obtain ⟨small, rfl⟩ := Format.fraction_of_decode decoded
  have size : Format.single.fractionSize = 2 ^ 23 := by decide
  have code := Format.codeOf_decode Format.sound_single x.bits_lt
  rw [show Format.single.decode x.bits.toNat = _ from decoded] at code
  exact ⟨code.symm, size ▸ small, rfl⟩

/-- As a double a NaN is quiet, and has the rest of its fraction in front. -/
theorem decode_toDouble_of_nan (decoded : x.decode = .nan negative fraction width) :
    x.toDouble.decode = .nan negative (2 ^ 51 + fraction % 2 ^ 22 * 2 ^ 29) 52 := by
  obtain ⟨-, -, rfl⟩ := bits_of_nan decoded
  have sizes : Format.double.fractionSize = 2 ^ 52 ∧ Format.double.quietBit = 2 ^ 51 := by decide
  have rest : fraction * 2 ^ 52 / 2 ^ 23 % 2 ^ 51 = fraction % 2 ^ 22 * 2 ^ 29 := by omega
  rw [decode_toDouble, decoded, Format.decode_ofBinary_nan Format.sound_double, sizes.1, sizes.2, rest]
  rfl

/-- The number with the first bit of the fraction set: of a NaN, the quiet form. -/
def quieted (x : Single) : Single :=
  ⟨x.bits ||| 0x400000⟩

/-- A NaN that is not quiet: the first bit of its fraction is not set. -/
def IsSignalling (x : Single) : Prop :=
  ∃ negative fraction width, x.decode = .nan negative fraction width ∧ fraction < 2 ^ 22

theorem bits_quieted (decoded : x.decode = .nan negative fraction width)
    (signalling : fraction < 2 ^ 22) :
    x.quieted.bits.toNat =
      Format.single.withSign negative (Format.single.infinity + (fraction + 2 ^ 22)) := by
  obtain ⟨code, -⟩ := bits_of_nan decoded
  have sizes : Format.single.signBit = 2 ^ 31 ∧ Format.single.infinity = 2 ^ 31 - 2 ^ 23 := by decide
  rw [Format.withSign, sizes.1, sizes.2] at code ⊢
  have unset : x.bits &&& 0x400000 = 0 := by
    have bit : x.bits.toNat / 2 ^ 22 % 2 = 0 := by
      rw [code]
      split <;> omega
    refine UInt32.toNat_inj.mp ?_
    change x.bits.toNat &&& 2 ^ 22 = 0
    rw [Nat.and_two_pow, Nat.testBit_eq_decide_div_mod_eq, bit]
    rfl
  have sum : x.bits ||| 0x400000 = x.bits + 0x400000 :=
    UInt32.eq_of_toBitVec_eq (BitVec.add_eq_or_of_and_eq_zero _ _ (congrArg UInt32.toBitVec unset)).symm
  have value : (0x400000 : UInt32).toNat = 2 ^ 22 := rfl
  rw [quieted, sum, UInt32.toNat_add, value, code]
  split <;> omega

theorem decode_quieted (decoded : x.decode = .nan negative fraction width)
    (signalling : fraction < 2 ^ 22) :
    x.quieted.decode = .nan negative (fraction + 2 ^ 22) width := by
  obtain ⟨-, -, rfl⟩ := bits_of_nan decoded
  have size : Format.single.fractionSize = 2 ^ 23 := by decide
  rw [decode, bits_quieted decoded signalling,
    Format.decode_infinity_add Format.sound_single negative (by omega), if_neg (by omega)]
  rfl

/-! ### Singles that are one double -/

/-- Singles that are one double stand for the same, unless they are NaNs. -/
theorem decode_eq_of_toDouble_eq (same : x.toDouble = y.toDouble)
    (number : ∀ negative fraction width, x.decode ≠ .nan negative fraction width) :
    x.decode = y.decode := by
  have value : x.decode.value? = y.decode.value? := by
    rw [← value_toDouble_eq, ← value_toDouble_eq, same]
  have sign : x.decode.isNegative = y.decode.isNegative := by
    rw [← isNegative_toDouble, ← isNegative_toDouble, same]
  cases decodedX : x.decode with
  | finite negative m e =>
    cases decodedY : y.decode with
    | finite negative' m' e' =>
      rw [decodedX, decodedY] at value sign
      obtain rfl : negative = negative' := sign
      have magnitude : (m : ℚ) * 2 ^ e = m' * 2 ^ e' := by
        cases negative <;> simpa [Binary.value?, signed] using value
      have canonical := Format.canonical_of_decode Format.sound_single decodedX
      have canonical' := Format.canonical_of_decode Format.sound_single decodedY
      obtain ⟨rfl, rfl⟩ := canonical.unique Format.sound_single canonical' magnitude
      rfl
    | infinite | nan =>
      rw [decodedX, decodedY] at value
      cases value
  | infinite negative =>
    cases decodedY : y.decode with
    | finite negative' m' e' =>
      rw [decodedX, decodedY] at value
      cases value
    | infinite negative' =>
      rw [decodedX, decodedY] at sign
      exact congrArg Binary.infinite sign
    | nan negative' fraction width =>
      have infinite := decode_toDouble x
      rw [decodedX, Format.decode_ofBinary_infinite Format.sound_double, same,
        decode_toDouble_of_nan decodedY] at infinite
      cases infinite
  | nan negative fraction width => exact absurd decodedX (number negative fraction width)

/-- A single that is the same double as another one is a NaN. -/
theorem exists_nan_of_toDouble_eq (same : x.toDouble = y.toDouble) (differ : x ≠ y) :
    ∃ negative fraction width, x.decode = .nan negative fraction width := by
  by_contra number
  push Not at number
  exact differ (decode_injective (decode_eq_of_toDouble_eq same number))

/-- Two NaNs of one sign whose fractions differ in the first bit only: one is the quiet form of the
other. -/
theorem eq_quieted {fraction' width' : Nat} (decoded : x.decode = .nan negative fraction width)
    (decoded' : y.decode = .nan negative fraction' width') (signalling : fraction < 2 ^ 22)
    (quiet : fraction' = fraction + 2 ^ 22) : x.IsSignalling ∧ y = x.quieted := by
  obtain ⟨-, -, rfl⟩ := bits_of_nan decoded
  obtain ⟨-, -, rfl⟩ := bits_of_nan decoded'
  refine ⟨⟨negative, fraction, 23, decoded, signalling⟩, decode_injective ?_⟩
  rw [decoded', decode_quieted decoded signalling, quiet]

/-- A signalling NaN and its quiet form are one double. -/
theorem IsSignalling.toDouble_quieted (signalling : x.IsSignalling) :
    x.quieted.toDouble = x.toDouble := by
  obtain ⟨negative, fraction, width, decoded, small⟩ := signalling
  refine Double.decode_injective ?_
  rw [decode_toDouble_of_nan decoded, decode_toDouble_of_nan (decode_quieted decoded small),
    Nat.add_mod_right]

/-- Two different singles are one double if and only if one of them is a signalling NaN and the other its
quiet form. -/
theorem toDouble_eq_iff (differ : x ≠ y) :
    x.toDouble = y.toDouble ↔
      (x.IsSignalling ∧ y = x.quieted) ∨ (y.IsSignalling ∧ x = y.quieted) := by
  constructor
  · intro same
    obtain ⟨negative, fraction, width, decoded⟩ := exists_nan_of_toDouble_eq same differ
    obtain ⟨negative', fraction', width', decoded'⟩ :=
      exists_nan_of_toDouble_eq same.symm differ.symm
    obtain ⟨-, bound, rfl⟩ := bits_of_nan decoded
    obtain ⟨-, bound', rfl⟩ := bits_of_nan decoded'
    have doubles := congrArg Double.decode same
    rw [decode_toDouble_of_nan decoded, decode_toDouble_of_nan decoded', Binary.nan.injEq] at doubles
    obtain ⟨rfl, rest, -⟩ := doubles
    have fractions : fraction ≠ fraction' := by
      intro equal
      exact differ (decode_injective (by rw [decoded, decoded', equal]))
    rcases lt_or_ge fraction (2 ^ 22) with signalling | quiet
    · exact .inl (eq_quieted decoded decoded' signalling (by omega))
    · exact .inr (eq_quieted decoded' decoded (by omega) (by omega))
  · intro one
    rcases one with ⟨signalling, rfl⟩ | ⟨signalling, rfl⟩
    · exact signalling.toDouble_quieted.symm
    · exact signalling.toDouble_quieted

end Single

end ExprLang.Number
