import ExprLang.Proofs.Number.Binary

/-!
# The fields of a floating-point number

A code of a binary format has three fields: a sign bit, the exponent and the fraction. The number that
they give (`Format.encoded?`) is the one that the code stands for (`value_decode`), and the one that a
single has as a double (`value_toDouble_eq`).
-/

namespace ExprLang.Number

namespace Format

variable (f : Format)

/-- The sign bit of a code. -/
def signField (code : Nat) : Nat :=
  code / 2 ^ (f.exponentBits + (f.precision - 1))

/-- The exponent of a code as it is stored. -/
def exponentField (code : Nat) : Nat :=
  code / 2 ^ (f.precision - 1) % 2 ^ f.exponentBits

/-- The fraction of a code, without the leading bit that is not stored. -/
def fractionField (code : Nat) : Nat :=
  code % 2 ^ (f.precision - 1)

/-- The number that the fields of a code give. With an exponent of zero the leading bit is zero too,
which takes in the two zeros; the largest exponent is kept for the infinities and NaN. -/
def encoded? (code : Nat) : Option ℚ :=
  if f.exponentField code = 0 then
    some ((-1) ^ f.signField code * f.fractionField code * 2 ^ f.minExponent)
  else if f.exponentField code = 2 ^ f.exponentBits - 1 then none
  else
    some ((-1) ^ f.signField code * (2 ^ (f.precision - 1) + f.fractionField code : Nat) *
      2 ^ (f.minExponent + (f.exponentField code - 1)))

variable {f} {code : Nat}

theorem signBit_eq : f.signBit = 2 ^ (f.exponentBits + (f.precision - 1)) := by
  rw [signBit, fractionSize, Nat.pow_eq, Nat.pow_eq, pow_add]

theorem exponentField_lt : f.exponentField code < 2 ^ f.exponentBits :=
  Nat.mod_lt _ (Nat.two_pow_pos _)

/-- A significand with the sign of a code. -/
theorem signed_eq_signField (small : code < 2 * f.signBit) (m : Nat) :
    (signed (f.signBit ≤ code) m : ℚ) = (-1) ^ f.signField code * m := by
  unfold signField signed
  rw [signBit_eq] at small ⊢
  by_cases negative : 2 ^ (f.exponentBits + (f.precision - 1)) ≤ code
  · have one : code / 2 ^ (f.exponentBits + (f.precision - 1)) = 1 :=
      Nat.div_eq_of_lt_le (by omega) (by omega)
    simp [negative, one]
  · have zero : code / 2 ^ (f.exponentBits + (f.precision - 1)) = 0 :=
      Nat.div_eq_of_lt (not_le.mp negative)
    simp [negative, zero]

/-- The fields of a code are those that decoding takes apart. -/
theorem decode_eq (code : Nat) :
    f.decode code =
      if f.exponentField code = 0 then
        .finite (f.signBit ≤ code) (f.fractionField code) f.minExponent
      else if f.exponentField code < 2 ^ f.exponentBits - 1 then
        .finite (f.signBit ≤ code) (2 ^ (f.precision - 1) + f.fractionField code)
          (f.minExponent + (f.exponentField code - 1))
      else if f.fractionField code = 0 then .infinite (f.signBit ≤ code)
      else .nan (f.signBit ≤ code) (f.fractionField code) (f.precision - 1) := by
  have field : code % f.signBit / f.fractionSize = f.exponentField code :=
    Nat.mod_mul_left_div_self ..
  have fraction : code % f.signBit % f.fractionSize = f.fractionField code :=
    Nat.mod_mod_of_dvd _ (Nat.dvd_mul_left ..)
  simp only [decode, field, fraction, Nat.pow_eq]
  rfl

/-- A code stands for the number that its fields give. -/
theorem value_decode (small : code < 2 * f.signBit) : (f.decode code).value? = f.encoded? code := by
  rw [decode_eq, encoded?]
  by_cases least : f.exponentField code = 0
  · rw [if_pos least, if_pos least, Binary.value?, signed_eq_signField small]
  rw [if_neg least, if_neg least]
  by_cases largest : f.exponentField code = 2 ^ f.exponentBits - 1
  · rw [if_pos largest, if_neg largest.not_lt]
    split <;> rfl
  · have below : f.exponentField code < 2 ^ f.exponentBits - 1 := by
      have : f.exponentField code < 2 ^ f.exponentBits := exponentField_lt
      omega
    rw [if_neg largest, if_pos below, Binary.value?, signed_eq_signField small]

end Format

/-- A double stands for the number that its fields give. -/
theorem Double.value_decode (x : Double) : x.decode.value? = Format.double.encoded? x.bits.toNat :=
  Format.value_decode x.bits.toNat_lt

/-- A single stands for the number that its fields give. -/
theorem Single.value_decode (x : Single) : x.decode.value? = Format.single.encoded? x.bits.toNat :=
  Format.value_decode x.bits.toNat_lt

/-- A single is the same number as a double, and none if it is infinite or a NaN. -/
theorem value_toDouble_eq (x : Single) : x.toDouble.decode.value? = x.decode.value? := by
  cases decoded : x.decode with
  | finite negative m e =>
    rw [← decoded]
    exact value_toDouble (by simp [decoded, Binary.value?])
  | infinite negative =>
    rw [Single.decode_toDouble, decoded, Format.decode_ofBinary_infinite Format.sound_double]
  | nan negative fraction width =>
    rw [Single.decode_toDouble, decoded, Format.decode_ofBinary_nan Format.sound_double,
      Binary.value?_nan, Binary.value?_nan]

end ExprLang.Number
