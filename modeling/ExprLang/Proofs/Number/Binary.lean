import ExprLang.Number.Double
import ExprLang.Proofs.Number.Decimal

/-!
# The values of binary floating-point numbers

A finite number stands for the rational number `Binary.value?`. Its exact decimal has that value
(`value_exactDecimal?`), and rounding loses nothing where the format has room for the number
(`value_ofBinary`), so that every single is the same number as a double (`value_toDouble`).
-/

namespace ExprLang.Number

/-- The number that a finite floating-point number stands for. -/
def Binary.value? : Binary → Option ℚ
  | finite negative m e => some (signed negative m * 2 ^ e)
  | _ => none

@[simp] theorem Binary.value?_nan (negative : Bool) (fraction width : Nat) :
    (nan negative fraction width).value? = none :=
  rfl

theorem signed_mul (negative : Bool) (m n : Nat) :
    signed negative (m * n) = signed negative m * n := by
  cases negative <;> simp [signed]

@[simp] theorem signed_zero (negative : Bool) : signed negative 0 = 0 := by
  cases negative <;> rfl

/-! ### Exact decimals -/

/-- Two to the power `-k` is five to the power `k`, moved by `k` places. -/
theorem two_zpow_eq (e : Int) :
    (2 : ℚ) ^ e = 2 ^ e.toNat * 5 ^ (-e).toNat * 10 ^ (-((-e).toNat : Int)) := by
  rcases le_total 0 e with nonneg | nonpos
  · have power : (e.toNat : Int) = e := Int.toNat_of_nonneg nonneg
    have none : (-e).toNat = 0 := by omega
    rw [none, ← zpow_natCast, power]
    simp
  · have none : e.toNat = 0 := by omega
    have power : e = -((-e).toNat : Int) := by omega
    rw [none]
    conv_lhs => rw [power]
    rw [zpow_neg, zpow_neg, zpow_natCast, zpow_natCast, show (10 : ℚ) = 2 * 5 by norm_num, mul_pow]
    field_simp

/-- The exact decimal of a finite number has its value, and the others have none. -/
theorem value_exactDecimal? (x : Binary) : x.exactDecimal?.map Decimal.value = x.value? := by
  cases x with
  | finite negative m e =>
    simp only [Binary.exactDecimal?, Binary.value?, Option.map_some, Decimal.value_normalize]
    simp only [Decimal.value, Nat.pow_eq, signed_mul]
    push_cast
    rw [two_zpow_eq e]
    ring_nf
  | infinite | nan => rfl

/-- The sign of a number; the zeros, the infinities and the NaNs have one too. -/
def Binary.isNegative : Binary → Bool
  | finite negative .. | infinite negative | nan negative .. => negative

namespace Format

variable {f : Format}

/-! ### Layout -/

theorem fractionSize_pos (f : Format) : 0 < f.fractionSize := by
  simp only [fractionSize, Nat.pow_eq]
  positivity

theorem signBit_pos (f : Format) : 0 < f.signBit := by
  simp only [signBit, Nat.pow_eq]
  exact Nat.mul_pos (by positivity) f.fractionSize_pos

/-- A format with room for numbers, and with a bit that tells quiet NaNs from the others. -/
structure Sound (f : Format) : Prop where
  precision : 1 < f.precision
  exponentBits : 1 < f.exponentBits

theorem sound_double : double.Sound :=
  ⟨by decide, by decide⟩

theorem sound_single : single.Sound :=
  ⟨by decide, by decide⟩

theorem Sound.two_mul_fractionSize (h : f.Sound) : 2 * f.fractionSize = 2 ^ f.precision := by
  have precision : f.precision - 1 + 1 = f.precision := Nat.sub_add_cancel h.precision.le
  rw [fractionSize, Nat.pow_eq, ← precision, pow_succ, Nat.add_sub_cancel, mul_comm]

theorem Sound.two_mul_quietBit (h : f.Sound) : 2 * f.quietBit = f.fractionSize := by
  obtain ⟨k, precision⟩ := Nat.exists_eq_add_of_lt h.precision
  rw [quietBit, fractionSize, precision, Nat.pow_eq, Nat.add_sub_cancel, add_comm 1 k, pow_succ,
    Nat.mul_div_cancel _ (show 0 < 2 by decide), mul_comm]

theorem Sound.four_le (h : f.Sound) : 4 ≤ 2 ^ f.exponentBits :=
  Nat.pow_le_pow_right (show 0 < 2 by decide) h.exponentBits

/-- The significands and exponents that a format has room for. -/
structure Holds (f : Format) (m : Nat) (e : Int) : Prop where
  significand : m < 2 ^ f.precision
  low : f.minExponent ≤ e
  high : e + 3 ≤ f.minExponent + (2 ^ f.exponentBits : Nat)

/-- The code of a finite number stands for one that the format has room for. -/
theorem holds_of_decode (h : f.Sound) {code : Nat} {negative : Bool} {m : Nat} {e : Int}
    (decoded : f.decode code = .finite negative m e) : f.Holds m e := by
  have fraction : code % f.signBit % f.fractionSize < f.fractionSize :=
    Nat.mod_lt _ f.fractionSize_pos
  have precision := h.two_mul_fractionSize
  have exponents := h.four_le
  simp only [decode, Nat.pow_eq] at decoded
  generalize code % f.signBit / f.fractionSize = field at decoded
  split at decoded
  · cases decoded
    exact ⟨by omega, le_refl _, by omega⟩
  · split at decoded
    · cases decoded
      exact ⟨by omega, by omega, by omega⟩
    · split at decoded <;> cases decoded

/-! ### Codes -/

theorem withSign_lt {code : Nat} (below : code < f.signBit) (negative : Bool) :
    f.withSign negative code < 2 * f.signBit := by
  unfold withSign
  split <;> omega

theorem signBit_le_withSign {code : Nat} (below : code < f.signBit) (negative : Bool) :
    decide (f.signBit ≤ f.withSign negative code) = negative := by
  cases negative <;> simp [withSign, below]

theorem withSign_mod {code : Nat} (below : code < f.signBit) (negative : Bool) :
    f.withSign negative code % f.signBit = code := by
  cases negative <;> simp [withSign, Nat.mod_eq_of_lt below]

theorem infinity_add_fractionSize (f : Format) : f.infinity + f.fractionSize = f.signBit := by
  have exponents : Nat.pow 2 f.exponentBits - 1 + 1 = Nat.pow 2 f.exponentBits :=
    Nat.sub_add_cancel (Nat.two_pow_pos _)
  rw [infinity, signBit, ← Nat.succ_mul, Nat.succ_eq_add_one, exponents]

theorem encode_lt (m : Nat) (e : Int) : f.encode m e < f.signBit := by
  have positive := f.fractionSize_pos
  have bound := f.infinity_add_fractionSize
  have atMost : f.encode m e ≤ f.infinity := min_le_right _ _
  omega

theorem round_lt (num den : Nat) : f.round num den < f.signBit := by
  unfold round
  split
  · exact f.signBit_pos
  · exact encode_lt _ _

theorem quietCode_lt (h : f.Sound) (fraction width : Nat) : f.quietCode fraction width < f.signBit := by
  have positive := f.fractionSize_pos
  have half := h.two_mul_quietBit
  have bound := f.infinity_add_fractionSize
  have rest : fraction * f.fractionSize / Nat.pow 2 width % f.quietBit < f.quietBit :=
    Nat.mod_lt _ (by omega)
  rw [quietCode, nanCode]
  omega

/-- The code of a number has its sign in front. -/
theorem exists_ofBinary_eq (h : f.Sound) (b : Binary) :
    ∃ code < f.signBit, f.ofBinary b = f.withSign b.isNegative code := by
  have positive := f.fractionSize_pos
  have bound := f.infinity_add_fractionSize
  cases b with
  | finite negative m e => exact ⟨_, round_lt _ _, rfl⟩
  | infinite negative => exact ⟨f.infinity, by omega, rfl⟩
  | nan negative fraction width => exact ⟨_, quietCode_lt h fraction width, rfl⟩

theorem ofBinary_lt (h : f.Sound) (b : Binary) : f.ofBinary b < 2 * f.signBit := by
  obtain ⟨code, below, coded⟩ := exists_ofBinary_eq h b
  rw [coded]
  exact withSign_lt below _

/-- A significand of full length at an exponent, or any significand at the least exponent. -/
structure Canonical (f : Format) (m : Nat) (e : Int) : Prop extends f.Holds m e where
  full : e = f.minExponent ∨ f.fractionSize ≤ m

theorem Canonical.lt (h : f.Sound) {m : Nat} {e : Int} (canonical : f.Canonical m e) :
    m < 2 * f.fractionSize :=
  h.two_mul_fractionSize ▸ canonical.significand

theorem Canonical.encode_eq (h : f.Sound) {m : Nat} {e : Int} (canonical : f.Canonical m e) :
    f.encode m e = (e - f.minExponent).toNat * f.fractionSize + m ∧ f.encode m e < f.signBit := by
  have significand := canonical.lt h
  have low := canonical.low
  have high := canonical.high
  have below : (e - f.minExponent).toNat * f.fractionSize + m < f.infinity :=
    calc
      _ < ((e - f.minExponent).toNat + 2) * f.fractionSize := by rw [add_mul]; omega
      _ ≤ f.infinity := Nat.mul_le_mul_right _ (by simp only [Nat.pow_eq]; omega)
  have infinity : f.infinity ≤ f.signBit := Nat.mul_le_mul_right _ (Nat.sub_le _ _)
  have finite : f.encode m e = (e - f.minExponent).toNat * f.fractionSize + m :=
    min_eq_left below.le
  exact ⟨finite, by omega⟩

/-- The fields of a code that has a sign. -/
theorem decode_withSign {code : Nat} (below : code < f.signBit) (negative : Bool) :
    f.decode (f.withSign negative code) =
      if code / f.fractionSize = 0 then .finite negative (code % f.fractionSize) f.minExponent
      else if code / f.fractionSize < 2 ^ f.exponentBits - 1 then
        .finite negative (f.fractionSize + code % f.fractionSize)
          (f.minExponent + ((code / f.fractionSize : Nat) - 1))
      else if code % f.fractionSize = 0 then .infinite negative
      else .nan negative (code % f.fractionSize) (f.precision - 1) := by
  simp only [decode, signBit_le_withSign below, withSign_mod below, Nat.pow_eq]

/-- From the code of infinity on stand the NaNs, by their fractions. -/
theorem decode_infinity_add (h : f.Sound) (negative : Bool) {fraction : Nat}
    (small : fraction < f.fractionSize) :
    f.decode (f.withSign negative (f.infinity + fraction)) =
      if fraction = 0 then .infinite negative else .nan negative fraction (f.precision - 1) := by
  have bound := f.infinity_add_fractionSize
  have exponents := h.four_le
  rw [decode_withSign (by omega), infinity, Nat.pow_eq, Nat.mul_comm,
    Nat.mul_add_div f.fractionSize_pos, Nat.mul_add_mod, Nat.div_eq_of_lt small,
    Nat.mod_eq_of_lt small, if_neg (by omega), if_neg (by omega)]

theorem decode_ofBinary_infinite (h : f.Sound) (negative : Bool) :
    f.decode (f.ofBinary (.infinite negative)) = .infinite negative :=
  decode_infinity_add h negative f.fractionSize_pos

/-- A NaN becomes a quiet one, and keeps what there is room for of the rest of its fraction. -/
theorem decode_ofBinary_nan (h : f.Sound) (negative : Bool) (fraction width : Nat) :
    f.decode (f.ofBinary (.nan negative fraction width)) =
      .nan negative (f.quietBit + fraction * f.fractionSize / 2 ^ width % f.quietBit)
        (f.precision - 1) := by
  have positive := f.fractionSize_pos
  have half := h.two_mul_quietBit
  have rest : fraction * f.fractionSize / 2 ^ width % f.quietBit < f.quietBit :=
    Nat.mod_lt _ (by omega)
  rw [ofBinary, quietCode, nanCode, Nat.pow_eq, Nat.add_assoc, decode_infinity_add h _ (by omega),
    if_neg (by omega)]

/-- The code of a number in its canonical form stands for that form. -/
theorem decode_encode (h : f.Sound) {m : Nat} {e : Int} (canonical : f.Canonical m e)
    (negative : Bool) : f.decode (f.withSign negative (f.encode m e)) = .finite negative m e := by
  obtain ⟨finite, below⟩ := canonical.encode_eq h
  have significand := canonical.lt h
  rw [decode_withSign below, finite]
  rcases lt_or_ge m f.fractionSize with small | large
  · -- the numbers at the least exponent that have no leading bit
    obtain rfl : e = f.minExponent := canonical.full.resolve_right (not_le.mpr small)
    rw [sub_self, Int.toNat_zero, Nat.zero_mul, Nat.zero_add, Nat.div_eq_of_lt small,
      Nat.mod_eq_of_lt small, if_pos rfl]
  · obtain ⟨r, rfl⟩ : ∃ r, m = f.fractionSize + r := ⟨m - f.fractionSize, by omega⟩
    have low := canonical.low
    have high := canonical.high
    have rest : r < f.fractionSize := by omega
    have code : (e - f.minExponent).toNat * f.fractionSize + (f.fractionSize + r) =
        f.fractionSize * ((e - f.minExponent).toNat + 1) + r := by ring
    rw [code, Nat.mul_add_div f.fractionSize_pos, Nat.mul_add_mod, Nat.div_eq_of_lt rest,
      Nat.mod_eq_of_lt rest, Nat.add_zero, if_neg (Nat.succ_ne_zero _), if_pos (by omega)]
    congr 1
    omega

/-! ### Rounding what needs no rounding -/

theorem nearest_mul {q d : Nat} (pos : 0 < d) : nearest (q * d) d = q := by
  simp [nearest, Nat.mul_div_cancel _ pos, pos.ne]

/-- At an exponent that is not above its own, a number is an integer. -/
theorem ratioAt_of_le (m : Nat) {e x : Int} (le : x ≤ e) :
    ratioAt (m * 2 ^ e.toNat) (2 ^ (-e).toNat) x =
      (m * 2 ^ (e - x).toNat * 2 ^ ((-e).toNat + x.toNat), 2 ^ ((-e).toNat + x.toNat)) := by
  have exponents : e.toNat + (-x).toNat = (e - x).toNat + ((-e).toNat + x.toNat) := by omega
  simp only [ratioAt, Nat.pow_eq, mul_assoc, ← pow_add, exponents]

theorem log2_mul_two_pow {m : Nat} (nonzero : m ≠ 0) (k : Nat) :
    (m * 2 ^ k).log2 = m.log2 + k := by
  induction k with
  | zero => simp
  | succ k ih =>
    have nonzero' : m * 2 ^ k ≠ 0 := Nat.mul_ne_zero nonzero (by positivity)
    rw [pow_succ, ← mul_assoc, mul_comm, Nat.log2_two_mul nonzero', ih, Nat.add_assoc]

/-- A number that the format has room for is rounded at an exponent at which it has a canonical
form. -/
theorem canonical_exponentFor {m : Nat} {e : Int} (h : f.Sound) (holds : f.Holds m e)
    (nonzero : m ≠ 0) {x : Int}
    (chosen : f.exponentFor (m * 2 ^ e.toNat) (2 ^ (-e).toNat) = x) :
    x ≤ e ∧ f.Canonical (m * 2 ^ (e - x).toNat) x := by
  have significand := holds.significand
  have minimum := holds.low
  have high := holds.high
  have bits : m.log2 < f.precision := (Nat.log2_lt nonzero).mpr significand
  obtain ⟨low, least⟩ : ∃ low, low = max ((m.log2 : Int) + e - f.precision) f.minExponent := ⟨_, rfl⟩
  have below : low ≤ e := by omega
  have quotient : ((m * 2 ^ e.toNat).log2 : Int) - (2 ^ (-e).toNat).log2 = m.log2 + e := by
    rw [log2_mul_two_pow nonzero, Nat.log2_two_pow]
    omega
  simp only [exponentFor, quotient, ← least, ratioAt_of_le m below,
    Nat.mul_div_cancel _ (show 0 < 2 ^ ((-e).toNat + low.toNat) by positivity), Nat.pow_eq] at chosen
  split at chosen
  · -- with fewer bits than the format holds only at the least exponent
    rename_i short
    subst chosen
    refine ⟨below, ⟨short, by omega, by omega⟩, ?_⟩
    by_contra notLeast
    rw [not_or] at notLeast
    have shift : m.log2 + (e - low).toNat = f.precision := by omega
    have full : 2 ^ f.precision ≤ m * 2 ^ (e - low).toNat := by
      rw [← shift, pow_add]
      exact Nat.mul_le_mul_right _ (Nat.log2_self_le nonzero)
    omega
  · rename_i long
    subst chosen
    have above : low < e := by
      by_contra notAbove
      have none : (e - low).toNat = 0 := by omega
      rw [none, pow_zero, Nat.mul_one] at long
      exact long significand
    have next : (e - low).toNat = (e - (low + 1)).toNat + 1 := by omega
    have shift : m.log2 + 1 + (e - (low + 1)).toNat ≤ f.precision := by omega
    have short : m * 2 ^ (e - (low + 1)).toNat < 2 ^ f.precision :=
      calc
        _ < 2 ^ (m.log2 + 1) * 2 ^ (e - (low + 1)).toNat :=
          Nat.mul_lt_mul_of_pos_right Nat.lt_log2_self (by positivity)
        _ ≤ 2 ^ f.precision := by
          rw [← pow_add]
          exact Nat.pow_le_pow_right (by decide) shift
    have full : 2 * f.fractionSize ≤ 2 * (m * 2 ^ (e - (low + 1)).toNat) := by
      rw [next, pow_succ, ← mul_assoc, not_lt, ← h.two_mul_fractionSize] at long
      omega
    exact ⟨by omega, ⟨short, by omega, by omega⟩, .inr (by omega)⟩

/-- The number nearest to one that the format has room for is that number. -/
theorem value_ofBinary (h : f.Sound) {m : Nat} {e : Int} (holds : f.Holds m e) (negative : Bool) :
    (f.decode (f.ofBinary (.finite negative m e))).value? =
      (Binary.finite negative m e).value? := by
  simp only [ofBinary, round, Nat.pow_eq]
  by_cases zero : m = 0
  · subst zero
    rw [if_pos (Nat.zero_mul _), decode_withSign f.signBit_pos]
    simp [Binary.value?]
  · obtain ⟨x, chosen⟩ : ∃ x, f.exponentFor (m * 2 ^ e.toNat) (2 ^ (-e).toNat) = x := ⟨_, rfl⟩
    obtain ⟨below, canonical⟩ := canonical_exponentFor h holds zero chosen
    have nonzero : ¬m * 2 ^ e.toNat = 0 := Nat.mul_ne_zero zero (by positivity)
    simp only [if_neg nonzero, chosen, ratioAt_of_le m below,
      nearest_mul (show 0 < 2 ^ ((-e).toNat + x.toNat) by positivity)]
    rw [decode_encode h canonical]
    have exponent : ((e - x).toNat : Int) + x = e := by omega
    simp only [Binary.value?, signed_mul, Option.some.injEq]
    push_cast
    rw [mul_assoc, ← zpow_natCast, ← zpow_add₀ (by norm_num), exponent]

/-- A format has room for what it has codes for, and so has every format with more bits. -/
theorem value_widened {g : Format} (hf : f.Sound) (hg : g.Sound)
    (precision : f.precision ≤ g.precision) (low : g.minExponent ≤ f.minExponent)
    (high : f.minExponent + (2 ^ f.exponentBits : Nat) ≤ g.minExponent + (2 ^ g.exponentBits : Nat))
    {code : Nat} {x : Binary} (decoded : f.decode code = x) (finite : x.value?.isSome) :
    (g.decode (g.ofBinary x)).value? = x.value? := by
  cases x with
  | finite negative m e =>
    have holds := holds_of_decode hf decoded
    have wider : 2 ^ f.precision ≤ 2 ^ g.precision := Nat.pow_le_pow_right (by decide) precision
    exact value_ofBinary hg ⟨holds.significand.trans_le wider, low.trans holds.low,
      holds.high.trans high⟩ negative
  | infinite | nan => cases finite

end Format

/-- The double of a single stands for what is made of the single. -/
theorem Single.decode_toDouble (x : Single) :
    x.toDouble.decode = Format.double.decode (Format.double.ofBinary x.decode) := by
  have bits : 2 * Format.double.signBit = 2 ^ 64 := by decide
  have fits : Format.double.ofBinary x.decode < 2 ^ 64 :=
    bits ▸ Format.ofBinary_lt Format.sound_double _
  rw [Single.toDouble, Double.ofBinary, Double.ofCode, Double.decode, UInt64.toNat_ofNat',
    Nat.mod_eq_of_lt fits]

/-- A finite single is the same number as a double. -/
theorem value_toDouble {x : Single} (finite : x.decode.value?.isSome) :
    x.toDouble.decode.value? = x.decode.value? := by
  rw [Single.decode_toDouble]
  exact Format.value_widened Format.sound_single Format.sound_double (by decide) (by decide)
    (by decide) (show Format.single.decode x.bits.toNat = x.decode from rfl) finite

end ExprLang.Number
