import ExprLang.Number.Integer
import Mathlib.Data.Int.ModEq
import Mathlib.Tactic.NormNum
import Mathlib.Tactic.Ring

/-!
# Integers cut down to a width

An integer of so many bits in two's complement is told by its residue (`Wraps.unique`). `wrap` gives the
one for an integer (`wraps_wrap`).
-/

namespace ExprLang.Number

/-- The integer `r` of `width` bits in two's complement agrees with `n` modulo `2 ^ width`. -/
structure Wraps (width : Nat) (n r : Int) : Prop where
  low : -2 ^ (width - 1) ≤ r
  high : r < 2 ^ (width - 1)
  congruent : r ≡ n [ZMOD 2 ^ width]

variable {width narrow wide : Nat} {n m r r' : Int}

theorem two_pow_eq (pos : 0 < width) : (2 : Int) ^ width = 2 * 2 ^ (width - 1) := by
  rw [← pow_succ', Nat.sub_add_cancel pos]

/-- Only one integer of a width agrees with an integer. -/
theorem Wraps.unique (pos : 0 < width) (h : Wraps width n r) (h' : Wraps width n r') : r = r' := by
  have size := two_pow_eq pos
  have close : |r - r'| < 2 ^ width := by
    rw [abs_lt]
    have := h.low
    have := h.high
    have := h'.low
    have := h'.high
    constructor <;> omega
  have multiple : (2 : Int) ^ width ∣ r - r' := (h'.congruent.trans h.congruent.symm).dvd
  exact sub_eq_zero.mp (Int.eq_zero_of_abs_lt_dvd multiple close)

theorem wraps_wrap (pos : 0 < width) (n : Int) : Wraps width n (wrap width n) := by
  have size := two_pow_eq pos
  have positive : 0 < 2 ^ width := Nat.two_pow_pos width
  have low := Int.le_bmod (x := n) positive
  have high := Int.bmod_lt (x := n) positive
  push_cast at low high
  refine ⟨?_, ?_, ?_⟩
  · show -2 ^ (width - 1) ≤ n.bmod (2 ^ width)
    omega
  · show n.bmod (2 ^ width) < 2 ^ (width - 1)
    omega
  · show n.bmod (2 ^ width) % 2 ^ width = n % 2 ^ width
    exact_mod_cast Int.bmod_emod (x := n) (m := 2 ^ width)

/-- Integers that agree modulo a power of two are cut down to the same integer. -/
theorem wrap_congr (agree : n ≡ m [ZMOD 2 ^ width]) : wrap width n = wrap width m := by
  have residues : n % (2 ^ width : Nat) = m % (2 ^ width : Nat) := by exact_mod_cast agree
  show n.bmod (2 ^ width) = m.bmod (2 ^ width)
  rw [← Int.emod_bmod n, ← Int.emod_bmod m, residues]

/-- What is cut down to a width still agrees modulo a smaller power of two. -/
theorem Wraps.agree (le : narrow ≤ wide) (h : Wraps wide n r) : r ≡ n [ZMOD 2 ^ narrow] :=
  h.congruent.of_dvd (pow_dvd_pow 2 le)

end ExprLang.Number
