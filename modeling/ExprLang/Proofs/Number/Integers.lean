import ExprLang.Number.Integer

/-!
# Integers in writing

An integer that is written in decimal is read as itself, by every reader that has room for it
(`readInteger?_integerChars`, `readFixed?_integerChars`, `readGrouped?_integerChars`), and a reader for a
width reads nothing that is out of its range (`range_of_readFixed?`).
-/

namespace ExprLang.Number

theorem isDigit_of_mem_digits {n : Nat} {c : Char} (h : c ∈ digits n) :
    Text.isDigit c = true := by
  have digit : c.isDigit = true := Nat.isDigit_of_mem_toDigits (by decide) (by decide) h
  simpa [Text.isDigit, Char.isDigit, Char.le_def] using digit

theorem valueOf_digits (n : Nat) : valueOf (digits n) = n :=
  Nat.ofDigitChars_toDigits (by decide) (by decide)

theorem digits_ne_nil (n : Nat) : digits n ≠ [] :=
  Nat.toDigits_ne_nil

theorem readDigits?_digits (n : Nat) : readDigits? (digits n) = some n := by
  have all : (digits n).all Text.isDigit = true :=
    List.all_eq_true.mpr fun _ => isDigit_of_mem_digits
  have some_digit : (digits n).isEmpty = false := by simp [digits_ne_nil]
  rw [readDigits?, all, some_digit, valueOf_digits]
  rfl

/-- A sign is no digit. -/
theorem splitSign_digits (n : Nat) : splitSign (digits n) = (false, digits n) := by
  unfold splitSign
  split
  · rename_i cs first
    exact absurd (isDigit_of_mem_digits (n := n) (c := '-') (by simp [first])) (by decide)
  · rename_i cs first
    exact absurd (isDigit_of_mem_digits (n := n) (c := '+') (by simp [first])) (by decide)
  · rfl

/-- What is written for an integer splits into its sign and its digits. -/
theorem splitSign_integerChars (n : Int) :
    splitSign (integerChars n) = (decide (n < 0), digits n.natAbs) := by
  unfold integerChars
  cases negative : decide (n < 0) with
  | true => rfl
  | false => exact splitSign_digits _

theorem signed_natAbs (n : Int) : signed (decide (n < 0)) n.natAbs = n := by
  unfold signed
  by_cases negative : n < 0
  · rw [if_pos (decide_eq_true negative)]
    omega
  · rw [if_neg (by simpa using negative)]
    omega

theorem readInteger?_integerChars (n : Int) : readInteger? (integerChars n) = some n := by
  unfold readInteger?
  rw [splitSign_integerChars]
  dsimp only
  rw [readDigits?_digits, Option.map_some, signed_natAbs]

theorem readFixed?_integerChars {width : Nat} {n : Int} (low : -Nat.pow 2 (width - 1) ≤ n)
    (high : n < Nat.pow 2 (width - 1)) : readFixed? width (integerChars n) = some n := by
  rw [readFixed?, readInteger?_integerChars, Option.filter_some, if_pos]
  simpa using ⟨low, high⟩

theorem readGrouped?_integerChars (n : Int) : readGrouped? (integerChars n) = some n := by
  -- there are no underscores to leave out
  have kept : (digits n.natAbs).filter (· != '_') = digits n.natAbs := by
    rw [List.filter_eq_self]
    intro c mem
    have digit := isDigit_of_mem_digits mem
    rw [bne_iff_ne]
    rintro rfl
    exact absurd digit (by decide)
  have first : (digits n.natAbs).head?.any Text.isDigit = true := by
    cases written : digits n.natAbs with
    | nil => exact absurd written (digits_ne_nil _)
    | cons c cs => exact isDigit_of_mem_digits (n := n.natAbs) (by simp [written])
  unfold readGrouped?
  rw [splitSign_integerChars]
  dsimp only
  rw [if_pos first, kept, readDigits?_digits, Option.map_some, signed_natAbs]

/-- An integer that is read in a width is in the range of the width. -/
theorem range_of_readFixed? {width : Nat} {cs : List Char} {n : Int}
    (read : readFixed? width cs = some n) :
    -Nat.pow 2 (width - 1) ≤ n ∧ n < Nat.pow 2 (width - 1) := by
  have inRange := (Option.filter_eq_some_iff.mp read).2
  simpa using inRange

end ExprLang.Number
