import ExprLang.Text.Alphabet.Letters
import ExprLang.Text.Category

/-!
# Character classes of Unicode

Below 128 each class is decided by comparison, from 128 up by tables.
-/

namespace ExprLang.Text

/-- Whether one of the ranges holds the code point. -/
def inRanges (ranges : List (Nat × Nat)) (code : Nat) : Bool :=
  ranges.any fun r => r.1 ≤ code && code ≤ r.2

/-- The ASCII decimal digits. -/
def isDigit (c : Char) : Bool :=
  '0' ≤ c && c ≤ '9'

/-- The Unicode property Alphabetic. -/
def isAlphabetic (c : Char) : Bool :=
  if c.toNat < 128 then c.isAlpha else inRanges Alphabet.letters c.toNat

/-- Of a numeric category (Nd, Nl, No). -/
def isNumeric (c : Char) : Bool :=
  if c.toNat < 128 then isDigit c else Category.numbers.any (·.holds c)

/-- Alphabetic or numeric. -/
def isAlphanumeric (c : Char) : Bool :=
  isAlphabetic c || isNumeric c

/-- A decimal digit of any script (category Nd). -/
def isDecimalDigit (c : Char) : Bool :=
  if c.toNat < 128 then isDigit c else Category.decimalNumber.holds c

/-- A character that joins or separates its neighbours without any look of its own (the property
Join_Control). -/
def isJoiner (c : Char) : Bool :=
  c == '\u200c' || c == '\u200d'

/-- A character that patterns count as part of a word: a letter, a mark, a decimal digit, a
connector or a joiner. -/
def isWord (c : Char) : Bool :=
  if c.toNat < 128 then c.isAlpha || isDigit c || c == '_'
  else isAlphabetic c || isDecimalDigit c || Category.connectorPunctuation.holds c ||
    Category.marks.any (·.holds c) || isJoiner c

/-- Every letter is alphanumeric. -/
theorem isAlphanumeric_of_isAlphabetic {c : Char} (h : isAlphabetic c = true) :
    isAlphanumeric c = true := by
  simp [isAlphanumeric, h]

end ExprLang.Text
