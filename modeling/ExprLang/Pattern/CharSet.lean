import ExprLang.Text.Blank
import ExprLang.Text.Case

/-!
# Character sets

A pattern describes sets of characters by their members, ranges and categories, and by combining
others.
-/

namespace ExprLang

/-- A set of characters. -/
inductive CharSet where
  | none
  | range (low high : Char)
  | category (k : Text.Category)
  | alphabetic
  | blank
  /-- Characters that have an upper or a lower case. -/
  | cased
  /-- Characters that do not part a word where its case matters. -/
  | caseIgnorable
  | word
  | complement (s : CharSet)
  | union (s t : CharSet)
  | inter (s t : CharSet)
  /-- All characters that differ from one of the set in case only. -/
  | folded (s : CharSet)
deriving Repr, Inhabited

namespace CharSet

/-- Whether a set holds a character. -/
def contains : CharSet → Char → Bool
  | none, _ => false
  | range low high, c => low ≤ c && c ≤ high
  | category k, c => k.holds c
  | alphabetic, c => Text.isAlphabetic c
  | blank, c => Text.isBlank c
  | cased, c => Text.isCased c
  | caseIgnorable, c => Text.isCaseIgnorable c
  | word, c => Text.isWord c
  | complement s, c => !s.contains c
  | union s t, c => s.contains c || t.contains c
  | inter s t, c => s.contains c && t.contains c
  | folded s, c => (Text.caseVariants c).any s.contains

/-- The set of one character. -/
def single (c : Char) : CharSet :=
  range c c

/-- The set of all characters. -/
def all : CharSet :=
  complement none

/-- The decimal digits of any script. -/
def digit : CharSet :=
  category .decimalNumber

/-- The set of the members of either list of sets. -/
def unionAll (sets : List CharSet) : CharSet :=
  sets.foldl union none

/-- The characters of several categories. -/
def categories (ks : List Text.Category) : CharSet :=
  unionAll (ks.map category)

/-- The union of several ranges. -/
def ranges (bounds : List (Char × Char)) : CharSet :=
  unionAll (bounds.map fun (low, high) => range low high)

/-- The characters of upper case: letters, Roman numerals and letters in a circle or a square. -/
def uppercase : CharSet :=
  union (category .uppercaseLetter)
    (ranges [('Ⅰ', 'Ⅿ'), ('Ⓐ', 'Ⓩ'), ('🄰', '🅉'), ('🅐', '🅩'), ('🅰', '🆉')])

/-- The characters of lower case: those that have a case, but neither upper nor title case. -/
def lowercase : CharSet :=
  inter cased (complement (union uppercase (category .titlecaseLetter)))

end CharSet

end ExprLang
