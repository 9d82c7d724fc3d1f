import ExprLang.Text.Category.Letters
import ExprLang.Text.Category.Marks
import ExprLang.Text.Category.Numbers
import ExprLang.Text.Category.Punctuation
import ExprLang.Text.Category.Symbols
import ExprLang.Text.Category.Others

/-!
# General categories

The general category that Unicode gives every character. No character is a surrogate, so there is
no category for those.
-/

namespace ExprLang.Text

/-- A general category. -/
inductive Category where
  | uppercaseLetter | lowercaseLetter | titlecaseLetter | modifierLetter | otherLetter
  | nonspacingMark | spacingMark | enclosingMark
  | decimalNumber | letterNumber | otherNumber
  | connectorPunctuation | dashPunctuation | openPunctuation | closePunctuation
  | initialPunctuation | finalPunctuation | otherPunctuation
  | mathSymbol | currencySymbol | modifierSymbol | otherSymbol
  | spaceSeparator | lineSeparator | paragraphSeparator
  | control | format | privateUse
  | unassigned
deriving DecidableEq, Repr, Inhabited

namespace Category

/-- The table of a category; there is none for what is not assigned. -/
def stretches : Category → List Stretch
  | uppercaseLetter => uppercaseLetters
  | lowercaseLetter => lowercaseLetters
  | titlecaseLetter => titlecaseLetters
  | modifierLetter => modifierLetters
  | otherLetter => otherLetters
  | nonspacingMark => nonspacingMarks
  | spacingMark => spacingMarks
  | enclosingMark => enclosingMarks
  | decimalNumber => decimalNumbers
  | letterNumber => letterNumbers
  | otherNumber => otherNumbers
  | connectorPunctuation => connectorPunctuations
  | dashPunctuation => dashPunctuations
  | openPunctuation => openPunctuations
  | closePunctuation => closePunctuations
  | initialPunctuation => initialPunctuations
  | finalPunctuation => finalPunctuations
  | otherPunctuation => otherPunctuations
  | mathSymbol => mathSymbols
  | currencySymbol => currencySymbols
  | modifierSymbol => modifierSymbols
  | otherSymbol => otherSymbols
  | spaceSeparator => spaceSeparators
  | lineSeparator => lineSeparators
  | paragraphSeparator => paragraphSeparators
  | control => controls
  | format => formats
  | privateUse => privateUses
  | unassigned => []

/-- The categories of letters. -/
def letters : List Category :=
  [uppercaseLetter, lowercaseLetter, titlecaseLetter, modifierLetter, otherLetter]

/-- The categories of combining marks. -/
def marks : List Category :=
  [nonspacingMark, spacingMark, enclosingMark]

/-- The categories of numbers. -/
def numbers : List Category :=
  [decimalNumber, letterNumber, otherNumber]

/-- The categories of punctuation. -/
def punctuation : List Category :=
  [connectorPunctuation, dashPunctuation, openPunctuation, closePunctuation, initialPunctuation,
    finalPunctuation, otherPunctuation]

/-- The categories of symbols. -/
def symbols : List Category :=
  [mathSymbol, currencySymbol, modifierSymbol, otherSymbol]

/-- The categories of separators. -/
def separators : List Category :=
  [spaceSeparator, lineSeparator, paragraphSeparator]

/-- The categories of assigned characters. -/
def assigned : List Category :=
  letters ++ marks ++ numbers ++ punctuation ++ symbols ++ separators ++
    [control, format, privateUse]

/-- Whether a character is of a category. -/
def holds (k : Category) (c : Char) : Bool :=
  if k = unassigned then !assigned.any fun a => a.stretches.any (·.holds c.toNat)
  else k.stretches.any (·.holds c.toNat)

end Category

end ExprLang.Text
