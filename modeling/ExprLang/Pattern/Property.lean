import ExprLang.Pattern.CharSet

/-!
# Properties of characters in patterns

The properties of characters that a pattern may name. Case, spaces, hyphens and underscores in a
name do not matter, nor does an `is` in front of it. Categories have a short and a long name;
scripts and ages are not known.
-/

namespace ExprLang.CharSet

open Text (Category)

/-- A name without what does not matter in it. -/
def plainName (name : List Char) : String :=
  let unprefixed :=
    if ['i', 's'].isPrefixOf (name.map Char.toLower) then name.drop 2 else name
  String.ofList ((unprefixed.filter isSignificant).map Char.toLower)
where
  /-- Whether a character of a name matters. -/
  isSignificant (c : Char) : Bool := c.toNat < 128 && !(c == ' ' || c == '_' || c == '-')

/-- The properties that a character has or has not. -/
def ofProperty? : String → Option CharSet
  | "alphabetic" | "alpha" => some alphabetic
  | "cased" => some cased
  | "caseignorable" | "ci" => some caseIgnorable
  | "lowercase" | "lower" => some lowercase
  | "uppercase" | "upper" => some uppercase
  | "whitespace" | "wspace" | "space" => some blank
  | _ => Option.none

/-- The general categories and groups of them. -/
def ofCategory? : String → Option CharSet
  | "any" => some all
  | "ascii" => some (range '\x00' '\x7f')
  | "assigned" => some (complement (category .unassigned))
  | "l" | "letter" => some (categories Category.letters)
  | "lc" | "casedletter" =>
    some (categories [.uppercaseLetter, .lowercaseLetter, .titlecaseLetter])
  | "lu" | "uppercaseletter" => some (category .uppercaseLetter)
  | "ll" | "lowercaseletter" => some (category .lowercaseLetter)
  | "lt" | "titlecaseletter" => some (category .titlecaseLetter)
  | "lm" | "modifierletter" => some (category .modifierLetter)
  | "lo" | "otherletter" => some (category .otherLetter)
  | "m" | "mark" | "combiningmark" => some (categories Category.marks)
  | "mn" | "nonspacingmark" => some (category .nonspacingMark)
  | "mc" | "spacingmark" => some (category .spacingMark)
  | "me" | "enclosingmark" => some (category .enclosingMark)
  | "n" | "number" => some (categories Category.numbers)
  | "nd" | "decimalnumber" | "digit" => some (category .decimalNumber)
  | "nl" | "letternumber" => some (category .letterNumber)
  | "no" | "othernumber" => some (category .otherNumber)
  | "p" | "punctuation" | "punct" => some (categories Category.punctuation)
  | "pc" | "connectorpunctuation" => some (category .connectorPunctuation)
  | "pd" | "dashpunctuation" => some (category .dashPunctuation)
  | "ps" | "openpunctuation" => some (category .openPunctuation)
  | "pe" | "closepunctuation" => some (category .closePunctuation)
  | "pi" | "initialpunctuation" => some (category .initialPunctuation)
  | "pf" | "finalpunctuation" => some (category .finalPunctuation)
  | "po" | "otherpunctuation" => some (category .otherPunctuation)
  | "s" | "symbol" => some (categories Category.symbols)
  | "sm" | "mathsymbol" => some (category .mathSymbol)
  | "sc" | "currencysymbol" => some (category .currencySymbol)
  | "sk" | "modifiersymbol" => some (category .modifierSymbol)
  | "so" | "othersymbol" => some (category .otherSymbol)
  | "z" | "separator" => some (categories Category.separators)
  | "zs" | "spaceseparator" => some (category .spaceSeparator)
  | "zl" | "lineseparator" => some (category .lineSeparator)
  | "zp" | "paragraphseparator" => some (category .paragraphSeparator)
  | "c" | "other" => some (categories [.control, .format, .privateUse, .unassigned])
  | "cc" | "control" | "cntrl" => some (category .control)
  | "cf" | "format" => some (category .format)
  | "co" | "privateuse" => some (category .privateUse)
  | "cn" | "unassigned" => some (category .unassigned)
  | _ => Option.none

/-- The set that a name stands for, which may be given as a value of the general category. -/
def named? (name : List Char) : Option CharSet :=
  match name.span fun c => c != '=' && c != ':' with
  | (property, _ :: value) =>
    if isCategory (plainName (unmarked property)) then ofCategory? (plainName value)
    else Option.none
  | (_, []) => (ofProperty? (plainName name)).or (ofCategory? (plainName name))
where
  /-- Whether a name is that of the general category. -/
  isCategory (name : String) : Bool := name == "gc" || name == "generalcategory"
  /-- The name of a property without the mark of an inequality, which makes no difference. -/
  unmarked (property : List Char) : List Char :=
    if property.getLast? == some '!' then property.dropLast else property

end ExprLang.CharSet
