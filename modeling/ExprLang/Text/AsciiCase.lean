/-!
# Texts up to the case of ASCII letters

A text that is to be a truth value, or a setting, is compared with a word in this way.
-/

namespace ExprLang.Text

/-- Equality of texts up to the case of ASCII letters. -/
def equalsIgnoringAsciiCase (s t : String) : Bool :=
  s.toList.map Char.toLower == t.toList.map Char.toLower

end ExprLang.Text
