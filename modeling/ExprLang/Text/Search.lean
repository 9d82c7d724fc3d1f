/-!
# Texts within texts

Whether one text occurs in another one, at any place.
-/

namespace ExprLang.Text

/-- Whether `part` occurs in `whole`. -/
def occursIn (part whole : List Char) : Bool :=
  match whole with
  | [] => part.isEmpty
  | _ :: rest => part.isPrefixOf whole || occursIn part rest

end ExprLang.Text
