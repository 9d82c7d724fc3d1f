import ExprLang.Text.Case.Upper
import ExprLang.Text.Case.Lower
import ExprLang.Text.Case.Context
import ExprLang.Text.Alphabet

/-!
# Upper and lower case

This is Unicode's full case mapping: a character may become several (`ß` becomes `SS`), and a capital
sigma at the end of a word becomes the final form `ς`.
-/

namespace ExprLang.Text

namespace Case

/-- The form of a code point in a table of runs and a table of strings, if either holds it. -/
def lookup? (runs : List Run) (strings : List (Nat × List Nat)) (code : Nat) :
    Option (List Nat) :=
  match strings.find? (·.1 == code) with
  | some entry => some entry.2
  | none => (runs.findSome? (·.form? code)).map ([·])

/-- A character's form by the tables; a character in neither is its own form. -/
def mapped (runs : List Run) (strings : List (Nat × List Nat)) (c : Char) : List Char :=
  match lookup? runs strings c.toNat with
  | some codes => codes.map Char.ofNat
  | none => [c]

end Case

/-- The upper-case form of one character. -/
def upperChar (c : Char) : List Char :=
  if c.toNat < 128 then [c.toUpper] else Case.mapped Case.upperRuns Case.upperStrings c

/-- The lower-case form of one character, taken by itself. -/
def lowerChar (c : Char) : List Char :=
  if c.toNat < 128 then [c.toLower] else Case.mapped Case.lowerRuns Case.lowerStrings c

/-- The Unicode property Cased. -/
def isCased (c : Char) : Bool :=
  inRanges Case.cased c.toNat

/-- The Unicode property Case_Ignorable. -/
def isCaseIgnorable (c : Char) : Bool :=
  inRanges Case.ignorable c.toNat

/-- Whether the first character that is not case-ignorable has case. -/
def meetsCased (cs : List Char) : Bool :=
  (cs.dropWhile isCaseIgnorable).head?.any isCased

/-- The text in upper case. -/
def toUpper (s : String) : String :=
  String.ofList (s.toList.flatMap upperChar)

/-- Lower case of `rest`, where `before` holds the characters in front of it, nearest first. A
capital sigma is final when a letter precedes it and none follows. -/
def lowerFrom (before : List Char) : List Char → List Char
  | [] => []
  | c :: rest =>
    let form :=
      if c = 'Σ' then
        (if meetsCased before && !meetsCased rest then ['ς'] else ['σ'])
      else lowerChar c
    form ++ lowerFrom (c :: before) rest

/-- The text in lower case. -/
def toLower (s : String) : String :=
  String.ofList (lowerFrom [] s.toList)

/-! ### Characters that differ in case only -/

namespace Case

/-- The characters whose representative is not the lower case of their upper case. -/
def foldings : List (Char × Char) :=
  [('ı', 'ı'), ('\u1fd3', '\u0390'), ('\u1fe3', '\u03b0'), ('ﬅ', 'ﬆ')]

/-- The only character of a list, or else `c`. -/
def onlyOr (c : Char) : List Char → Char
  | [only] => only
  | _ => c

end Case

/-- One representative for the characters that differ in case only. -/
def foldCase (c : Char) : Char :=
  match Case.foldings.lookup c with
  | some representative => representative
  | none =>
    let upper := Case.onlyOr c (upperChar c)
    Case.onlyOr upper (lowerChar upper)

/-- All characters that differ from `c` in case only, and `c` itself. -/
def caseVariants (c : Char) : List Char :=
  let lower := foldCase c
  let uppers := lower :: lower.toUpper :: sources Case.lowerRuns lower
  let all := uppers ++ uppers.flatMap (sources Case.upperRuns) ++ Case.foldings.map Prod.fst
  all.filter fun other => foldCase other == lower
where
  /-- The characters to which a table gives the form `form`. -/
  sources (runs : List Case.Run) (form : Char) : List Char :=
    (runs.filterMap (·.source? form.toNat)).map Char.ofNat

end ExprLang.Text
