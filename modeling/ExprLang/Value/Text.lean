import ExprLang.Value

/-!
# The texts of values

A value has two texts: the one that expressions show, and the one for developers, which names the kind
as well.
-/

namespace ExprLang

/-- How a clock is shown. -/
def Clock.text (c : Clock) : String :=
  match c.reading with
  | some t => "FixedClock(" ++ t.text ++ ")"
  | none => "SystemClock"

/-- How an object of the application is shown where its text must not fail. -/
def HostObject.shownText (o : HostObject) : String :=
  match o.text with
  | .text s => s
  | _ => "<" ++ o.typeName ++ ">"

namespace Value

/-- The text of a value that contains no others. -/
def leafText : Value → String
  | null => "null"
  | boolean b => if b then "true" else "false"
  | char c => c.toString
  | byte n => Number.integerText n.toInt
  | short n => Number.integerText n.toInt
  | integer n => Number.integerText n.toInt
  | long n => Number.integerText n.toInt
  | float x => x.toDouble.text
  | double x => x.text
  | bigInteger n => Number.integerText n
  | bigDecimal d => d.text
  | string s => s
  | enum m => m.name
  | instant t => t.text
  | date t => t.milliText
  | temporal t => t.text
  | clock c => c.text
  | lambda l => "lambda(" ++ ", ".intercalate l.params ++ ")"
  | adapter a => a.interface.name ++ "[lambda]"
  | object o => o.shownText
  | _ => ""

mutual

/-- The text of a value. -/
def text : Value → String
  | list items => "[" ++ ", ".intercalate (texts items) ++ "]"
  | set items => "[" ++ ", ".intercalate (texts items) ++ "]"
  | array items => "[" ++ ", ".intercalate (texts items) ++ "]"
  | map entries => "\x7b" ++ ", ".intercalate (entryTexts entries) ++ "\x7d"
  | v => v.leafText

/-- The texts of several values. -/
def texts : List Value → List String
  | [] => []
  | v :: vs => v.text :: texts vs

/-- The texts of map entries. -/
def entryTexts : List (Value × Value) → List String
  | [] => []
  | e :: es => entryText e :: entryTexts es

/-- The text of a map entry. -/
def entryText : Value × Value → String
  | (k, v) => k.text ++ "=" ++ v.text

end

/-- The text of a character in a quoted text for developers. -/
def quotedChar (c : Char) : List Char :=
  if c = '"' then ['\\', '"']
  else if c = '\\' then ['\\', '\\']
  else if c = '\n' then ['\\', 'n']
  else if c = '\t' then ['\\', 't']
  else if c = '\r' then ['\\', 'r']
  else if c = '\x00' then ['\\', '0']
  else [c]

/-- A text in double quotes for developers. -/
def quoted (s : String) : String :=
  String.ofList ('"' :: s.toList.flatMap quotedChar ++ ['"'])

/-- The text of a value for developers. -/
def debugText : Value → String
  | string s => "String(" ++ quoted s ++ ")"
  | object o => "Object(" ++ o.label ++ ")"
  | null => "Null"
  | v => v.kindName ++ "(" ++ v.text ++ ")"

end Value

end ExprLang
