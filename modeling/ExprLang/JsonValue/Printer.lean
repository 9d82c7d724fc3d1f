import ExprLang.JsonValue

/-!
# JSON values as text

Values are written on one line or with every item on a line of its own.
-/

namespace ExprLang.JsonValue

open Number (Double)

/-- Where lines end and what follows the name of a member. -/
structure Layout where
  /-- What stands before an item, by how deep it is nested. -/
  lineBreak : Nat → String
  colon : String

/-- Everything on one line, without spaces. -/
def Layout.compact : Layout :=
  ⟨fun _ => "", ":"⟩

/-- Every item on a line of its own, two spaces further in than what holds it. -/
def Layout.pretty : Layout :=
  ⟨fun depth => "\n" ++ String.ofList (List.replicate (2 * depth) ' '), ": "⟩

/-- A hexadecimal digit, in lower case. -/
def hexDigit (n : Nat) : Char :=
  n.digitChar

/-- A character within quotes: quotes, backslashes and control characters are escaped. -/
def quotedChar (c : Char) : List Char :=
  match c with
  | '"' => ['\\', '"']
  | '\\' => ['\\', '\\']
  | '\x08' => ['\\', 'b']
  | '\x0c' => ['\\', 'f']
  | '\n' => ['\\', 'n']
  | '\r' => ['\\', 'r']
  | '\t' => ['\\', 't']
  | c =>
    if c.toNat < 32 then
      ['\\', 'u', '0', '0', hexDigit (c.toNat / 16), hexDigit (c.toNat % 16)]
    else [c]

/-- A text in quotes. -/
def quoted (s : String) : String :=
  String.ofList ('"' :: s.toList.flatMap quotedChar ++ ['"'])

/-- How doubles are written: with a point unless there is an exponent, which stands outside of
the range from a hundred-thousandth to ten to the sixteenth, always with a sign. -/
def doubleStyle : Double.Style :=
  ⟨.even, -5, 16, false, ['e', '+'], ['e', '-']⟩

/-- The text of a double; what is not finite is null. -/
def doubleText (x : Double) : String :=
  match x.finiteChars? doubleStyle with
  | some cs => String.ofList cs
  | none => "null"

/-- Items between brackets, at some depth. -/
def enclosed (layout : Layout) (depth : Nat) (left right : String) (items : List String) :
    String :=
  if items.isEmpty then left ++ right
  else
    left ++ ",".intercalate (items.map fun item => layout.lineBreak (depth + 1) ++ item) ++
      layout.lineBreak depth ++ right

mutual

/-- The text of a value at some depth. -/
def render (layout : Layout) (depth : Nat) : JsonValue → String
  | null => "null"
  | boolean b => if b then "true" else "false"
  | integer n => Number.integerText n
  | double x => doubleText x
  | string s => quoted s
  | array items => enclosed layout depth "[" "]" (renderAll layout (depth + 1) items)
  | object members =>
    enclosed layout depth "\x7b" "\x7d" (renderMembers layout (depth + 1) members)

/-- The texts of several values. -/
def renderAll (layout : Layout) (depth : Nat) : List JsonValue → List String
  | [] => []
  | v :: vs => render layout depth v :: renderAll layout depth vs

/-- The texts of several members. -/
def renderMembers (layout : Layout) (depth : Nat) : List (String × JsonValue) → List String
  | [] => []
  | m :: ms => renderMember layout depth m :: renderMembers layout depth ms

/-- The text of a member. -/
def renderMember (layout : Layout) (depth : Nat) : String × JsonValue → String
  | (name, v) => quoted name ++ layout.colon ++ render layout depth v

end

/-- The text of a value on one line. -/
def compact (v : JsonValue) : String :=
  render .compact 0 v

/-- The text of a value over several lines. -/
def pretty (v : JsonValue) : String :=
  render .pretty 0 v

end ExprLang.JsonValue
