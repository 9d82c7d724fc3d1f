import ExprLang.Token

/-!
# Errors of reading

What can be wrong with a text. Each error names its cause and its place; the wording is in
`ParseError.message`.
-/

namespace ExprLang

/-- What the parser looked for where it found something else. -/
inductive Expectation where
  | token (kind : TokenKind)
  | identifier
  | expression
  /-- Literal text, or the start of an expression in a template. -/
  | templatePart
deriving DecidableEq, Repr, Inhabited

/-- How messages name what was looked for. -/
def Expectation.text : Expectation → String
  | token kind => "'" ++ kind.image ++ "'"
  | identifier => "identifier"
  | expression => "expression"
  | templatePart => "literal text or expression start"

/-- The ways in which a text can fail to be a template or an expression. -/
inductive ParseError where
  /-- Another token than the grammar admits. -/
  | unexpectedToken (expected : Expectation) (found : Token)
  /-- The text ends where the grammar wants more. -/
  | unexpectedEnd (expected : Expectation) (position : Position)
  /-- A character that begins no token. -/
  | illegalCharacter (ch : Char) (position : Position)
  /-- A string without its closing quote; the place is that of the opening one. -/
  | unterminatedString (position : Position)
  /-- A backslash before a character that needs none; the place is that of the character. -/
  | invalidEscape (ch : Char) (position : Position)
  /-- A literal that denotes no number. -/
  | invalidNumber (lexeme : String) (position : Position)
  /-- Both kinds of expression start in one template. -/
  | mixedModes (position : Position)
  /-- An assignment to something that has no place to store a value. -/
  | invalidTarget (position : Position)
deriving DecidableEq, Repr, Inhabited

namespace ParseError

/-- Where the error is. -/
def position : ParseError → Position
  | unexpectedToken _ found => found.position
  | unexpectedEnd _ p => p
  | illegalCharacter _ p => p
  | unterminatedString p => p
  | invalidEscape _ p => p
  | invalidNumber _ p => p
  | mixedModes p => p
  | invalidTarget p => p

/-- The source text at fault, where there is one. -/
def lexeme? : ParseError → Option String
  | unexpectedToken _ found => some found.text
  | illegalCharacter ch _ => some ch.toString
  | invalidEscape ch _ => some ("\\" ++ ch.toString)
  | invalidNumber lexeme _ => some lexeme
  | _ => none

/-- What is wrong, without the place. -/
def detail : ParseError → String
  | unexpectedToken expected found =>
    "expected " ++ expected.text ++ ", found '" ++ found.text ++ "'"
  | unexpectedEnd expected _ => "expected " ++ expected.text ++ ", found end of input"
  | illegalCharacter ch _ => "illegal character '" ++ ch.toString ++ "'"
  | unterminatedString _ => "unterminated string literal"
  | invalidEscape ch _ => "invalid escape sequence '\\" ++ ch.toString ++ "'"
  | invalidNumber lexeme _ => "invalid numeric literal '" ++ lexeme ++ "'"
  | mixedModes _ => "'$\x7b' and '#\x7b' cannot be mixed in one expression"
  | invalidTarget _ => "left side of '=' must be an identifier or a property"

/-- The message shown to the user. -/
def message (e : ParseError) : String :=
  "Syntax error at " ++ e.position.text ++ ": " ++ e.detail

end ParseError

end ExprLang
