import ExprLang.Position

/-!
# Tokens

Eleven operators have two spellings, a symbol and a word (`<` and `lt`); a token of such an operator
records which one was written, and everything after the lexer goes by the operator alone.
-/

namespace ExprLang

/-- The operators that have both a symbol and a word. -/
inductive DualOperator where
  | gt | lt | ge | le | eq | ne | not | and | or | div | mod
deriving DecidableEq, Repr, Inhabited

/-- How an operator with two spellings is written. -/
inductive Spelling where
  | symbol | word
deriving DecidableEq, Repr, Inhabited

namespace DualOperator

/-- All operators with two spellings. -/
def all : List DualOperator :=
  [gt, lt, ge, le, eq, ne, not, and, or, div, mod]

/-- The symbol of the operator. -/
def symbol : DualOperator → String
  | gt => ">"
  | lt => "<"
  | ge => ">="
  | le => "<="
  | eq => "=="
  | ne => "!="
  | not => "!"
  | and => "&&"
  | or => "||"
  | div => "/"
  | mod => "%"

/-- The word of the operator. -/
def word : DualOperator → String
  | gt => "gt"
  | lt => "lt"
  | ge => "ge"
  | le => "le"
  | eq => "eq"
  | ne => "ne"
  | not => "not"
  | and => "and"
  | or => "or"
  | div => "div"
  | mod => "mod"

/-- The text of the operator in one of its spellings. -/
def spelled (op : DualOperator) : Spelling → String
  | .symbol => op.symbol
  | .word => op.word

end DualOperator

/-- The kinds of tokens. -/
inductive TokenKind where
  /-- The end of the text. -/
  | endOfText
  /-- Literal text outside of any expression. -/
  | literalText
  /-- `${`, the start of an expression evaluated at once. -/
  | startDynamic
  /-- `#{`, the start of an expression left to the consumer. -/
  | startDeferred
  /-- `{` inside an expression: the start of a set or a map. -/
  | openBrace
  /-- `}`, the end of an expression, a set or a map. -/
  | closeBrace
  /-- Digits alone. -/
  | integer
  /-- Digits with a point or an exponent. -/
  | float
  /-- A quoted string; its lexeme is the text between the quotes, escapes resolved. -/
  | string
  /-- The words `true` and `false`. -/
  | boolean (b : Bool)
  /-- The word `null`. -/
  | null
  | dot
  | openParen
  | closeParen
  | openBracket
  | closeBracket
  | colon
  | semicolon
  | comma
  /-- An operator with two spellings, and the one that was written. -/
  | operator (op : DualOperator) (spelling : Spelling)
  /-- The word `empty`. -/
  | empty
  /-- The word `instanceof`. -/
  | instanceOf
  | star
  | plus
  | minus
  | question
  /-- `+=`, concatenation of texts. -/
  | concat
  /-- `=`. -/
  | assign
  /-- `->`, between the parameters and the body of a lambda. -/
  | arrow
  | identifier
  /-- The name after the colon of a qualified function call, as `length` in `fn:length(x)`. -/
  | functionSuffix
  /-- `#` that starts no expression: it introduces the name of an implicit object. -/
  | hash
  /-- A character that begins no token. -/
  | illegal
deriving DecidableEq, Repr, Inhabited

namespace TokenKind

/-- The name of the kind, as the token listing prints it. -/
def name : TokenKind → String
  | endOfText => "Eof"
  | literalText => "LiteralText"
  | startDynamic => "StartDynamic"
  | startDeferred => "StartDeferred"
  | openBrace => "StartSetOrMap"
  | closeBrace => "RBrace"
  | integer => "Integer"
  | float => "Float"
  | string => "String"
  | boolean true => "True"
  | boolean false => "False"
  | null => "Null"
  | dot => "Dot"
  | openParen => "LParen"
  | closeParen => "RParen"
  | openBracket => "LBracket"
  | closeBracket => "RBracket"
  | colon => "Colon"
  | semicolon => "Semicolon"
  | comma => "Comma"
  | operator .gt .symbol => "Gt"
  | operator .gt .word => "GtWord"
  | operator .lt .symbol => "Lt"
  | operator .lt .word => "LtWord"
  | operator .ge .symbol => "GtEq"
  | operator .ge .word => "GeWord"
  | operator .le .symbol => "LtEq"
  | operator .le .word => "LeWord"
  | operator .eq .symbol => "EqEq"
  | operator .eq .word => "EqWord"
  | operator .ne .symbol => "NotEq"
  | operator .ne .word => "NeWord"
  | operator .not .symbol => "Exclamation"
  | operator .not .word => "NotWord"
  | operator .and .symbol => "AmpAmp"
  | operator .and .word => "AndWord"
  | operator .or .symbol => "PipePipe"
  | operator .or .word => "OrWord"
  | operator .div .symbol => "Slash"
  | operator .div .word => "DivWord"
  | operator .mod .symbol => "Percent"
  | operator .mod .word => "ModWord"
  | empty => "Empty"
  | instanceOf => "Instanceof"
  | star => "Star"
  | plus => "Plus"
  | minus => "Minus"
  | question => "Question"
  | concat => "Concat"
  | assign => "Assign"
  | arrow => "Arrow"
  | identifier => "Identifier"
  | functionSuffix => "FunctionSuffix"
  | hash => "ImplicitObject"
  | illegal => "IllegalCharacter"

/-- The canonical spelling of the kind, as messages give it; kinds without a fixed spelling have a
name in angle brackets. -/
def image : TokenKind → String
  | endOfText => "<EOF>"
  | literalText => "<LITERAL_TEXT>"
  | startDynamic => "$\x7b"
  | startDeferred => "#\x7b"
  | openBrace => "\x7b"
  | closeBrace => "\x7d"
  | integer => "<INTEGER_LITERAL>"
  | float => "<FLOATING_POINT_LITERAL>"
  | string => "<STRING_LITERAL>"
  | boolean true => "true"
  | boolean false => "false"
  | null => "null"
  | dot => "."
  | openParen => "("
  | closeParen => ")"
  | openBracket => "["
  | closeBracket => "]"
  | colon => ":"
  | semicolon => ";"
  | comma => ","
  | operator op spelling => op.spelled spelling
  | empty => "empty"
  | instanceOf => "instanceof"
  | star => "*"
  | plus => "+"
  | minus => "-"
  | question => "?"
  | concat => "+="
  | assign => "="
  | arrow => "->"
  | identifier => "<IDENTIFIER>"
  | functionSuffix => "<FUNCTION_SUFFIX>"
  | hash => "#"
  | illegal => "<ILLEGAL_CHARACTER>"

/-- The kinds whose image is a reserved word. -/
def reserved : List TokenKind :=
  [boolean true, boolean false, null, empty, instanceOf] ++
    DualOperator.all.map (operator · .word)

/-- The kind of a reserved word; `none` for every other word. -/
def ofWord? (word : String) : Option TokenKind :=
  reserved.find? fun kind => kind.image == word

/-- A word is reserved exactly when it is the image of a kind in the list. -/
theorem image_of_ofWord? {word : String} {kind : TokenKind} (h : ofWord? word = some kind) :
    kind ∈ reserved ∧ kind.image = word :=
  ⟨List.mem_of_find?_eq_some h, by simpa using List.find?_some h⟩

end TokenKind

/-- A token: its kind, the text it stands for and the place where it begins. For a string and for
literal text the lexeme is the text meant, for every other kind the text as written. -/
structure Token where
  kind : TokenKind
  lexeme : String
  position : Position
deriving DecidableEq, Repr, Inhabited

namespace Token

/-- The token at the end of a text. -/
def atEnd (position : Position) : Token :=
  ⟨.endOfText, "", position⟩

/-- How messages show the token. -/
def text (t : Token) : String :=
  match t.kind with
  | .string => "'" ++ t.lexeme ++ "'"
  | .endOfText => "<EOF>"
  | _ => t.lexeme

end Token

end ExprLang
