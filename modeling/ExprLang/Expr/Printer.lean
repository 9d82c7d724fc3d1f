import ExprLang.Expr.Parser

/-!
# The printer of expressions

`Expr.print` writes an expression as a text with one space between tokens; only a qualified function
name is written in one piece. A part of an expression stands in parentheses exactly where the grammar
admits only tighter levels than its own. The one choice that the grammar leaves, whether a parameter
without others stands in parentheses, is the caller's.

A printed text is first a list of `Lexeme`s, each of which is written and read by itself.
-/

namespace ExprLang

/-- A piece of a printed text. -/
inductive Lexeme where
  /-- A token that is written in one way only. -/
  | mark (kind : TokenKind)
  | word (name : String)
  | integer (n : Nat)
  /-- A literal with a point or an exponent. -/
  | real (text : String)
  | string (s : String)
  /-- The qualifier and the name of a function. -/
  | qualified (qualifier name : String)
deriving Repr, Inhabited

namespace Lexeme

/-- The characters of a string between its quotes: a backslash stands before quotes and
backslashes. -/
def escape : List Char → List Char
  | [] => []
  | c :: cs => if Lexer.isEscapable c then '\\' :: c :: escape cs else c :: escape cs

/-- How the piece is written. -/
def chars : Lexeme → List Char
  | mark kind => kind.image.toList
  | word name => name.toList
  | integer n => Number.digits n
  | real text => text.toList
  | string s => '\'' :: (escape s.toList ++ ['\''])
  | qualified qualifier name => qualifier.toList ++ ':' :: name.toList

end Lexeme

/-- Pieces with one space between them. -/
def spaced : List Lexeme → List Char
  | [] => []
  | [l] => l.chars
  | l :: ls => l.chars ++ ' ' :: spaced ls

namespace Level

/-- How tightly a level binds. -/
def rank : Level → Nat
  | sequence => 0
  | assignment => 1
  | lambda => 2
  | conditional => 3
  | disjunction => 4
  | conjunction => 5
  | equality => 6
  | relation => 7
  | concatenation => 8
  | sum => 9
  | product => 10
  | unary => 11
  | access => 12
  | primary => 13

end Level

namespace BinaryOp

/-- The level of an operator. -/
def level : BinaryOp → Level
  | or => .disjunction
  | and => .conjunction
  | equal | notEqual => .equality
  | less | greater | lessEqual | greaterEqual => .relation
  | concat => .concatenation
  | add | subtract => .sum
  | multiply | divide | modulo => .product

/-- The token that writes an operator, as a symbol. -/
def kind : BinaryOp → TokenKind
  | equal => .operator .eq .symbol
  | notEqual => .operator .ne .symbol
  | less => .operator .lt .symbol
  | greater => .operator .gt .symbol
  | lessEqual => .operator .le .symbol
  | greaterEqual => .operator .ge .symbol
  | add => .plus
  | subtract => .minus
  | multiply => .star
  | divide => .operator .div .symbol
  | modulo => .operator .mod .symbol
  | concat => .concat
  | and => .operator .and .symbol
  | or => .operator .or .symbol

end BinaryOp

/-- The token that writes an operator, as a symbol where there is one. -/
def UnaryOp.kind : UnaryOp → TokenKind
  | negate => .minus
  | not => .operator .not .symbol
  | empty => .empty

namespace Expr

/-- The level of the grammar that an expression belongs to. -/
def level : Expr → Level
  | sequence _ => .sequence
  | assign _ _ => .assignment
  | lambda _ _ => .lambda
  | conditional _ _ _ => .conditional
  | binary op _ _ => op.level
  | instanceOf _ _ => .relation
  | unary _ _ => .unary
  | access _ _ | method _ _ _ | call _ _ => .access
  | _ => .primary

/-- Whether arguments behind the expression would be read as those of a function or a method: it is
a name, or ends with a dot and a name. -/
def endsInName : Expr → Bool
  | identifier _ => true
  | access _ (key _) => true
  | _ => false

end Expr

namespace Printer

/-- Pieces in parentheses. -/
def parens (ls : List Lexeme) : List Lexeme :=
  .mark .openParen :: ls ++ [.mark .closeParen]

/-- The pieces of an expression of a level, where tighter levels than `slot` need no parentheses. -/
def fit (slot level : Level) (ls : List Lexeme) : List Lexeme :=
  if level.rank < slot.rank then parens ls else ls

/-- Pieces of several parts with a separator between them. -/
def separated (separator : TokenKind) : List (List Lexeme) → List Lexeme
  | [] => []
  | first :: rest => first ++ rest.flatMap (.mark separator :: ·)

/-- The arguments of a call. -/
def arguments (items : List (List Lexeme)) : List Lexeme :=
  parens (separated .comma items)

/-- The key of an access, behind the object: a name behind a dot, or an expression in brackets. -/
def keyed (key : Expr) (ls : List Lexeme) : List Lexeme :=
  match key with
  | .key name => [.mark .dot, .word name]
  | _ => .mark .openBracket :: ls ++ [.mark .closeBracket]

/-- The names that a text holds between dots. -/
def namesOf (cs : List Char) : List String :=
  (cs.splitOn '.').map String.ofList

/-- The name of a type. -/
def typeName (name : String) : List Lexeme :=
  separated .dot ((namesOf name.toList).map fun n => [.word n])

/-- The parameters of a lambda. -/
def parameters (bare : Bool) : List String → List Lexeme
  | [name] => if bare then [.word name] else parens [.word name]
  | names => parens (separated .comma (names.map fun n => [.word n]))

variable (bare : Bool)

mutual

/-- The pieces of an expression. A parameter without others stands in parentheses unless `bare`. -/
def lexemes : Expr → List Lexeme
  | .integer n => [.integer n]
  | .float x => [.real x.text]
  | .decimal d => [.real d.text]
  | .string s => [.string s]
  | .boolean b => [.mark (.boolean b)]
  | .null => [.mark .null]
  | .identifier name => [.word name]
  | .implicit name => [.mark .hash, .word name]
  | .key name => [.word name]
  | .access object key => fit .access object.level (lexemes object) ++ keyed key (lexemes key)
  | .method object name args =>
    fit .access object.level (lexemes object) ++ [.mark .dot, .word name] ++ arguments (items args)
  | .function none name args => .word name :: arguments (items args)
  | .function (some qualifier) name args => .qualified qualifier name :: arguments (items args)
  | .call callee args =>
    (if callee.endsInName then parens (lexemes callee)
      else fit .access callee.level (lexemes callee)) ++ arguments (items args)
  | .unary op operand => .mark op.kind :: fit .unary operand.level (lexemes operand)
  | .binary op left right =>
    fit op.level left.level (lexemes left) ++ [.mark op.kind] ++
      fit op.level.operand right.level (lexemes right)
  | .conditional condition yes no =>
    fit .disjunction condition.level (lexemes condition) ++ [.mark .question] ++
      fit .conditional yes.level (lexemes yes) ++ [.mark .colon] ++
      fit .conditional no.level (lexemes no)
  | .instanceOf operand name =>
    fit .relation operand.level (lexemes operand) ++ [.mark .instanceOf] ++ typeName name
  | .list elements => .mark .openBracket :: separated .comma (items elements) ++ [.mark .closeBracket]
  | .set elements => .mark .openBrace :: separated .comma (items elements) ++ [.mark .closeBrace]
  | .map es => .mark .openBrace :: separated .comma (entries es) ++ [.mark .closeBrace]
  | .lambda params body =>
    parameters bare params ++ [.mark .arrow] ++ fit .lambda body.level (lexemes body)
  | .assign target value =>
    fit .lambda target.level (lexemes target) ++ [.mark .assign] ++
      fit .assignment value.level (lexemes value)
  | .sequence steps => separated .semicolon (items steps)
termination_by structural e => e

/-- The pieces of arguments, elements and steps. -/
def items : List Expr → List (List Lexeme)
  | [] => []
  | e :: es => fit .assignment e.level (lexemes e) :: items es
termination_by structural es => es

/-- The pieces of the entries of a map. -/
def entries : List (Expr × Expr) → List (List Lexeme)
  | [] => []
  | e :: es => entry e :: entries es
termination_by structural es => es

/-- The pieces of an entry of a map. -/
def entry : Expr × Expr → List Lexeme
  | (k, v) =>
    fit .assignment k.level (lexemes k) ++ [.mark .colon] ++ fit .assignment v.level (lexemes v)
termination_by structural e => e

end

end Printer

/-- The text of an expression. A parameter without others stands in parentheses unless `bare`. -/
def Expr.print (bare : Bool) (e : Expr) : String :=
  String.ofList (spaced (Printer.lexemes bare e))

end ExprLang
