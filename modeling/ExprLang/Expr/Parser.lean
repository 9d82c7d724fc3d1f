import ExprLang.Expr
import ExprLang.Halt
import ExprLang.Token.Stream

/-!
# The parser of expressions

The grammar has fourteen levels, from sequences down to literals. What a level adds to the next
one is a parser of its own that takes the parsers of its parts, and `Parser.expr` ties the levels
together. It descends at most `budget` levels in all; every round through the levels consumes a
token, so that a budget in proportion to the number of tokens is enough.
-/

namespace ExprLang

/-- The levels of the grammar, the loosest first. -/
inductive Level where
  | sequence | assignment | lambda | conditional
  | disjunction | conjunction | equality | relation | concatenation | sum | product
  | unary | access | primary
deriving DecidableEq, Repr, Inhabited

namespace Level

/-- The level of the operands of a level of binary operators. -/
def operand : Level → Level
  | disjunction => conjunction
  | conjunction => equality
  | equality => relation
  | relation => concatenation
  | concatenation => sum
  | sum => product
  | _ => unary

/-- The operator that a token stands for between operands of a level. -/
def operator? : Level → TokenKind → Option BinaryOp
  | disjunction, .operator .or _ => some .or
  | conjunction, .operator .and _ => some .and
  | equality, .operator .eq _ => some .equal
  | equality, .operator .ne _ => some .notEqual
  | relation, .operator .lt _ => some .less
  | relation, .operator .gt _ => some .greater
  | relation, .operator .le _ => some .lessEqual
  | relation, .operator .ge _ => some .greaterEqual
  | concatenation, .concat => some .concat
  | sum, .plus => some .add
  | sum, .minus => some .subtract
  | product, .star => some .multiply
  | product, .operator .div _ => some .divide
  | product, .operator .mod _ => some .modulo
  | _, _ => none

end Level

/-- The operator that a token stands for in front of an operand. -/
def UnaryOp.ofToken? : TokenKind → Option UnaryOp
  | .minus => some .negate
  | .operator .not _ => some .not
  | .empty => some .empty
  | _ => none

/-- A parser reads part of a token stream. -/
abbrev Parser (α : Type) :=
  StateT TokenStream (Except (Halt ParseError)) α

namespace Parser

/-- Fails with an error. -/
def fail {α : Type} (e : ParseError) : Parser α :=
  throw (.error e)

/-- Stops because the budget is used up. -/
def exhausted {α : Type} : Parser α :=
  throw .exhausted

/-- The result of a look at the stream. -/
def look {α : Type} (f : TokenStream → Except ParseError α) : Parser α := do
  liftM ((f (← get)).mapError Halt.error)

/-- The current token. -/
def current : Parser Token :=
  return (← get).current

/-- Whether the current token is of a kind. -/
def at? (kind : TokenKind) : Parser Bool :=
  return (← current).kind == kind

/-- Moves to the next token. -/
def advance : Parser Unit := do
  set (← look TokenStream.advance)

/-- Fails because the current token is not what was expected. -/
def unexpected {α : Type} (expected : Expectation) : Parser α := do
  fail ((← get).unexpected expected)

/-- Moves past a token of a kind. -/
def expect (kind : TokenKind) : Parser Unit := do
  if ← at? kind then advance else unexpected (.token kind)

/-- Moves past an identifier and gives its name. -/
def identifier : Parser String := do
  let token ← current
  if token.kind = .identifier then
    advance
    return token.lexeme
  else
    unexpected .identifier

/-! ### The parts of the grammar -/

/-- Items with commas between them up to a closing token, which is read too. A comma may stand
before it. -/
def itemsUntil (close : TokenKind) (item : Parser Expr) : Nat → Parser (List Expr)
  | 0 => exhausted
  | budget + 1 => do
    if ← at? close then
      advance
      return []
    let first ← item
    if !(← at? close) then expect .comma
    return first :: (← itemsUntil close item budget)

/-- Items that each follow a separator. -/
def itemsAfter {α : Type} (separator : TokenKind) (item : Parser α) : Nat → Parser (List α)
  | 0 => exhausted
  | budget + 1 => do
    if ← at? separator then
      advance
      let first ← item
      return first :: (← itemsAfter separator item budget)
    else
      return []

/-- The arguments of a call, from the opening parenthesis on. -/
def arguments (budget : Nat) (item : Parser Expr) : Parser (List Expr) := do
  expect .openParen
  itemsUntil .closeParen item budget

/-- The name of a type: identifiers with dots between them. -/
def typeName (budget : Nat) : Parser String := do
  let first ← identifier
  let more ← itemsAfter .dot identifier budget
  return ".".intercalate (first :: more)

/-- An expression, or several with semicolons between them. -/
def sequence (budget : Nat) (item : Parser Expr) : Parser Expr := do
  let first ← item
  let more ← itemsAfter .semicolon item budget
  return if more.isEmpty then first else .sequence (first :: more)

/-- An assignment, which associates to the right, or a target alone. -/
def assignment (target value : Parser Expr) : Parser Expr := do
  let left ← target
  let token ← current
  if token.kind = .assign then
    if left.isAssignable then
      advance
      return .assign left (← value)
    else
      fail (.invalidTarget token.position)
  else
    return left

/-- A lambda, if the stream stands at the head of one. -/
def lambda (body other : Parser Expr) : Parser Expr := do
  match ← look TokenStream.lambdaHeader? with
  | none => other
  | some (params, onArrow) =>
    set onArrow
    expect .arrow
    return .lambda params (← body)

/-- A condition, perhaps with its two branches. -/
def conditional (condition branch : Parser Expr) : Parser Expr := do
  let test ← condition
  if ← at? .question then
    advance
    let yes ← branch
    expect .colon
    return .conditional test yes (← branch)
  else
    return test

/-- The operators of a level after its first operand; they associate to the left. -/
def operators (level : Level) (operand : Parser Expr) : Nat → Expr → Parser Expr
  | 0, _ => exhausted
  | budget + 1, left => do
    let token ← current
    if level = .relation ∧ token.kind = .instanceOf then
      advance
      let name ← typeName budget
      operators level operand budget (.instanceOf left name)
    else
      match level.operator? token.kind with
      | none => return left
      | some op =>
        advance
        let right ← operand
        operators level operand budget (.binary op left right)

/-- Operators in front of an operand. -/
def unary (operand other : Parser Expr) : Parser Expr := do
  match UnaryOp.ofToken? (← current).kind with
  | none => other
  | some op =>
    advance
    return .unary op (← operand)

/-- Accesses and calls after an expression. -/
def accesses (whole item : Parser Expr) : Nat → Expr → Parser Expr
  | 0, _ => exhausted
  | budget + 1, object => do
    match (← current).kind with
    | .dot =>
      advance
      let name ← identifier
      if ← at? .openParen then
        let args ← arguments budget item
        accesses whole item budget (.method object name args)
      else
        accesses whole item budget (.access object (.key name))
    | .openBracket =>
      advance
      let key ← whole
      expect .closeBracket
      accesses whole item budget (.access object key)
    | .openParen =>
      let args ← arguments budget item
      accesses whole item budget (.call object args)
    | _ => return object

/-- A name: the qualifier and the name of a function with its arguments, the name of a function
alone with its arguments, or an identifier. -/
def name (budget : Nat) (item : Parser Expr) : Parser Expr := do
  let qualified ← look TokenStream.suffixAhead?
  let first ← identifier
  if qualified then
    advance
    let suffix ← current
    advance
    return .function (some first) suffix.lexeme (← arguments budget item)
  else if ← at? .openParen then
    return .function none first (← arguments budget item)
  else
    return .identifier first

/-- The rest of a map after its first key: values and further entries. -/
def mapAfterKey (budget : Nat) (item : Parser Expr) (key : Expr) : Parser Expr := do
  expect .colon
  let value ← item
  let entry : Parser (Expr × Expr) := do
    let k ← item
    expect .colon
    let v ← item
    return (k, v)
  let more ← itemsAfter .comma entry budget
  expect .closeBrace
  return .map ((key, value) :: more)

/-- A set or a map, from behind its opening brace. -/
def braces (budget : Nat) (item : Parser Expr) : Parser Expr := do
  if ← at? .closeBrace then
    advance
    return .set []
  let first ← item
  if ← at? .colon then
    mapAfterKey budget item first
  else
    let more ← itemsAfter .comma item budget
    expect .closeBrace
    return .set (first :: more)

/-- The value of a literal with a point or an exponent. -/
def floatLiteral? (lexeme : String) : Option Expr :=
  match Number.Double.read? lexeme.toList with
  | none => none
  | some x =>
    if x.isFinite then some (.float x)
    else (Number.Decimal.read? lexeme.toList).map .decimal

/-- A literal, a name, a parenthesised expression or a collection. -/
def primary (budget : Nat) (whole item : Parser Expr) : Parser Expr := do
  let token ← current
  match token.kind with
  | .integer =>
    advance
    return .integer (Number.valueOf token.lexeme.toList)
  | .float =>
    advance
    match floatLiteral? token.lexeme with
    | some e => return e
    | none => fail (.invalidNumber token.lexeme token.position)
  | .string =>
    advance
    return .string token.lexeme
  | .boolean b =>
    advance
    return .boolean b
  | .null =>
    advance
    return .null
  | .identifier => name budget item
  | .hash =>
    advance
    return .implicit (← identifier)
  | .openParen =>
    advance
    let e ← whole
    expect .closeParen
    return e
  | .openBracket =>
    advance
    return .list (← itemsUntil .closeBracket item budget)
  | .openBrace =>
    advance
    braces budget item
  | _ => unexpected .expression

/-! ### The grammar -/

/-- Reads an expression of a level. -/
def expr : Nat → Level → Parser Expr
  | 0, _ => exhausted
  | budget + 1, level =>
    match level with
    | .sequence => sequence budget (expr budget .assignment)
    | .assignment => assignment (expr budget .lambda) (expr budget .assignment)
    | .lambda => lambda (expr budget .lambda) (expr budget .conditional)
    | .conditional => conditional (expr budget .disjunction) (expr budget .conditional)
    | .unary => unary (expr budget .unary) (expr budget .access)
    | .access => do
      let object ← expr budget .primary
      accesses (expr budget .sequence) (expr budget .assignment) budget object
    | .primary => primary budget (expr budget .sequence) (expr budget .assignment)
    | level => do
      let left ← expr budget level.operand
      operators level (expr budget level.operand) budget left

/-- A budget for a stream of tokens: more than the number of levels for each token. -/
def budgetFor (s : TokenStream) : Nat :=
  16 * (s.ahead.length + 2)

/-- Reads a whole expression, up to the end of the text. -/
def standalone : Parser Expr := do
  let e ← expr (budgetFor (← get)) .sequence
  expect .endOfText
  return e

end Parser

end ExprLang
