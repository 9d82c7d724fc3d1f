import ExprLang.Number.Double

/-!
# Syntax trees

Parentheses, spacing and the spelling of operators leave no trace in the tree of an expression.
-/

namespace ExprLang

/-- The operators between two operands. -/
inductive BinaryOp where
  | equal | notEqual | less | greater | lessEqual | greaterEqual
  | add | subtract | multiply | divide | modulo
  | concat
  | and | or
deriving DecidableEq, Repr, Inhabited

/-- The operators in front of one operand. `empty` asks whether a value holds anything. -/
inductive UnaryOp where
  | negate | not | empty
deriving DecidableEq, Repr, Inhabited

namespace BinaryOp

/-- All operators between two operands. -/
def all : List BinaryOp :=
  [equal, notEqual, less, greater, lessEqual, greaterEqual, add, subtract, multiply, divide,
    modulo, concat, and, or]

/-- The symbol of the operator. -/
def symbol : BinaryOp → String
  | equal => "=="
  | notEqual => "!="
  | less => "<"
  | greater => ">"
  | lessEqual => "<="
  | greaterEqual => ">="
  | add => "+"
  | subtract => "-"
  | multiply => "*"
  | divide => "/"
  | modulo => "%"
  | concat => "+="
  | and => "&&"
  | or => "||"

end BinaryOp

/-- An expression. -/
inductive Expr where
  /-- A literal of digits alone. -/
  | integer (n : Nat)
  /-- A literal with a point or an exponent, within the range of doubles. -/
  | float (x : Number.Double)
  /-- A literal with a point or an exponent, beyond the range of doubles. -/
  | decimal (d : Number.Decimal)
  | string (s : String)
  | boolean (b : Bool)
  | null
  /-- A name by itself. -/
  | identifier (name : String)
  /-- `#name`. -/
  | implicit (name : String)
  /-- The name after a dot; it occurs only as the key of an access. -/
  | key (name : String)
  /-- `object.key` or `object[key]`. -/
  | access (object key : Expr)
  /-- `object.name(args)`. -/
  | method (object : Expr) (name : String) (args : List Expr)
  /-- `name(args)` or `qualifier:name(args)`. -/
  | function (qualifier : Option String) (name : String) (args : List Expr)
  /-- The call of what an expression yields. -/
  | call (callee : Expr) (args : List Expr)
  | unary (op : UnaryOp) (operand : Expr)
  | binary (op : BinaryOp) (left right : Expr)
  /-- `condition ? yes : no`. -/
  | conditional (condition yes no : Expr)
  /-- `operand instanceof typeName`. -/
  | instanceOf (operand : Expr) (typeName : String)
  | list (items : List Expr)
  /-- `{a, b}`; the empty braces are an empty set. -/
  | set (items : List Expr)
  /-- `{k: v}`. -/
  | map (entries : List (Expr × Expr))
  | lambda (params : List String) (body : Expr)
  | assign (target value : Expr)
  /-- `a; b`. -/
  | sequence (items : List Expr)
deriving Repr, Inhabited, BEq

/-- Whether the expression has a place to store a value: a name, or an access. -/
def Expr.isAssignable : Expr → Bool
  | identifier _ => true
  | access _ _ => true
  | _ => false

end ExprLang
