import ExprLang.Coercion.Number

/-!
# Arithmetic

Operands are brought to the highest rank present: decimals, then doubles, to which texts with a
point or an exponent belong, then big integers, then integers of 64 bits, whose arithmetic wraps.
Null and empty text count as zero, two nulls together give the integer zero.
-/

namespace ExprLang.Arithmetic

open Number (Double Decimal)

/-- The kinds of numbers in which an operation can be carried out. -/
inductive Rank where
  | long | bigInteger | double | decimal
deriving DecidableEq, Repr

/-- The arithmetic operators. -/
inductive Operator where
  | add | subtract | multiply | divide | modulo
deriving DecidableEq, Repr

/-- The arithmetic operator that a binary operator is, if it is one. -/
def Operator.of? : BinaryOp → Option Operator
  | .add => some .add
  | .subtract => some .subtract
  | .multiply => some .multiply
  | .divide => some .divide
  | .modulo => some .modulo
  | _ => none

/-- Whether a value is a decimal. -/
def isDecimal : Value → Bool
  | .bigDecimal _ => true
  | _ => false

/-- Whether a value is an integer without a fixed width. -/
def isBigInteger : Value → Bool
  | .bigInteger _ => true
  | _ => false

/-- Whether a value is a floating-point number, or a text that looks like one. -/
def isFloating : Value → Bool
  | .float _ | .double _ => true
  | .string s => Coercion.isFloatText s
  | _ => false

/-- The rank in which an operator combines two values. -/
def rankOf (op : Operator) (a b : Value) : Rank :=
  let decimal := isDecimal a || isDecimal b
  let floating := isFloating a || isFloating b
  let big := isBigInteger a || isBigInteger b
  match op with
  | .divide => if decimal || big then .decimal else .double
  | .modulo => if decimal || floating then .double else if big then .bigInteger else .long
  | _ =>
    if decimal then .decimal
    else if floating then (if big then .decimal else .double)
    else if big then .bigInteger
    else .long

/-! ### Operands -/

/-- The number that a value counts as, for values other than texts that are not empty. -/
def operand? : Value → Option Value
  | .null => some (.long 0)
  | .string s => if s.isEmpty then some (.long 0) else none
  | .char c => some (.long (Coercion.charCode c).toInt64)
  | v => if v.isNumber then some v else none

/-- An operand other than a text that is not empty, as a number of a rank. -/
def ofOperand {α : Type} (convert : Value → Option α) (v : Value) : Except EvalError α :=
  match (operand? v).bind convert with
  | some n => .ok n
  | none => .error (.conversion v.text v.kindName "Number")

/-- An operand as a number of a rank: texts that are not empty are read, other values
converted. -/
def toRank {α : Type} (target : String) (read : String → Option α) (convert : Value → Option α) :
    Value → Except EvalError α
  | .string s =>
    if s.isEmpty then ofOperand convert (.string s)
    else
      match read s with
      | some n => .ok n
      | none => .error (.conversion s "String" target)
  | v => ofOperand convert v

/-- An operand as an integer of 64 bits. -/
def toLong : Value → Except EvalError Int64 :=
  toRank "Long" (fun s => (Number.readFixed? 64 s.toList).map Int64.ofInt) Coercion.long?

/-- An operand as a double. -/
def toDouble : Value → Except EvalError Double :=
  toRank "Double" (fun s => Double.read? (Text.trimChars s.toList)) Coercion.double?

/-- An operand as an integer of any size. -/
def toBigInteger : Value → Except EvalError Int :=
  toRank "BigInteger" (fun s => Number.readGrouped? s.toList) Coercion.bigInteger?

/-- An operand as a decimal. -/
def toDecimal : Value → Except EvalError Decimal :=
  toRank "BigDecimal" (fun s => Decimal.read? s.toList) Coercion.bigDecimal?

/-! ### Operations -/

/-- Division by zero. -/
def byZero : EvalError :=
  .arithmetic "/ by zero"

/-- An operation on integers of 64 bits, without division. -/
def combineLong (op : Operator) (x y : Int64) : Except EvalError Int64 :=
  match op with
  | .add => .ok (x + y)
  | .subtract => .ok (x - y)
  | .multiply => .ok (x * y)
  | _ => if y = 0 then .error byZero else .ok (x % y)

/-- An operation on doubles. -/
def combineDouble (op : Operator) (x y : Double) : Double :=
  match op with
  | .add => x.add y
  | .subtract => x.sub y
  | .multiply => x.mul y
  | .divide => x.div y
  | .modulo => x.rem y

/-- An operation on integers of any size, without division. The modulus has to be positive. The
remainder has the sign of the dividend at first; the modulus is added, and another remainder taken
of the sum, so that it is never negative. -/
def combineBigInteger (op : Operator) (x y : Int) : Except EvalError Int :=
  match op with
  | .add => .ok (x + y)
  | .subtract => .ok (x - y)
  | .multiply => .ok (x * y)
  | _ =>
    if 0 < y then .ok ((x.tmod y + y).tmod y) else .error (.arithmetic "modulus not positive")

/-- An operation on decimals, without remainders. -/
def combineDecimal (op : Operator) (x y : Decimal) : Except EvalError Decimal :=
  match op with
  | .add => .ok (x.add y)
  | .subtract => .ok (x.sub y)
  | .multiply => .ok (x.mul y)
  | _ => if y.unscaled = 0 then .error byZero else .ok (x.div y)

/-- Combines two values in a rank. -/
def combine (op : Operator) (rank : Rank) (a b : Value) : Except EvalError Value :=
  match rank with
  | .long => return .long (← combineLong op (← toLong a) (← toLong b))
  | .double => return .double (combineDouble op (← toDouble a) (← toDouble b))
  | .bigInteger => return .bigInteger (← combineBigInteger op (← toBigInteger a) (← toBigInteger b))
  | .decimal => return .bigDecimal (← combineDecimal op (← toDecimal a) (← toDecimal b))

/-- Applies an operator to two values. Operators that are not arithmetic ones are refused. -/
def apply (op : BinaryOp) (a b : Value) : Except EvalError Value :=
  if a.isNull && b.isNull then .ok (.long 0)
  else
    match Operator.of? op with
    | some op => combine op (rankOf op a b) a b
    | none => .error (.arithmetic ("'" ++ op.symbol ++ "' is not an arithmetic operator"))

/-- The negative of a value, of the same kind if it is a number. -/
def negate (v : Value) : Except EvalError Value :=
  match v with
  | .null => .ok (.long 0)
  | .bigDecimal d => .ok (.bigDecimal d.neg)
  | .bigInteger n => .ok (.bigInteger (-n))
  | .string s =>
    if Coercion.isFloatText s then return .double (← toDouble v).neg
    else return .long (-(← toLong v))
  | .long n => .ok (.long (-n))
  | .double x => .ok (.double x.neg)
  | .integer n => .ok (.integer (-n))
  | .float x => .ok (.float x.neg)
  | .short n => .ok (.short (-n))
  | .byte n => .ok (.byte (-n))
  | v => return .long (-(← toLong v))

end ExprLang.Arithmetic
