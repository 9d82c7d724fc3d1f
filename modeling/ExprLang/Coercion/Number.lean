import ExprLang.Text.Blank
import ExprLang.ValueType

/-!
# Numbers as numbers of another kind

Integers are cut down to the bits of the narrower kind; floating-point numbers are truncated and
stay within its range. Only a decimal has no room for NaN and the infinities.
-/

namespace ExprLang.Coercion

open Number (Single Double Decimal)

/-- A number as an integer of 64 bits. -/
def long? : Value → Option Int64
  | .byte n => some n.toInt64
  | .short n => some n.toInt64
  | .integer n => some n.toInt64
  | .long n => some n
  | .float x => some (.ofInt (x.toDouble.truncate 64))
  | .double x => some (.ofInt (x.truncate 64))
  | .bigInteger n => some (.ofInt n)
  | .bigDecimal d => some (.ofInt d.truncate)
  | _ => none

/-- A number as an integer of 32 bits. -/
def int? : Value → Option Int32
  | .float x => some (.ofInt (x.toDouble.truncate 32))
  | .double x => some (.ofInt (x.truncate 32))
  | v => (long? v).map Int64.toInt32

/-- A number as a double. -/
def double? : Value → Option Double
  | .byte n => some (.ofInt n.toInt)
  | .short n => some (.ofInt n.toInt)
  | .integer n => some (.ofInt n.toInt)
  | .long n => some (.ofInt n.toInt)
  | .float x => some x.toDouble
  | .double x => some x
  | .bigInteger n => some (.ofInt n)
  | .bigDecimal d => some d.toDouble
  | _ => none

/-- A number as an integer of any size. -/
def bigInteger? : Value → Option Int
  | .bigInteger n => some n
  | .bigDecimal d => some d.truncate
  | v => (long? v).map Int64.toInt

/-- The exact decimal of a number that has one. -/
def bigDecimal? : Value → Option Decimal
  | .bigDecimal d => some d
  | .bigInteger n => some (.ofInt n)
  | .float x => x.toDouble.exactDecimal?
  | .double x => x.exactDecimal?
  | v => (long? v).map fun n => .ofInt n.toInt

/-- A number as a number of a kind. -/
def ofKind? (kind : NumberKind) (v : Value) : Option Value :=
  match kind with
  | .long => (long? v).map .long
  | .integer => (int? v).map .integer
  | .short => (int? v).map fun n => .short n.toInt16
  | .byte => (int? v).map fun n => .byte n.toInt8
  | .double => (double? v).map .double
  | .float => (double? v).map fun x => .float x.toSingle
  | .bigInteger => (bigInteger? v).map .bigInteger
  | .bigDecimal => (bigDecimal? v).map .bigDecimal
  | .any => if v.isNumber then some v else none

/-- Converts a number. -/
def convertNumber (t : NumberType) (v : Value) : Except EvalError Value :=
  match ofKind? t.kind v with
  | some n => .ok n
  | none => .error (.conversion v.text v.kindName t.text)

/-- The number of a kind that a text writes. Without a kind no text is a number. -/
def readKind? (kind : NumberKind) (s : String) : Option Value :=
  let cs := s.toList
  match kind with
  | .long => (Number.readFixed? 64 cs).map fun n => .long (.ofInt n)
  | .integer => (Number.readFixed? 32 cs).map fun n => .integer (.ofInt n)
  | .short => (Number.readFixed? 16 cs).map fun n => .short (.ofInt n)
  | .byte => (Number.readFixed? 8 cs).map fun n => .byte (.ofInt n)
  | .double => (Double.read? (Text.trimChars cs)).map .double
  | .float => (Single.read? (Text.trimChars cs)).map .float
  | .bigInteger => (Number.readGrouped? cs).map .bigInteger
  | .bigDecimal => (Decimal.read? cs).map .bigDecimal
  | .any => none

/-- Reads a number of a type. -/
def readNumber (t : NumberType) (s : String) : Except EvalError Value :=
  match readKind? t.kind s with
  | some n => .ok n
  | none => .error (.conversion s "String" t.text)

/-- The zero of a type. -/
def zero (t : NumberType) : Except EvalError Value :=
  convertNumber t (.long 0)

/-- A character as a number: the signed value of its lowest 16 bits. -/
def charCode (c : Char) : Int16 :=
  .ofNat c.toNat

/-- Whether a text that is a number is one with a point or an exponent. -/
def isFloatText (s : String) : Bool :=
  let cs := s.toList
  1 < cs.length && cs.any fun c => c == '.' || c == 'e' || c == 'E'

end ExprLang.Coercion
