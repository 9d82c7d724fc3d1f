import ExprLang.Environment
import ExprLang.EvalError
import ExprLang.Expr
import ExprLang.Time.Text

/-!
# Values

The values that expressions yield. Numbers keep the width they came with. Lambdas, adapters,
clocks and objects have an identity, a number of their own, since two of them are never the same
thing by their looks alone.
-/

namespace ExprLang

open Number (Single Double Decimal)
open Time (Instant OffsetInstant)

/-- A source of the current time: one that stands still, or the clock of the system. -/
structure Clock where
  id : Nat
  reading : Option Instant
deriving DecidableEq, Repr, Inhabited

/-- What becomes of the wish to see an object of the application as text. -/
inductive ObjectText where
  | text (s : String)
  /-- It fails with an error of the language. -/
  | error (e : EvalError)
  /-- It fails with an error of the application. -/
  | failure (detail : String)
deriving DecidableEq, Repr, Inhabited

/-- An object of the application. -/
structure HostObject where
  id : Nat
  typeName : String
  text : ObjectText
  /-- The text that shows the object to a developer. -/
  label : String
deriving DecidableEq, Repr, Inhabited

/-- A lambda with the arguments that were visible where it was written. -/
structure LambdaOf (V : Type) where
  id : Nat
  params : List String
  body : Expr
  captured : List (String × V)
deriving Repr

/-- What a value keeps of the context in which it was made: the variables, the lambda arguments
that were visible, and the declarations. -/
structure SnapshotOf (V : Type) where
  bindings : List (String × V)
  arguments : List (String × V)
  environment : Environment
deriving Repr

/-- A lambda that stands in for an interface, with a snapshot of the context it was made in. -/
structure AdapterOf (V : Type) where
  id : Nat
  lambda : LambdaOf V
  interface : Interface
  bound : SnapshotOf V
deriving Repr

/-- A value. -/
inductive Value where
  | null
  | boolean (b : Bool)
  | char (c : Char)
  | byte (n : Int8)
  | short (n : Int16)
  | integer (n : Int32)
  | long (n : Int64)
  | float (x : Single)
  | double (x : Double)
  | bigInteger (n : Int)
  | bigDecimal (d : Decimal)
  | string (s : String)
  | enum (m : EnumMember)
  /-- A point in time. -/
  | instant (t : Instant)
  /-- A point in time that is written to the millisecond. -/
  | date (t : Instant)
  /-- A point in time with an offset of its own. -/
  | temporal (t : OffsetInstant)
  | clock (c : Clock)
  | list (items : List Value)
  | set (items : List Value)
  | map (entries : List (Value × Value))
  | array (items : List Value)
  | lambda (l : LambdaOf Value)
  | adapter (a : AdapterOf Value)
  | object (o : HostObject)
deriving Inhabited

/-- A lambda over values. -/
abbrev Lambda := LambdaOf Value

/-- An adapter over values. -/
abbrev Adapter := AdapterOf Value

/-- A snapshot of values. -/
abbrev Snapshot := SnapshotOf Value

/-- The name of the method that an adapter implements. -/
def AdapterOf.methodName? {V : Type} (a : AdapterOf V) : Option String :=
  a.interface.singleAbstractMethod?.map Method.name

namespace Value

/-- The name of the kind of a value, as messages give it. -/
def kindName : Value → String
  | null => "Null"
  | boolean _ => "Boolean"
  | char _ => "Character"
  | byte _ => "Byte"
  | short _ => "Short"
  | integer _ => "Integer"
  | long _ => "Long"
  | float _ => "Float"
  | double _ => "Double"
  | bigInteger _ => "BigInteger"
  | bigDecimal _ => "BigDecimal"
  | string _ => "String"
  | enum m => m.type.name
  | instant _ => "Instant"
  | date _ => "Date"
  | temporal _ => "Temporal"
  | clock _ => "Clock"
  | list _ => "List"
  | set _ => "Set"
  | map _ => "Map"
  | array _ => "Array"
  | lambda _ => "Lambda"
  | adapter a => a.interface.name
  | object o => o.typeName

/-- Whether the value is null. -/
def isNull : Value → Bool
  | null => true
  | _ => false

/-- Whether the value is a text. -/
def isText : Value → Bool
  | string _ => true
  | _ => false

/-- Whether the value is a number; characters are not. -/
def isNumber : Value → Bool
  | byte _ | short _ | integer _ | long _ | float _ | double _ | bigInteger _ | bigDecimal _ => true
  | _ => false

/-- Whether the value is a time or tells the time. -/
def isTemporal : Value → Bool
  | instant _ | date _ | temporal _ | clock _ => true
  | _ => false

/-- The text of a value that is one. -/
def text? : Value → Option String
  | string s => some s
  | _ => none

/-- The elements of a list, a set or an array. -/
def elements? : Value → Option (List Value)
  | list items | set items | array items => some items
  | _ => none

/-- Whether the value is null, the empty text or an empty collection. -/
def isEmpty : Value → Bool
  | null => true
  | string s => s.isEmpty
  | list items | set items | array items => items.isEmpty
  | map entries => entries.isEmpty
  | _ => false

end Value

end ExprLang
