import ExprLang.Value.Text

/-!
# Types

The types that values are converted to. Truth values, characters and numbers of fixed width have a
primitive type without null besides the one with null. A type is written by its name, with `[]`
behind it for an array; `ofName?` reads the names that need no declaration.
-/

namespace ExprLang

/-- The kinds of numbers, and any kind at all. -/
inductive NumberKind where
  | byte | short | integer | long | float | double | bigInteger | bigDecimal | any
deriving DecidableEq, Repr, Inhabited

namespace NumberKind

/-- All kinds. -/
def all : List NumberKind :=
  [byte, short, integer, long, float, double, bigInteger, bigDecimal, any]

/-- The name of a kind. -/
def name : NumberKind → String
  | byte => "Byte"
  | short => "Short"
  | integer => "Integer"
  | long => "Long"
  | float => "Float"
  | double => "Double"
  | bigInteger => "BigInteger"
  | bigDecimal => "BigDecimal"
  | any => "Number"

/-- The name of the primitive type of a kind that has one. -/
def primitiveName? : NumberKind → Option String
  | byte => some "byte"
  | short => some "short"
  | integer => some "int"
  | long => some "long"
  | float => some "float"
  | double => some "double"
  | _ => none

/-- The kind of a number. -/
def of? : Value → Option NumberKind
  | .byte _ => some byte
  | .short _ => some short
  | .integer _ => some integer
  | .long _ => some long
  | .float _ => some float
  | .double _ => some double
  | .bigInteger _ => some bigInteger
  | .bigDecimal _ => some bigDecimal
  | _ => none

end NumberKind

/-- A type of numbers. -/
structure NumberType where
  kind : NumberKind
  primitive : Bool
deriving DecidableEq, Repr, Inhabited

namespace NumberType

/-- The name of the type. -/
def text (t : NumberType) : String :=
  if t.primitive then t.kind.primitiveName?.getD t.kind.name else t.kind.name

end NumberType

/-- A type. -/
inductive ValueType where
  /-- The type of all values. -/
  | object
  | string
  | boolean (primitive : Bool)
  | character (primitive : Bool)
  | number (type : NumberType)
  | enum (type : EnumType)
  | instant
  | date
  | list
  | set
  | map
  | array (element : ValueType)
  | interface (type : Interface)
  | lambda
  /-- A type of the application, known by its name. -/
  | host (name : String)
deriving DecidableEq, Repr, Inhabited

namespace ValueType

/-- The name of the type. -/
def text : ValueType → String
  | object => "Object"
  | string => "String"
  | boolean true => "boolean"
  | boolean false => "Boolean"
  | character true => "char"
  | character false => "Character"
  | number t => t.text
  | enum t => t.name
  | instant => "Instant"
  | date => "Date"
  | list => "List"
  | set => "Set"
  | map => "Map"
  | array element => element.text ++ "[]"
  | interface i => i.name
  | lambda => "Lambda"
  | host name => name

/-- The type of the numbers of a kind, with null. -/
def boxed (kind : NumberKind) : ValueType :=
  number ⟨kind, false⟩

/-- The primitive type of a kind of numbers, or the one with null if the kind has none. -/
def unboxed (kind : NumberKind) : ValueType :=
  number ⟨kind, kind.primitiveName?.isSome⟩

/-- The type with a name, among those that need no declaration and are no arrays. -/
def ofSimpleName? : String → Option ValueType
  | "Object" => some object
  | "String" => some string
  | "Boolean" => some (boolean false)
  | "boolean" => some (boolean true)
  | "Character" => some (character false)
  | "char" => some (character true)
  | "Byte" => some (boxed .byte)
  | "byte" => some (unboxed .byte)
  | "Short" => some (boxed .short)
  | "short" => some (unboxed .short)
  | "Integer" => some (boxed .integer)
  | "int" => some (unboxed .integer)
  | "Long" => some (boxed .long)
  | "long" => some (unboxed .long)
  | "Float" => some (boxed .float)
  | "float" => some (unboxed .float)
  | "Double" => some (boxed .double)
  | "double" => some (unboxed .double)
  | "BigInteger" => some (boxed .bigInteger)
  | "BigDecimal" => some (boxed .bigDecimal)
  | "Number" => some (boxed .any)
  | "Instant" => some instant
  | "Date" => some date
  | "List" => some list
  | "Set" => some set
  | "Map" => some map
  | "Lambda" => some lambda
  | _ => none

/-- The type with a name that is given backwards, so that the brackets of arrays come first. -/
def ofReversedName? : List Char → Option ValueType
  | ']' :: '[' :: cs => (ofReversedName? cs).map array
  | cs => ofSimpleName? (String.ofList cs.reverse)

/-- The type with a name, among those that need no declaration. -/
def ofName? (name : String) : Option ValueType :=
  ofReversedName? name.toList.reverse

/-- The type of a value: converting the value to it changes nothing. -/
def of : Value → ValueType
  | .null => object
  | .boolean _ => boolean false
  | .char _ => character false
  | .string _ => string
  | .enum m => enum m.type
  | .instant _ => instant
  | .date _ => date
  | .list _ => list
  | .set _ => set
  | .map _ => map
  | .array _ => array object
  | .lambda _ => lambda
  | .adapter a => interface a.interface
  | v =>
    match NumberKind.of? v with
    | some kind => number ⟨kind, false⟩
    | none => host v.kindName

/-- Whether the type has no null. -/
def isPrimitive : ValueType → Bool
  | boolean p | character p => p
  | number t => t.primitive
  | _ => false

/-- Whether a value is of the type as it stands. -/
def accepts : ValueType → Value → Bool
  | object, _ => true
  | _, .null => false
  | string, .string _ => true
  | boolean _, .boolean _ => true
  | character _, .char _ => true
  | instant, .instant _ => true
  | date, .date _ => true
  | list, .list _ => true
  | set, .set _ => true
  | map, .map _ => true
  | lambda, .lambda _ => true
  | number t, v =>
    match NumberKind.of? v with
    | some kind => t.kind == .any || t.kind == kind
    | none => false
  | enum t, .enum m => m.type == t
  | array element, .array items => element == object || items.all fun v => element.accepts v
  | interface i, .adapter a => a.interface.name == i.name
  | interface i, .object o => o.typeName == i.name
  | host name, v => v.kindName == name
  | _, _ => false

end ValueType

end ExprLang
