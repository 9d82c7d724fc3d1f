import ExprLang.JsonValue
import ExprLang.Value.Text

/-!
# Values as JSON and back

A JSON value becomes a value without loss. In the other direction kinds that JSON lacks are written as
their texts.
-/

namespace ExprLang.Value

open Number (Double)

/-! ### From JSON -/

/-- An integer as the narrower of the kinds that literals have. -/
def ofInteger (n : Int) : Value :=
  if -Nat.pow 2 63 ≤ n ∧ n < Nat.pow 2 63 then .long (.ofInt n) else .bigInteger n

mutual

/-- A JSON value as a value: arrays become lists, objects maps from texts. -/
def ofJson : JsonValue → Value
  | .null => .null
  | .boolean b => .boolean b
  | .integer n => ofInteger n
  | .double x => .double x
  | .string s => .string s
  | .array items => .list (ofJsonAll items)
  | .object members => .map (ofJsonMembers members)

/-- Several JSON values as values. -/
def ofJsonAll : List JsonValue → List Value
  | [] => []
  | j :: js => ofJson j :: ofJsonAll js

/-- Members of an object as map entries. -/
def ofJsonMembers : List (String × JsonValue) → List (Value × Value)
  | [] => []
  | m :: ms => ofJsonMember m :: ofJsonMembers ms

/-- A member of an object as a map entry. -/
def ofJsonMember : String × JsonValue → Value × Value
  | (name, j) => (.string name, ofJson j)

end

/-! ### To JSON -/

/-- A double as JSON; what is not finite becomes null. -/
def doubleToJson (x : Double) : JsonValue :=
  if x.isFinite then .double x else .null

/-- An integer as JSON: a number if it fits 64 bits, else a text. -/
def integerToJson (n : Int) : JsonValue :=
  if JsonValue.minInteger ≤ n ∧ n ≤ JsonValue.maxInteger then .integer n
  else .string (Number.integerText n)

/-- A decimal as JSON: the nearest double unless that is infinite, else a text. -/
def decimalToJson (d : Number.Decimal) : JsonValue :=
  if d.toDouble.isFinite then .double d.toDouble else .string d.text

/-- A value that contains no others as JSON. -/
def leafToJson : Value → JsonValue
  | null => .null
  | boolean b => .boolean b
  | byte n => .integer n.toInt
  | short n => .integer n.toInt
  | integer n => .integer n.toInt
  | long n => .integer n.toInt
  | float x => doubleToJson x.toDouble
  | double x => doubleToJson x
  | bigInteger n => integerToJson n
  | bigDecimal d => decimalToJson d
  | v => .string v.leafText

mutual

/-- A value as JSON. Maps become objects, with the texts of the keys as names. -/
def toJson : Value → JsonValue
  | list items => .array (toJsonAll items)
  | set items => .array (toJsonAll items)
  | array items => .array (toJsonAll items)
  | map entries => .ofMembers (toJsonMembers entries)
  | v => v.leafToJson

/-- Several values as JSON. -/
def toJsonAll : List Value → List JsonValue
  | [] => []
  | v :: vs => toJson v :: toJsonAll vs

/-- Map entries as members of an object. -/
def toJsonMembers : List (Value × Value) → List (String × JsonValue)
  | [] => []
  | e :: es => toJsonMember e :: toJsonMembers es

/-- A map entry as a member of an object. -/
def toJsonMember : Value × Value → String × JsonValue
  | (k, v) => (k.text, toJson v)

end

end ExprLang.Value
