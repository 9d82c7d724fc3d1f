import ExprLang.Number.Double

/-!
# JSON

Values of the JSON format. Numbers are integers, or doubles where they are written with a point
or an exponent or are too large. The members of an object have different names and are kept in
the order of their names.
-/

namespace ExprLang

/-- A JSON value. -/
inductive JsonValue where
  | null
  | boolean (b : Bool)
  /-- An integer that fits 64 bits, with or without a sign. -/
  | integer (n : Int)
  /-- A finite double. -/
  | double (x : Number.Double)
  | string (s : String)
  | array (items : List JsonValue)
  | object (members : List (String × JsonValue))
deriving Repr, Inhabited

namespace JsonValue

/-- The least integer. -/
def minInteger : Int := -Nat.pow 2 63

/-- The greatest integer. -/
def maxInteger : Int := Nat.pow 2 64 - 1

/-- The members with a value for a name, in the order of names; it replaces an earlier one. -/
def insertMember (members : List (String × JsonValue)) (name : String) (v : JsonValue) :
    List (String × JsonValue) :=
  match members with
  | [] => [(name, v)]
  | (n, w) :: rest =>
    match compare name n with
    | .lt => (name, v) :: (n, w) :: rest
    | .eq => (name, v) :: rest
    | .gt => (n, w) :: insertMember rest name v

/-- The object with some members; of several with one name the last counts. -/
def ofMembers (members : List (String × JsonValue)) : JsonValue :=
  .object (members.foldl (fun ms m => insertMember ms m.1 m.2) [])

end JsonValue

end ExprLang
