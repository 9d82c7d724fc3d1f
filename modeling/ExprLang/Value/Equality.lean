import ExprLang.Value

/-!
# Structural equality

Two values are the same if they are of one kind and agree in all they hold. Decimals are compared
by value, floating-point numbers by code, times by the moment, sets and maps without regard to
order. What makes two objects of the application the same is up to the application.
-/

namespace ExprLang

/-- What the application says about its objects. -/
structure ObjectModel where
  /-- Whether two different objects count as the same. -/
  equals : HostObject → HostObject → Bool
  /-- The order of an object relative to a value, if it has one. -/
  compareTo : HostObject → Value → Option (Except EvalError Ordering)

/-- Objects that have neither equality nor order. -/
def ObjectModel.plain : ObjectModel :=
  ⟨fun _ _ => false, fun _ _ => none⟩

namespace Value

variable (m : ObjectModel)

/-- Structural equality of values that contain no others. -/
def sameLeaf : Value → Value → Bool
  | null, null => true
  | boolean a, boolean b => a == b
  | char a, char b => a == b
  | byte a, byte b => a == b
  | short a, short b => a == b
  | integer a, integer b => a == b
  | long a, long b => a == b
  | float a, float b => a == b
  | double a, double b => a == b
  | bigInteger a, bigInteger b => a == b
  | bigDecimal a, bigDecimal b => a.sameValue b
  | string a, string b => a == b
  | enum a, enum b => a == b
  | instant a, instant b => a == b
  | date a, date b => a == b
  | temporal a, temporal b => a.instant == b.instant
  | clock a, clock b => a.id == b.id
  | lambda a, lambda b => a.id == b.id
  | adapter a, adapter b => a.id == b.id
  | object a, object b => a.id == b.id || m.equals a b
  | _, _ => false

mutual

/-- Structural equality. -/
def same : Value → Value → Bool
  | list xs, list ys => sameAll xs ys
  | array xs, array ys => sameAll xs ys
  | set xs, set ys => xs.length == ys.length && allIn xs ys
  | map xs, map ys => xs.length == ys.length && entriesIn xs ys
  | v, w => sameLeaf m v w
termination_by v w => sizeOf v + sizeOf w

/-- Equality of lists, element by element. -/
def sameAll : List Value → List Value → Bool
  | [], [] => true
  | x :: xs, y :: ys => same x y && sameAll xs ys
  | _, _ => false
termination_by xs ys => sizeOf xs + sizeOf ys

/-- Whether each of the values is among `ys`. -/
def allIn : List Value → List Value → Bool
  | [], _ => true
  | x :: xs, ys => isIn x ys && allIn xs ys
termination_by xs ys => sizeOf xs + sizeOf ys

/-- Whether one of `ys` equals a value. -/
def isIn (x : Value) : List Value → Bool
  | [] => false
  | y :: ys => same y x || isIn x ys
termination_by ys => sizeOf x + sizeOf ys

/-- Whether each of the entries is among `ys`. -/
def entriesIn : List (Value × Value) → List (Value × Value) → Bool
  | [], _ => true
  | (k, v) :: xs, ys => entryIn k v ys && entriesIn xs ys
termination_by xs ys => sizeOf xs + sizeOf ys

/-- Whether the first of `ys` whose key equals `k` has a value equal to `v`. -/
def entryIn (k v : Value) : List (Value × Value) → Bool
  | [] => false
  | (key, value) :: ys => if same key k then same value v else entryIn k v ys
termination_by ys => sizeOf k + sizeOf v + sizeOf ys

end

/-- Whether a list has an element equal to `v`. -/
def memberOf (v : Value) (items : List Value) : Bool :=
  items.any fun item => same m item v

/-- The items without those that equal an earlier one, in their order. -/
def distinct (items : List Value) : List Value :=
  items.foldl (fun kept v => if memberOf m v kept then kept else kept ++ [v]) []

/-- The set of some items. -/
def setOf (items : List Value) : Value :=
  .set (distinct m items)

/-- The value of a key in a map. -/
def mapGet? (entries : List (Value × Value)) (key : Value) : Option Value :=
  (entries.find? fun e => same m e.1 key).map Prod.snd

/-- The map with a key bound to a value: in the place of the key if the map has it, else at the
end. -/
def mapInsert (entries : List (Value × Value)) (key value : Value) : List (Value × Value) :=
  match entries with
  | [] => [(key, value)]
  | e :: rest =>
    if same m e.1 key then (e.1, value) :: rest else e :: mapInsert rest key value

end Value

end ExprLang
