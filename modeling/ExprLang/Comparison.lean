import ExprLang.Coercion

/-!
# Comparison

Equality and order of values of different kinds. Two values are brought to a common kind first:
decimals, doubles, big integers and integers in this order, then times, then texts; only values of
one kind that have an order of their own are left over. Equality never fails: values that cannot
be brought to a common kind are unequal.
-/

namespace ExprLang.Comparison

open Number (Double Decimal)

/-- Whether a value is an integer of fixed width or a character. -/
def isIntegral : Value → Bool
  | .byte _ | .short _ | .integer _ | .long _ | .char _ => true
  | _ => false

/-- Whether a value is a decimal. -/
def isDecimal : Value → Bool
  | .bigDecimal _ => true
  | _ => false

/-- Whether a value is a floating-point number. -/
def isFloating : Value → Bool
  | .float _ | .double _ => true
  | _ => false

/-- Whether a value is an integer without a fixed width. -/
def isBigInteger : Value → Bool
  | .bigInteger _ => true
  | _ => false

/-- Whether a value is a truth value. -/
def isBoolean : Value → Bool
  | .boolean _ => true
  | _ => false

/-- The kinds in which numbers are compared. -/
inductive Basis where
  | decimal | double | bigInteger | long
deriving DecidableEq, Repr

/-- The kind in which two values are compared as numbers: the first for which one of them calls.
Texts are not compared as numbers. -/
def basis? (a b : Value) : Option Basis :=
  if a.isText || b.isText then none
  else if isDecimal a || isDecimal b then some .decimal
  else if isFloating a || isFloating b then some .double
  else if isBigInteger a || isBigInteger b then some .bigInteger
  else if isIntegral a || isIntegral b then some .long
  else none

variable {σ : Type} (host : Host σ) (ctx : Context)

/-- The error of a value that does not become what it is compared as. -/
def mismatch (v : Value) (target : String) : EvalError :=
  .conversion v.text v.kindName target

/-- The value as a decimal. -/
def asDecimal (v : Value) : HookM σ Decimal := do
  match ← Coercion.toNumber host ctx ⟨.bigDecimal, false⟩ v with
  | .bigDecimal d => return d
  | _ => throw (mismatch v "BigDecimal")

/-- The value as a double. -/
def asDouble (v : Value) : HookM σ Double := do
  match ← Coercion.toNumber host ctx ⟨.double, false⟩ v with
  | .double x => return x
  | _ => throw (mismatch v "Double")

/-- The value as an integer without a fixed width. -/
def asBigInteger (v : Value) : HookM σ Int := do
  match ← Coercion.toNumber host ctx ⟨.bigInteger, false⟩ v with
  | .bigInteger n => return n
  | _ => throw (mismatch v "BigInteger")

/-- The value as an integer of 64 bits. -/
def asLong (v : Value) : HookM σ Int64 := do
  match ← Coercion.toNumber host ctx ⟨.long, false⟩ v with
  | .long n => return n
  | _ => throw (mismatch v "Long")

/-- The value as a point in time. -/
def asInstant (v : Value) : HookM σ Time.Instant := do
  match ← Coercion.toInstant host ctx v with
  | some t => return t
  | none => throw .compareNull

/-- The order of two values as numbers. -/
def compareOn (basis : Basis) (a b : Value) : HookM σ Ordering := do
  match basis with
  | .decimal => return (← asDecimal host ctx a).compareValue (← asDecimal host ctx b)
  | .double => return (← asDouble host ctx a).compareTotal (← asDouble host ctx b)
  | .bigInteger => return compare (← asBigInteger host ctx a) (← asBigInteger host ctx b)
  | .long => return compare (← asLong host ctx a).toInt (← asLong host ctx b).toInt

/-- The order of two values as times. -/
def compareInstants (a b : Value) : HookM σ Ordering := do
  return (← asInstant host ctx a).compareTime (← asInstant host ctx b)

/-- The order of two values as texts. -/
def compareTexts (a b : Value) : HookM σ Ordering := do
  return compare (← Coercion.toText host ctx a) (← Coercion.toText host ctx b)

/-! ### Equality -/

/-- Equality of two values that are neither the same nor null, or the error of bringing them to a
common kind. -/
def equalsAcross (a b : Value) : HookM σ Bool := do
  match basis? a b with
  | some basis => return (← compareOn host ctx basis a b) == .eq
  | none =>
    if isBoolean a || isBoolean b then
      return (← Coercion.toBoolean host ctx false a) == (← Coercion.toBoolean host ctx false b)
    else
      match a, b with
      | .enum m, b => return (← Coercion.toEnum host ctx m.type b) == some m
      | a, .enum m => return (← Coercion.toEnum host ctx m.type a) == some m
      | a, b =>
        if a.isTemporal || b.isTemporal then
          return (← compareInstants host ctx a b) == .eq
        else if a.isText || b.isText then
          return (← compareTexts host ctx a b) == .eq
        else
          return false

/-- Equality of two values, or the error of bringing them to a common kind. -/
def tryEquals (a b : Value) : HookM σ Bool :=
  if Value.same host.objects a b then return true
  else if a.isNull || b.isNull then return false
  else equalsAcross host ctx a b

/-- Equality of two values. -/
def equals (a b : Value) : StateM (Ambient σ) Bool :=
  fun s =>
    match tryEquals host ctx a b s with
    | (.ok equal, after) => (equal, after)
    | (.error e, after) => (false, host.note (.dropped .equality e) after)

/-! ### Order -/

/-- The order that a value has relative to another by itself. -/
def nativeOrder? (objects : ObjectModel) (a b : Value) : Option (Except EvalError Ordering) :=
  match a, b with
  | .boolean x, .boolean y => some (.ok (compare x.toNat y.toNat))
  | .enum x, .enum y =>
    if x.type = y.type then some (.ok (compare x.ordinal.val y.ordinal.val)) else none
  | .object o, v => objects.compareTo o v
  | _, _ => none

/-- The order of two values of which neither is null or equal to the other. -/
def compareAcross (a b : Value) : HookM σ Ordering :=
  match basis? a b with
  | some basis => compareOn host ctx basis a b
  | none =>
    if a.isTemporal || b.isTemporal then compareInstants host ctx a b
    else if a.isText || b.isText then compareTexts host ctx a b
    else
      match nativeOrder? host.objects a b with
      | some order => .ofExcept order
      | none =>
        match nativeOrder? host.objects b a with
        | some order => .ofExcept (order.map Ordering.swap)
        | none => throw (.comparison a.text b.text)

/-- The order of two values. -/
def compareValues (a b : Value) : HookM σ Ordering := do
  if ← equals host ctx a b then return .eq
  else if a.isNull || b.isNull then throw .compareNull
  else compareAcross host ctx a b

end ExprLang.Comparison
