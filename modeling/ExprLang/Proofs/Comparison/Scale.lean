import ExprLang.Comparison

/-!
# Numbers compared on one scale

In whichever kind two numbers are compared, both are converted to it, the left one first, and what is read
off them is put in order (`compareOn_eq_read`). The kinds differ in what is read off (`Basis.point?`) and
in its order (`Basis.order`) only.
-/

namespace ExprLang.Comparison

open Number (Double Decimal)

variable {σ : Type}

namespace Basis

/-- The kind of number that values are converted to. -/
def kind : Basis → NumberKind
  | decimal => .bigDecimal
  | double => .double
  | bigInteger => .bigInteger
  | long => .long

/-- The name of the kind in messages. -/
def name : Basis → String
  | decimal => "BigDecimal"
  | double => "Double"
  | bigInteger => "BigInteger"
  | long => "Long"

/-- What is read off a number of the kind. -/
def Point : Basis → Type
  | decimal => Decimal
  | double => Double
  | bigInteger => Int
  | long => Int64

/-- What is read off a value, if it is a number of the kind. -/
def point? : (basis : Basis) → Value → Option basis.Point
  | decimal, .bigDecimal d => some d
  | double, .double x => some x
  | bigInteger, .bigInteger n => some n
  | long, .long n => some n
  | _, _ => none

/-- The order of what is read off. -/
def order : (basis : Basis) → basis.Point → basis.Point → Ordering
  | decimal, d, e => Decimal.compareValue d e
  | double, x, y => Double.compareTotal x y
  | bigInteger, (m : Int), (n : Int) => compare m n
  | long, m, n => compare (Int64.toInt m) (Int64.toInt n)

/-- A value converted to the kind, and read off. -/
def read (host : Host σ) (ctx : Context) (basis : Basis) (v : Value) : HookM σ basis.Point := do
  match basis.point? (← Coercion.toNumber host ctx ⟨basis.kind, false⟩ v) with
  | some p => return p
  | none => throw (mismatch v basis.name)

end Basis

section

variable (host : Host σ) (ctx : Context)

theorem asDecimal_eq_read : asDecimal host ctx = Basis.decimal.read host ctx := by
  funext v
  refine bind_congr fun w => ?_
  cases w <;> rfl

theorem asDouble_eq_read : asDouble host ctx = Basis.double.read host ctx := by
  funext v
  refine bind_congr fun w => ?_
  cases w <;> rfl

theorem asBigInteger_eq_read : asBigInteger host ctx = Basis.bigInteger.read host ctx := by
  funext v
  refine bind_congr fun w => ?_
  cases w <;> rfl

theorem asLong_eq_read : asLong host ctx = Basis.long.read host ctx := by
  funext v
  refine bind_congr fun w => ?_
  cases w <;> rfl

/-- Two values are read off in turn and put in order. -/
theorem compareOn_eq_read (basis : Basis) (a b : Value) : compareOn host ctx basis a b = do
    return basis.order (← basis.read host ctx a) (← basis.read host ctx b) := by
  cases basis with
  | decimal =>
    rw [compareOn, asDecimal_eq_read]
    rfl
  | double =>
    rw [compareOn, asDouble_eq_read]
    rfl
  | bigInteger =>
    rw [compareOn, asBigInteger_eq_read]
    rfl
  | long =>
    rw [compareOn, asLong_eq_read]
    rfl

end

end ExprLang.Comparison
