import ExprLang.Proofs.Coercion.Rules
import ExprLang.Proofs.Comparison.Outcome
import ExprLang.Proofs.Number.Encoding

/-!
# The exact values of numbers

A number has an exact value unless it is infinite or a NaN (`Value.rational?`). Decimals have room for all
exact values, integers of any size for those of integers, and integers of 64 bits for those of integers of
fixed width (`map_bigDecimal?`, `map_bigInteger?`, `map_long?`). Where no resolver has a say, both ways of
converting a number to a type of numbers come to what `convertNumber` gives (`becomes_convertNumber`).
-/

namespace ExprLang

open Number (Decimal)

namespace Value

/-- The exact value of a number; NaN, the infinities and what is not a number have none. -/
def rational? : Value → Option ℚ
  | byte n => some n.toInt
  | short n => some n.toInt
  | integer n => some n.toInt
  | long n => some n.toInt
  | float x => x.decode.value?
  | double x => x.decode.value?
  | bigInteger n => some n
  | bigDecimal d => some d.value
  | _ => none

theorem isNumber_of_rational? {v : Value} {x : ℚ} (known : v.rational? = some x) :
    v.isNumber = true := by
  cases v <;> first | rfl | cases known

end Value

namespace Coercion

open Comparison (isFloating isDecimal isBigInteger)

/-! ### Kinds with room for a number -/

/-- The decimal of a number has its exact value, and there is none without an exact value. -/
theorem map_bigDecimal? (v : Value) : (bigDecimal? v).map Decimal.value = v.rational? := by
  cases v with
  | float x => exact (Number.value_exactDecimal? _).trans (Number.value_toDouble_eq x)
  | double x => exact Number.value_exactDecimal? _
  | _ => simp [bigDecimal?, long?, Value.rational?]

/-- The integer of a number that is neither floating nor a decimal has its exact value. -/
theorem map_bigInteger? {v : Value} (fixed : isFloating v = false) (whole : isDecimal v = false) :
    (bigInteger? v).map (Int.cast : Int → ℚ) = v.rational? := by
  cases v <;> simp_all [Value.rational?, isFloating, isDecimal, bigInteger?, long?]

/-- The integer of 64 bits of a number of fixed width has its exact value. -/
theorem map_long? {v : Value} (fixed : isFloating v = false) (whole : isDecimal v = false)
    (small : isBigInteger v = false) :
    (long? v).map (fun n => (n.toInt : ℚ)) = v.rational? := by
  cases v <;> simp_all [Value.rational?, isFloating, isDecimal, isBigInteger, long?]

/-! ### Conversions without a resolver -/

theorem numberOf_of_isNumber {v : Value} (number : v.isNumber = true) (zeroMode : Bool)
    (t : NumberType) : numberOf zeroMode t v = convertNumber t v := by
  cases v <;> first | rfl | cases number

/-- A number of the type stays as it is. Singles are left out here, since a NaN may be changed by making
a double of it. -/
theorem ofKind?_of_accepts {t : NumberType} {v : Value}
    (accepted : (ValueType.number t).accepts v = true) (wide : t.kind ≠ .float) :
    ofKind? t.kind v = some v := by
  obtain ⟨own, number, kind⟩ : ∃ own, NumberKind.of? v = some own ∧ (t.kind = .any ∨ t.kind = own) := by
    cases v <;>
      simp_all only [ValueType.accepts, NumberKind.of?, Bool.or_eq_true, beq_iff_eq,
        Bool.false_eq_true, Option.some.injEq, exists_eq_left']
  rcases kind with any | same
  · rw [any, ofKind?, if_pos]
    cases v <;> first | rfl | cases number
  · rw [same]
    rw [same] at wide
    cases v <;> cases number <;>
      simp_all [ofKind?, long?, int?, double?, bigInteger?, bigDecimal?]

variable {σ : Type} {host : Host σ} {ctx : Context}

/-- Whichever way a value is converted to a type of numbers, this is the result, and nothing else
changes. -/
def Becomes (host : Host σ) (ctx : Context) (t : NumberType) (v : Value)
    (r : Except EvalError Value) : Prop :=
  ∀ s, toType host ctx (.number t) v s = (r, s) ∧ toNumber host ctx t v s = (r, s)

/-- Where no resolver has a say, a number is converted as it is, also to its own kind. -/
theorem becomes_convertNumber (unresolved : ctx.environment.resolver = none) {t : NumberType}
    {v : Value} (number : v.isNumber = true) (wide : t.kind ≠ .float) :
    Becomes host ctx t v (convertNumber t v) := by
  intro s
  have dedicated : toNumber host ctx t v s = (convertNumber t v, s) := by
    rw [Comparison.toNumber_of_free unresolved, numberOf_of_isNumber number]
  refine ⟨?_, dedicated⟩
  rw [toType_of_unresolved unresolved]
  by_cases accepted : (ValueType.number t).accepts v = true
  · rw [byRules_of_accepts accepted, convertNumber, ofKind?_of_accepts accepted wide]
    rfl
  · have given : v.isNull = false := by
      cases v <;> first | rfl | cases number
    rw [byRules_number (Bool.eq_false_iff.mpr accepted) given, numberOf_of_isNumber number]
    rfl

/-- A number of another kind that is made of a number is what the number is converted to. -/
theorem becomes_of_ofKind? (unresolved : ctx.environment.resolver = none) {t : NumberType}
    {v n : Value} (number : v.isNumber = true) (wide : t.kind ≠ .float)
    (converted : ofKind? t.kind v = some n) : Becomes host ctx t v (.ok n) := by
  have becomes : Becomes host ctx t v (convertNumber t v) :=
    becomes_convertNumber unresolved number wide
  rwa [convertNumber, converted] at becomes

end Coercion

end ExprLang
