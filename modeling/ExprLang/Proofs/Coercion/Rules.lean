import ExprLang.Coercion
import ExprLang.Proofs.Effects

/-!
# Conversions by the rules of the language

A conversion that the resolver does not claim follows the rules of the language (`Coercion.byRules`).
Without a resolver all conversions do.
-/

namespace ExprLang.Coercion

variable {σ : Type} (host : Host σ) (ctx : Context)

/-- What becomes of a conversion that no resolver claims. -/
def byRules (t : ValueType) (v : Value) : HookM σ Value :=
  if t.accepts v then return v
  else if v.isNull && keepsNull host ctx t then return .null
  else
    match t with
    | .string => return .string (← HookM.ofExcept (textOf v))
    | .number n => HookM.ofExcept (numberOf (ctx.zeroMode host) n v)
    | .character _ => return .char (← HookM.ofExcept (characterOf v))
    | .boolean p =>
      return orNull .boolean (← HookM.ofExcept (booleanOf (ctx.zeroMode host) p v))
    | .enum e => return orNull .enum (← HookM.ofExcept (enumOf e v))
    | t =>
      match t, v with
      | _, .null => return .null
      | .instant, v => return .instant (← HookM.ofExcept (instantOf host.now v))
      | .date, v => return .date (← HookM.ofExcept (dateOf host.now v))
      | t, .string s => HookM.ofExcept (editText host ctx t s)
      | .map, .set [] => return .map []
      | .array element, .array items => return .array (← items.mapM (toType host ctx element))
      | .interface i, .lambda l =>
        if i.singleAbstractMethod?.isSome then adapt ctx l i
        else throw (.conversion v.text v.kindName t.text)
      | t, v => throw (.conversion v.text v.kindName t.text)

/-- A conversion is offered to the resolver, and goes by the rules if it is not claimed. -/
theorem toType_eq (t : ValueType) (v : Value) :
    toType host ctx t v = (do
      match ← ctx.offerConversion host v t with
      | some claimed => HookM.ofExcept (admitClaim host ctx t claimed)
      | none => byRules host ctx t v) := by
  rw [toType.eq_def]
  rfl

variable {host ctx}

theorem toType_of_unresolved (unresolved : ctx.environment.resolver = none) (t : ValueType)
    (v : Value) : toType host ctx t v = byRules host ctx t v := by
  rw [toType_eq, Context.offerConversion, unresolved]
  rfl

/-- A value of the type stays as it is. -/
theorem byRules_of_accepts {t : ValueType} {v : Value} (accepted : t.accepts v = true) :
    byRules host ctx t v = return v := by
  unfold byRules
  rw [if_pos accepted]

/-- A value of another type than that of the numbers is made a number by the rule for them. -/
theorem byRules_number {t : NumberType} {v : Value} (other : (ValueType.number t).accepts v = false)
    (given : v.isNull = false) :
    byRules host ctx (.number t) v = HookM.ofExcept (numberOf (ctx.zeroMode host) t v) := by
  unfold byRules
  rw [other, given]
  rfl

/-- An array of another type is converted item by item. -/
theorem byRules_array {element : ValueType} {items : List Value}
    (other : (ValueType.array element).accepts (.array items) = false) :
    byRules host ctx (.array element) (.array items) =
      (do return .array (← items.mapM (toType host ctx element))) := by
  unfold byRules
  rw [other]
  rfl

end ExprLang.Coercion
