import ExprLang.Proofs.Coercion.Exact

/-!
# Floating-point numbers as decimals

The decimal of a single or a double is exactly the number that the sign, the exponent and the fraction of its
code give; infinities and NaN have none. **Key theorem**: `decimal_of_floating_exact`.
-/

namespace ExprLang

open Comparison (isFloating)
open Number (Decimal Format)

/-- The number that the code of a floating-point number gives. -/
def Value.encoded? : Value → Option ℚ
  | float x => Format.single.encoded? x.bits.toNat
  | double x => Format.double.encoded? x.bits.toNat
  | _ => none

namespace Coercion

theorem isNumber_of_isFloating {v : Value} (floating : isFloating v = true) : v.isNumber = true := by
  cases v <;> first | rfl | cases floating

/-- The decimal of a floating-point number is the number that its code gives. -/
theorem map_bigDecimal?_of_isFloating {v : Value} (floating : isFloating v = true) :
    (bigDecimal? v).map Decimal.value = v.encoded? := by
  rw [map_bigDecimal?]
  cases v with
  | float x => exact x.value_decode
  | double x => exact x.value_decode
  | _ => cases floating

variable {σ : Type} {host : Host σ} {ctx : Context}

/-- What a floating-point number becomes as a decimal. -/
theorem becomes_bigDecimal (unresolved : ctx.environment.resolver = none) (primitive : Bool) {v : Value}
    (floating : isFloating v = true) :
    Becomes host ctx ⟨.bigDecimal, primitive⟩ v
      (match bigDecimal? v with
        | some d => .ok (.bigDecimal d)
        | none => .error (.conversion v.text v.kindName "BigDecimal")) := by
  have becomes : Becomes host ctx ⟨.bigDecimal, primitive⟩ v (convertNumber _ v) :=
    becomes_convertNumber unresolved (isNumber_of_isFloating floating) nofun
  have name : NumberType.text ⟨.bigDecimal, primitive⟩ = "BigDecimal" := by cases primitive <;> rfl
  rw [convertNumber, name] at becomes
  cases decimal : bigDecimal? v <;> simpa [ofKind?, decimal] using becomes

/-- The value of the decimal that a floating-point number is converted to. -/
theorem value_of_toType (unresolved : ctx.environment.resolver = none) {primitive : Bool} {v : Value}
    (floating : isFloating v = true) {d : Decimal} {s : Ambient σ}
    (converted : (toType host ctx (.number ⟨.bigDecimal, primitive⟩) v s).1 = .ok (.bigDecimal d)) :
    v.encoded? = some d.value := by
  rw [(becomes_bigDecimal unresolved primitive floating s).1] at converted
  rw [← map_bigDecimal?_of_isFloating floating]
  split at converted
  · rename_i decimal
    cases converted
    rw [decimal, Option.map_some]
  · cases converted

/-- Where no resolver has a say, a floating-point number becomes a decimal of exactly the value that its code
gives, an infinite one or a NaN none, and two of them become decimals of the same value only if they are the
same number. -/
theorem decimal_of_floating_exact (unresolved : ctx.environment.resolver = none) (primitive : Bool) :
    (∀ v x, isFloating v = true → v.encoded? = some x →
      ∃ d, Becomes host ctx ⟨.bigDecimal, primitive⟩ v (.ok (.bigDecimal d)) ∧ d.value = x) ∧
    (∀ v, isFloating v = true → v.encoded? = none →
      Becomes host ctx ⟨.bigDecimal, primitive⟩ v
        (.error (.conversion v.text v.kindName "BigDecimal"))) ∧
    ∀ v w d e s s', isFloating v = true → isFloating w = true →
      (toType host ctx (.number ⟨.bigDecimal, primitive⟩) v s).1 = .ok (.bigDecimal d) →
      (toType host ctx (.number ⟨.bigDecimal, primitive⟩) w s').1 = .ok (.bigDecimal e) →
      (d.sameValue e = true ↔ v.encoded? = w.encoded?) := by
  refine ⟨fun v x floating known => ?_, fun v floating unknown => ?_,
    fun v w d e s s' floatingV floatingW convertedV convertedW => ?_⟩
  · have becomes : Becomes host ctx _ v _ := becomes_bigDecimal unresolved primitive floating
    obtain ⟨d, decimal, value⟩ :=
      Option.map_eq_some_iff.mp ((map_bigDecimal?_of_isFloating floating).trans known)
    rw [decimal] at becomes
    exact ⟨d, becomes, value⟩
  · have becomes : Becomes host ctx _ v _ := becomes_bigDecimal unresolved primitive floating
    have nothing : bigDecimal? v = none :=
      Option.map_eq_none_iff.mp ((map_bigDecimal?_of_isFloating floating).trans unknown)
    rwa [nothing] at becomes
  · rw [value_of_toType unresolved floatingV convertedV, value_of_toType unresolved floatingW convertedW,
      Decimal.sameValue_eq, decide_eq_true_iff, Option.some_inj]

/-- The negative single next to zero has a value of its own, there is no infinite decimal, and the two zeros
become the same decimal. -/
theorem decimal_of_floating_exact_subnormal :
    let host : Host Unit := Host.plain false
    let ctx := Context.ofEnvironment .empty
    let least := Value.float ⟨0x80000001⟩
    let infinite := Value.double ⟨0xFFF0000000000000⟩
    let zero := Value.double ⟨0⟩
    let minusZero := Value.double ⟨0x8000000000000000⟩
    ctx.environment.resolver = none ∧ isFloating least = true ∧
      (∃ d, Becomes host ctx ⟨.bigDecimal, false⟩ least (.ok (.bigDecimal d)) ∧
        d.value = -2 ^ (-149 : Int)) ∧
      Becomes host ctx ⟨.bigDecimal, false⟩ infinite
        (.error (.conversion "-Infinity" "Double" "BigDecimal")) ∧
      ∃ d e, Becomes host ctx ⟨.bigDecimal, false⟩ zero (.ok (.bigDecimal d)) ∧
        Becomes host ctx ⟨.bigDecimal, false⟩ minusZero (.ok (.bigDecimal e)) ∧
        d.sameValue e = true := by
  intro host ctx least infinite zero minusZero
  obtain ⟨finite, notFinite, same⟩ := @decimal_of_floating_exact _ host ctx rfl false
  have knownLeast : least.encoded? = some (-2 ^ (-149 : Int)) := by
    show Format.single.encoded? 0x80000001 = _
    norm_num [Format.encoded?, Format.exponentField, Format.signField, Format.fractionField,
      Format.single]
  have unknown : infinite.encoded? = none := by
    show Format.double.encoded? 0xFFF0000000000000 = none
    norm_num [Format.encoded?, Format.exponentField, Format.double]
  have knownZero : zero.encoded? = some 0 := by
    show Format.double.encoded? 0 = _
    norm_num [Format.encoded?, Format.exponentField, Format.fractionField, Format.double]
  have knownMinusZero : minusZero.encoded? = some 0 := by
    show Format.double.encoded? 0x8000000000000000 = _
    norm_num [Format.encoded?, Format.exponentField, Format.fractionField, Format.double]
  obtain ⟨d, becomesZero, -⟩ := finite zero 0 rfl knownZero
  obtain ⟨e, becomesMinusZero, -⟩ := finite minusZero 0 rfl knownMinusZero
  have alike : d.sameValue e = true :=
    (same zero minusZero d e ⟨true, 0, ()⟩ ⟨true, 0, ()⟩ rfl rfl
      (congrArg Prod.fst (becomesZero _).1) (congrArg Prod.fst (becomesMinusZero _).1)).mpr
      (knownZero.trans knownMinusZero.symm)
  exact ⟨rfl, rfl, finite least _ rfl knownLeast, notFinite infinite rfl unknown, d, e, becomesZero,
    becomesMinusZero, alike⟩

end Coercion

end ExprLang
