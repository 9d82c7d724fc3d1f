import ExprLang.Proofs.Coercion.Settled

/-!
# What conversions give

Where no resolver and no editor has a say, a conversion that gives a value gives one that fits the
type it was asked for (`ValueType.Fits`): a value of the type, null for a type that has it, or an
array of values that fit the type of the elements.

**Key theorem** (`Coercion.toType_fits`): for every value, every type, and whether or not null counts
as zero, what `Coercion.toType` gives fits the type. A value in which a conversion comes to rest does
(`Settled.fits`).
-/

namespace ExprLang

/-- A value that can stand where a type is wanted. -/
inductive ValueType.Fits : ValueType → Value → Prop where
  /-- It is of the type as it stands. -/
  | accepted {t : ValueType} {v : Value} : t.accepts v = true → t.Fits v
  /-- It is null, and the type has null. -/
  | null {t : ValueType} : t.isPrimitive = false → t.Fits .null
  /-- It is an array, and its elements can stand where the type of the elements is wanted. -/
  | elements {element : ValueType} {items : List Value} :
      (∀ item ∈ items, element.Fits item) → (array element).Fits (.array items)

namespace Coercion

variable {σ : Type} {host : Host σ} {ctx : Context}

/-- Where a conversion comes to rest, its type is met. -/
theorem Settled.fits {t : ValueType} {v : Value} (h : Settled host ctx t v) : t.Fits v := by
  induction h with
  | accepted accepted => exact .accepted accepted
  | @null t leaves =>
    refine .null ?_
    rcases leaves with kept | unreplaced
    · exact (keepsNull_iff.mp kept).2.1
    · cases t with
      | number | character | boolean => cases unreplaced
      | _ => rfl
  | elements _ ih => exact .elements ih

theorem yields_toType (unresolved : ctx.environment.resolver = none)
    (uneditable : ctx.environment.editors = []) (t : ValueType) (v : Value) :
    Yields t.Fits (toType host ctx t v) :=
  fun _ _ _ run => (yields_settled unresolved uneditable t v run).fits

/-- Where neither a resolver nor an editor has a say, what a conversion gives fits the type. -/
theorem toType_fits {t : ValueType} {v r : Value} {s after : Ambient σ}
    (unresolved : ctx.environment.resolver = none) (uneditable : ctx.environment.editors = [])
    (run : toType host ctx t v s = (.ok r, after)) : t.Fits r :=
  yields_toType unresolved uneditable t v run

/-- Numbers, null and characters in an array of arrays become numbers of the type. -/
theorem toType_fits_nested :
    let ctx := Context.ofEnvironment .empty
    let t := ValueType.array (.array (.number ⟨.long, false⟩))
    let v := Value.array [.array [.bigInteger 42, .null], .null, .array [.char 'a']]
    let r := Value.array [.array [.long 42, .null], .null, .array [.long 97]]
    ctx.environment.resolver = none ∧ ctx.environment.editors = [] ∧
      toType (Host.plain false) ctx t v ⟨true, 0, ()⟩ = (.ok r, ⟨true, 0, ()⟩) ∧ t.Fits r := by
  intro ctx t v r
  let host : Host Unit := Host.plain false
  let long : ValueType := .number ⟨.long, false⟩
  have number : toType host ctx long = byRules host ctx long :=
    funext (toType_of_unresolved rfl long)
  have row : toType host ctx (.array long) = byRules host ctx (.array long) :=
    funext (toType_of_unresolved rfl (.array long))
  have first : byRules host ctx (.array long) (.array [.bigInteger 42, .null]) =
      return .array [.long 42, .null] := by
    rw [byRules_array rfl, number]
    rfl
  have last : byRules host ctx (.array long) (.array [.char 'a']) = return .array [.long 97] := by
    rw [byRules_array rfl, number]
    rfl
  have run : toType host ctx t v ⟨true, 0, ()⟩ = (.ok r, ⟨true, 0, ()⟩) := by
    rw [toType_of_unresolved rfl, byRules_array rfl, row, List.mapM_cons, first, List.mapM_cons,
      List.mapM_cons, last]
    rfl
  exact ⟨rfl, rfl, run, toType_fits rfl rfl run⟩

end Coercion

end ExprLang
