import ExprLang.Arithmetic
import ExprLang.Proofs.Comparison.Scale
import ExprLang.Proofs.Correspondence.Values

/-!
# The rules of the language on values that correspond

The rules by which values become texts, numbers, truth values and times look at scalars only; of any
other value they see its kind and its text, for the error. So do arithmetic and the choice of the kind
in which two values are compared. All of them therefore do the same with values that are alike.
-/

namespace ExprLang

variable {σ : Type} {C : Correspondence σ} {v v' : Value}

namespace Correspondence.Values

/-! ### Conversions -/

theorem accepts_eq (h : C.Values v v') (t : ValueType) : t.accepts v = t.accepts v' := by
  induction t generalizing v v' with
  | array element ih =>
    cases h with
    | array all =>
      have elements : ∀ {xs ys : List Value}, List.Forall₂ C.Values xs ys →
          (xs.all fun v => element.accepts v) = ys.all fun v => element.accepts v := by
        intro xs ys all
        induction all with
        | nil => rfl
        | cons like _ step => rw [List.all_cons, List.all_cons, ih like, step]
      rw [ValueType.accepts, ValueType.accepts, elements all]
    | _ => rfl
  | _ => cases h <;> rfl

theorem textOf_eq (h : C.Values v v') : Coercion.textOf v = Coercion.textOf v' := by
  have text := h.text_eq
  cases h with
  | scalar _ => rfl
  | _ => exact congrArg Except.ok text

theorem numberOf_eq (h : C.Values v v') (zeroMode : Bool) (t : NumberType) :
    Coercion.numberOf zeroMode t v = Coercion.numberOf zeroMode t v' := by
  have text := h.text_eq
  cases h with
  | scalar _ => rfl
  | _ => exact congrArg (fun text => Except.error (EvalError.conversion text _ _)) text

theorem booleanOf_eq (h : C.Values v v') (zeroMode primitive : Bool) :
    Coercion.booleanOf zeroMode primitive v = Coercion.booleanOf zeroMode primitive v' := by
  have text := h.text_eq
  cases h with
  | scalar _ => rfl
  | _ => exact congrArg (fun text => Except.error (EvalError.conversion text _ _)) text

theorem enumOf_eq (h : C.Values v v') (t : EnumType) : Coercion.enumOf t v = Coercion.enumOf t v' := by
  have text := h.text_eq
  cases h with
  | scalar _ => rfl
  | _ => exact congrArg (fun text => Except.error (EvalError.conversion text _ _)) text

/-- Times are alike unless the clock of the system is in sight and has moved. -/
theorem instantOf_eq (h : C.Values v v') {now later : Time.Instant} (still : C.clocks → now = later) :
    Coercion.instantOf now v = Coercion.instantOf later v' := by
  have text := h.text_eq
  cases h with
  | scalar _ allowed => exact Coercion.instantOf_eq fun system => still (allowed system)
  | _ => exact congrArg (fun text => Except.error (EvalError.conversion text _ _)) text

/-! ### Arithmetic -/

section Arithmetic

open Arithmetic

variable {w w' : Value}

theorem toRank_eq {α : Type} (h : C.Values v v') (target : String) (read : String → Option α)
    (convert : Value → Option α) : toRank target read convert v = toRank target read convert v' := by
  have text := h.text_eq
  cases h with
  | scalar _ => rfl
  | _ => exact congrArg (fun text => Except.error (EvalError.conversion text _ _)) text

theorem rankOf_eq (h : C.Values v v') (h' : C.Values w w') (op : Operator) :
    rankOf op v w = rankOf op v' w' := by
  have decimal {u u' : Value} (h : C.Values u u') : isDecimal u = isDecimal u' := by cases h <;> rfl
  have floating {u u' : Value} (h : C.Values u u') : isFloating u = isFloating u' := by cases h <;> rfl
  have big {u u' : Value} (h : C.Values u u') : isBigInteger u = isBigInteger u' := by cases h <;> rfl
  unfold rankOf
  rw [decimal h, decimal h', floating h, floating h', big h, big h']

theorem apply_eq (h : C.Values v v') (h' : C.Values w w') (op : BinaryOp) :
    apply op v w = apply op v' w' := by
  unfold apply
  rw [h.isNull_eq, h'.isNull_eq]
  split
  · rfl
  split
  · rw [rankOf_eq h h']
    unfold combine toLong toDouble toBigInteger toDecimal
    simp only [h.toRank_eq, h'.toRank_eq]
  · rfl

theorem negate_eq (h : C.Values v v') : negate v = negate v' := by
  have text := h.text_eq
  cases h with
  | scalar _ => rfl
  | _ => exact congrArg (fun text => Except.error (EvalError.conversion text _ _)) text

end Arithmetic

/-! ### Kinds of comparison -/

section Comparison

open Comparison

variable {w w' : Value}

theorem basis?_eq (h : C.Values v v') (h' : C.Values w w') : basis? v w = basis? v' w' := by
  have decimal {u u' : Value} (h : C.Values u u') : isDecimal u = isDecimal u' := by cases h <;> rfl
  have floating {u u' : Value} (h : C.Values u u') : isFloating u = isFloating u' := by cases h <;> rfl
  have big {u u' : Value} (h : C.Values u u') : isBigInteger u = isBigInteger u' := by cases h <;> rfl
  have integral {u u' : Value} (h : C.Values u u') : isIntegral u = isIntegral u' := by cases h <;> rfl
  unfold basis?
  rw [h.isText_eq, h'.isText_eq, decimal h, decimal h', floating h, floating h', big h, big h',
    integral h, integral h']

theorem point?_eq (h : C.Values v v') {basis : Basis} : basis.point? v = basis.point? v' := by
  cases h with
  | scalar _ => rfl
  | _ => cases basis <;> rfl

theorem isBoolean_eq (h : C.Values v v') : isBoolean v = isBoolean v' := by
  cases h <;> rfl

/-- Values values are the same member of an enumeration, or neither is one. -/
theorem enum_or (h : C.Values v v') :
    (∃ m, v = .enum m ∧ v' = .enum m) ∨ (∀ m, v ≠ .enum m) ∧ ∀ m, v' ≠ .enum m := by
  cases h with
  | scalar _ =>
    cases v with
    | enum m => exact .inl ⟨m, rfl, rfl⟩
    | _ => exact .inr ⟨nofun, nofun⟩
  | _ => exact .inr ⟨nofun, nofun⟩

theorem mismatch_eq (h : C.Values v v') (target : String) : mismatch v target = mismatch v' target := by
  unfold mismatch
  rw [h.text_eq, h.kindName_eq]

/-- Two values have an order of their own as those have that are like them, if the application does not
tell apart the values that it compares its objects with. -/
theorem nativeOrder?_eq {objects : ObjectModel}
    (compared : ∀ o {w w' : Value}, C.Values w w' → objects.compareTo o w = objects.compareTo o w')
    (h : C.Values v v') (h' : C.Values w w') :
    nativeOrder? objects v w = nativeOrder? objects v' w' := by
  cases h with
  | @scalar v scalar =>
    cases v with
    | object o => exact compared o h'
    | boolean _ | enum _ => cases h' <;> rfl
    | _ => rfl
  | _ => rfl

end Comparison

end Correspondence.Values

end ExprLang
