import ExprLang.Coercion
import ExprLang.Proofs.Evaluation.Parts

/-!
# The numbers that conversions give

A number that is made of another number, or read from a text, is of the type that it was asked for. A
value as a number is such a number, or null.
-/

namespace ExprLang.Coercion

/-- A number as a number of a kind is of every type of the kind. -/
theorem accepts_of_ofKind? {t : NumberType} {v n : Value} (h : ofKind? t.kind v = some n) :
    (ValueType.number t).accepts n = true := by
  obtain ⟨kind, primitive⟩ := t
  cases kind with
  | any =>
    -- the only kind that keeps the number as it is
    simp only [ofKind?, Option.ite_none_right_eq_some, Option.some.injEq] at h
    obtain ⟨number, rfl⟩ := h
    cases v <;> first | rfl | cases number
  | _ =>
    simp only [ofKind?, Option.map_eq_some_iff] at h
    obtain ⟨_, -, rfl⟩ := h
    rfl

/-- A number that a text writes is of every type of its kind. -/
theorem accepts_of_readKind? {t : NumberType} {s : String} {n : Value}
    (h : readKind? t.kind s = some n) : (ValueType.number t).accepts n = true := by
  obtain ⟨kind, primitive⟩ := t
  cases kind with
  | any => cases h
  | _ =>
    simp only [readKind?, Option.map_eq_some_iff] at h
    obtain ⟨_, -, rfl⟩ := h
    rfl

theorem accepts_of_convertNumber {t : NumberType} {v n : Value} (h : convertNumber t v = .ok n) :
    (ValueType.number t).accepts n = true := by
  unfold convertNumber at h
  split at h
  · cases h
    exact accepts_of_ofKind? ‹_›
  · cases h

theorem accepts_of_readNumber {t : NumberType} {s : String} {n : Value}
    (h : readNumber t s = .ok n) : (ValueType.number t).accepts n = true := by
  unfold readNumber at h
  split at h
  · cases h
    exact accepts_of_readKind? ‹_›
  · cases h

/-- A value as a number is a number of the type, or null where the type has it and null does not
count as zero. -/
theorem accepts_or_null_of_numberOf {zeroMode : Bool} {t : NumberType} {v n : Value}
    (h : numberOf zeroMode t v = .ok n) :
    (ValueType.number t).accepts n = true ∨
      n = .null ∧ t.primitive = false ∧ zeroMode = false := by
  unfold numberOf at h
  split at h
  · split at h
    · exact .inl (accepts_of_convertNumber h)
    · rename_i nullable
      cases h
      simp only [Bool.or_eq_true, not_or, Bool.not_eq_true] at nullable
      exact .inr ⟨rfl, nullable⟩
  · split at h
    · exact .inl (accepts_of_convertNumber h)
    · exact .inl (accepts_of_readNumber h)
  · exact .inl (accepts_of_convertNumber h)
  · split at h
    · exact .inl (accepts_of_convertNumber h)
    · cases h

/-! ### What comes of a conversion -/

theorem isNumber_of_accepts {t : NumberType} {v : Value}
    (accepted : (ValueType.number t).accepts v = true) : v.isNumber = true := by
  cases v <;> first | rfl | cases accepted

theorem isNumber_of_convertNumber {t : NumberType} {v n : Value} (h : convertNumber t v = .ok n) :
    n.isNumber = true :=
  isNumber_of_accepts (accepts_of_convertNumber h)

theorem isNumber_or_null_of_numberOf {zeroMode : Bool} {t : NumberType} {v n : Value}
    (h : numberOf zeroMode t v = .ok n) : n.isNumber = true ∨ n = .null := by
  rcases accepts_or_null_of_numberOf h with accepted | ⟨null, -⟩
  · exact .inl (isNumber_of_accepts accepted)
  · exact .inr null

end ExprLang.Coercion
