import ExprLang.Proofs.Resolution.Matching

/-!
# Coercions and comparisons that nobody claims

The mode in which null counts as zero decides what becomes of null, and nothing else. Where two contexts
differ in this mode and in their resolvers, and nobody claims a conversion in either (`offer`), values
other than null become the same in both, and so does null where the type has no null. Comparisons settle
whether a value is null before they convert anything, so that they come to the same for all values.
-/

namespace ExprLang

variable {σ α : Type}

/-- There is neither of the two. -/
def Neither (x y : Option α) : Prop :=
  x = none ∧ y = none

theorem Neither.eq {x y : Option α} (h : Neither x y) : x = y :=
  h.1.trans h.2.symm

namespace Coercion

/-- Null in a type without null is zero in either mode, and no other value has to do with the mode. -/
theorem numberOf_mode_eq (mode mode' : Bool) {t : NumberType} {v : Value}
    (given : t.primitive = true ∨ v.isNull = false) : numberOf mode t v = numberOf mode' t v := by
  cases v with
  | null =>
    have primitive : t.primitive = true := given.resolve_right nofun
    rw [numberOf, numberOf, primitive]
    rfl
  | _ => rfl

theorem booleanOf_mode_eq (mode mode' : Bool) {primitive : Bool} {v : Value}
    (given : primitive = true ∨ v.isNull = false) :
    booleanOf mode primitive v = booleanOf mode' primitive v := by
  cases v with
  | null =>
    obtain rfl : primitive = true := given.resolve_right nofun
    rfl
  | _ => rfl

end Coercion

namespace Matching

variable {host : Host σ} {A : Ambient σ → Ambient σ → Prop} {ctx ctx' : Context}
  (offer : ∀ v t, Matching A Neither (ctx.offerConversion host v t) (ctx'.offerConversion host v t))
include offer

/-- What becomes of a conversion that nobody claims. -/
theorem unclaimed {v : Value} {t : ValueType} {f f' : Option Value → HookM σ α}
    (rules : Matching A Eq (f none) (f' none)) :
    Matching A Eq (ctx.offerConversion host v t >>= f) (ctx'.offerConversion host v t >>= f') := by
  refine (offer v t).bind fun x y neither => ?_
  rw [neither.1, neither.2]
  exact rules

/-! ### Coercions -/

theorem toText (v : Value) :
    Matching A Eq (Coercion.toText host ctx v) (Coercion.toText host ctx' v) :=
  unclaimed offer (.outcome (.of_eq rfl))

theorem toNumber {t : NumberType} {v : Value} (given : t.primitive = true ∨ v.isNull = false) :
    Matching A Eq (Coercion.toNumber host ctx t v) (Coercion.toNumber host ctx' t v) :=
  unclaimed offer (.outcome (.of_eq (Coercion.numberOf_mode_eq _ _ given)))

theorem toBoolean {primitive : Bool} {v : Value} (given : primitive = true ∨ v.isNull = false) :
    Matching A Eq (Coercion.toBoolean host ctx primitive v)
      (Coercion.toBoolean host ctx' primitive v) :=
  unclaimed offer (.outcome (.of_eq (Coercion.booleanOf_mode_eq _ _ given)))

theorem toEnum (t : EnumType) (v : Value) :
    Matching A Eq (Coercion.toEnum host ctx t v) (Coercion.toEnum host ctx' t v) :=
  unclaimed offer (.outcome (.of_eq rfl))

theorem toInstant (v : Value) :
    Matching A Eq (Coercion.toInstant host ctx v) (Coercion.toInstant host ctx' v) := by
  refine unclaimed offer ?_
  dsimp only
  split
  · exact .pure rfl
  · exact Matching.bind_eq (.outcome (.of_eq rfl)) fun _ => .pure rfl

/-! ### Comparisons -/

theorem read (basis : Comparison.Basis) {v : Value} (given : v.isNull = false) :
    Matching A Eq (basis.read host ctx v) (basis.read host ctx' v) := by
  refine (toNumber offer (.inr given)).bind_eq fun w => ?_
  split
  · exact .pure rfl
  · exact .throw _

theorem asInstant (v : Value) :
    Matching A Eq (Comparison.asInstant host ctx v) (Comparison.asInstant host ctx' v) := by
  refine (toInstant offer v).bind_eq fun t => ?_
  split
  · exact .pure rfl
  · exact .throw _

theorem compareInstants (a b : Value) :
    Matching A Eq (Comparison.compareInstants host ctx a b)
      (Comparison.compareInstants host ctx' a b) :=
  (asInstant offer a).bind_eq fun _ => (asInstant offer b).bind_eq fun _ => .pure rfl

theorem compareTexts (a b : Value) :
    Matching A Eq (Comparison.compareTexts host ctx a b) (Comparison.compareTexts host ctx' a b) :=
  (toText offer a).bind_eq fun _ => (toText offer b).bind_eq fun _ => .pure rfl

section

variable {a b : Value} (givenA : a.isNull = false) (givenB : b.isNull = false)
include givenA givenB

theorem compareOn (basis : Comparison.Basis) :
    Matching A Eq (Comparison.compareOn host ctx basis a b)
      (Comparison.compareOn host ctx' basis a b) := by
  rw [Comparison.compareOn_eq_read, Comparison.compareOn_eq_read]
  exact (read offer basis givenA).bind_eq fun _ => (read offer basis givenB).bind_eq fun _ => .pure rfl

theorem equalsAcross :
    Matching A Eq (Comparison.equalsAcross host ctx a b) (Comparison.equalsAcross host ctx' a b) := by
  unfold Comparison.equalsAcross
  split
  · exact (compareOn offer givenA givenB _).bind_eq fun _ => .pure rfl
  split
  · exact (toBoolean offer (.inr givenA)).bind_eq fun _ =>
      (toBoolean offer (.inr givenB)).bind_eq fun _ => .pure rfl
  split
  · exact (toEnum offer _ _).bind_eq fun _ => .pure rfl
  · exact (toEnum offer _ _).bind_eq fun _ => .pure rfl
  split
  · exact (compareInstants offer _ _).bind_eq fun _ => .pure rfl
  split
  · exact (compareTexts offer _ _).bind_eq fun _ => .pure rfl
  · exact .pure rfl

theorem compareAcross :
    Matching A Eq (Comparison.compareAcross host ctx a b)
      (Comparison.compareAcross host ctx' a b) := by
  unfold Comparison.compareAcross
  split
  · exact compareOn offer givenA givenB _
  split
  · exact compareInstants offer a b
  split
  · exact compareTexts offer a b
  split
  · exact .outcome (.of_eq rfl)
  split
  · exact .outcome (.of_eq rfl)
  · exact .throw _

end

/-- Null is equal to null only, which is settled before anything is converted. -/
theorem tryEquals (a b : Value) :
    Matching A Eq (Comparison.tryEquals host ctx a b) (Comparison.tryEquals host ctx' a b) := by
  unfold Comparison.tryEquals
  split
  · exact .pure rfl
  split
  · exact .pure rfl
  · rename_i _ given
    obtain ⟨givenA, givenB⟩ := Bool.or_eq_false_iff.mp (Bool.eq_false_iff.mpr given)
    exact equalsAcross offer givenA givenB

/-- Null has no order, which is settled before anything is converted. -/
theorem compareValues (told : ∀ {s s'} note, A s s' → A (host.note note s) (host.note note s'))
    (a b : Value) :
    Matching A Eq (Comparison.compareValues host ctx a b)
      (Comparison.compareValues host ctx' a b) := by
  refine ((tryEquals offer a b).equals told).bind_eq fun equal => ?_
  split
  · exact .pure rfl
  split
  · exact .throw _
  · rename_i _ given
    obtain ⟨givenA, givenB⟩ := Bool.or_eq_false_iff.mp (Bool.eq_false_iff.mpr given)
    exact compareAcross offer givenA givenB

end Matching

end ExprLang
