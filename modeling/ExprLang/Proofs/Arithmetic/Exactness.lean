import ExprLang.Proofs.Arithmetic.Operands
import ExprLang.Proofs.Number.Operations
import ExprLang.Proofs.Number.Words
import ExprLang.Value.Equality

/-!
# Arithmetic that does not round

Outside of the rank of doubles, a sum, a difference or a product is the exact result of the exact operands,
except that integers of 64 bits keep the lowest bits only (`computes_apply`). **Key theorem**:
`exact_arithmetic`.
-/

namespace ExprLang.Arithmetic

open Number (Decimal Wraps)

/-- The operators that are computed without rounding, and what they compute. -/
inductive RingOperator : BinaryOp → (ℚ → ℚ → ℚ) → Prop
  | add : RingOperator .add (· + ·)
  | subtract : RingOperator .subtract (· - ·)
  | multiply : RingOperator .multiply (· * ·)

/-- The rank of a sum, a difference or a product, unless it is computed in doubles: decimals if there is one,
or if an integer of any size meets a floating-point number; then integers of any size if there is one, and
else integers of 64 bits. -/
def exactRank? (a b : Value) : Option Rank :=
  if isDecimal a || isDecimal b then some .decimal
  else if isBigInteger a && isFloating b || isFloating a && isBigInteger b then some .decimal
  else if isFloating a || isFloating b then none
  else if isBigInteger a || isBigInteger b then some .bigInteger
  else some .long

namespace Rank

/-- The value is what the rank holds of a result: decimals and integers of any size hold the result itself,
integers of 64 bits the one that agrees with it modulo `2 ^ 64`. -/
def Holds (x : ℚ) : Rank → Value → Prop
  | decimal, .bigDecimal d => d.value = x
  | bigInteger, .bigInteger n => (n : ℚ) = x
  | long, .long n => ∃ z : Int, (z : ℚ) = x ∧ n.toInt ≡ z [ZMOD 2 ^ 64]
  | _, _ => False

/-- The outcome of an operation on two operands is what the rank holds of the exact result if both operands
have a value, and an error if not. -/
def Computes (rank : Rank) (f : ℚ → ℚ → ℚ) (x y : Option ℚ) (outcome : Except EvalError Value) : Prop :=
  match x, y with
  | some x, some y => ∃ r, outcome = .ok r ∧ rank.Holds (f x y) r
  | _, _ => ∃ e, outcome = .error e

/-- The operand is brought to the rank without loss. -/
def Suits : Rank → Value → Prop
  | decimal, _ => True
  | double, _ => False
  | bigInteger, v => isDecimal v = false ∧ isFloating v = false
  | long, v => isDecimal v = false ∧ isFloating v = false ∧ isBigInteger v = false

end Rank

variable {op : BinaryOp} {f : ℚ → ℚ → ℚ} {a b : Value} {rank : Rank}

/-! ### Ranks -/

theorem not_isBigInteger_of_isFloating {v : Value} (floating : isFloating v = true) :
    isBigInteger v = false := by
  cases v <;> first | rfl | cases floating

theorem exactRank?_comm (a b : Value) : exactRank? a b = exactRank? b a := by
  unfold exactRank?
  rw [Bool.or_comm (isDecimal a), Bool.or_comm (isFloating a), Bool.or_comm (isBigInteger a) (isBigInteger b),
    Bool.or_comm (isBigInteger a && isFloating b), Bool.and_comm (isFloating a), Bool.and_comm (isBigInteger a)]

theorem suits_of_exactRank? (chosen : exactRank? a b = some rank) : rank.Suits a ∧ rank.Suits b := by
  unfold exactRank? at chosen
  split at chosen
  · cases chosen
    exact ⟨trivial, trivial⟩
  split at chosen
  · cases chosen
    exact ⟨trivial, trivial⟩
  split at chosen
  · cases chosen
  split at chosen <;> cases chosen <;> simp_all [Rank.Suits]

/-- The operators that are computed without rounding are computed in this rank. -/
theorem rankOf_of_exactRank? (ring : RingOperator op f) {operator : Operator}
    (arithmetic : Operator.of? op = some operator) (chosen : exactRank? a b = some rank) :
    rankOf operator a b = rank := by
  have left := not_isBigInteger_of_isFloating (v := a)
  have right := not_isBigInteger_of_isFloating (v := b)
  unfold exactRank? at chosen
  cases ring <;> cases arithmetic <;> grind [rankOf]

/-! ### Operations in a rank -/

section

variable (ring : RingOperator op f) {operator : Operator} (arithmetic : Operator.of? op = some operator)
include ring arithmetic

theorem combineLong_exact (m n : Int64) :
    ∃ k, combineLong operator m n = .ok k ∧ Rank.long.Holds (f m.toInt n.toInt) (.long k) := by
  have agree {k : Int64} {z : Int} (bits : k.toInt = z.bmod (2 ^ 64)) : k.toInt ≡ z [ZMOD 2 ^ 64] := by
    rw [bits]
    exact Int.bmod_emod (x := z) (m := 2 ^ 64)
  cases ring <;> cases arithmetic
  · exact ⟨m + n, rfl, m.toInt + n.toInt, Int.cast_add _ _, agree (Int64.toInt_add m n)⟩
  · exact ⟨m - n, rfl, m.toInt - n.toInt, Int.cast_sub _ _, agree (Int64.toInt_sub m n)⟩
  · exact ⟨m * n, rfl, m.toInt * n.toInt, Int.cast_mul _ _, agree (Int64.toInt_mul m n)⟩

theorem combineBigInteger_exact (m n : Int) :
    ∃ k, combineBigInteger operator m n = .ok k ∧ Rank.bigInteger.Holds (f m n) (.bigInteger k) := by
  cases ring <;> cases arithmetic
  · exact ⟨m + n, rfl, Int.cast_add m n⟩
  · exact ⟨m - n, rfl, Int.cast_sub m n⟩
  · exact ⟨m * n, rfl, Int.cast_mul m n⟩

theorem combineDecimal_exact (d e : Decimal) :
    ∃ k, combineDecimal operator d e = .ok k ∧
      Rank.decimal.Holds (f d.value e.value) (.bigDecimal k) := by
  cases ring <;> cases arithmetic
  · exact ⟨d.add e, rfl, d.value_add e⟩
  · exact ⟨d.sub e, rfl, d.value_sub e⟩
  · exact ⟨d.mul e, rfl, d.value_mul e⟩

end

/-- Operands that are brought to a rank without loss, and combined without loss. -/
theorem computes_bind {α : Type} {value : α → ℚ} {bring : Value → Except EvalError α}
    {join : α → α → Except EvalError α} {make : α → Value}
    (left : (bring a).toOption.map value = rank.valueOf? a)
    (right : (bring b).toOption.map value = rank.valueOf? b)
    (step : ∀ m n, ∃ k, join m n = .ok k ∧ rank.Holds (f (value m) (value n)) (make k)) :
    rank.Computes f (rank.valueOf? a) (rank.valueOf? b)
      (do return make (← join (← bring a) (← bring b))) := by
  rw [← left, ← right]
  cases bring a with
  | error e => exact ⟨e, rfl⟩
  | ok m =>
    cases bring b with
    | error e => exact ⟨e, rfl⟩
    | ok n =>
      obtain ⟨k, joined, holds⟩ := step m n
      refine ⟨make k, ?_, holds⟩
      show (do return make (← join m n)) = _
      rw [joined]
      rfl

/-- Two operands that are brought to their rank without loss are combined without loss. -/
theorem computes_combine (ring : RingOperator op f) {operator : Operator}
    (arithmetic : Operator.of? op = some operator) (suitsA : rank.Suits a) (suitsB : rank.Suits b) :
    rank.Computes f (rank.valueOf? a) (rank.valueOf? b) (combine operator rank a b) := by
  cases rank with
  | decimal =>
    exact computes_bind (map_toDecimal a) (map_toDecimal b) (combineDecimal_exact ring arithmetic)
  | bigInteger =>
    exact computes_bind (map_toBigInteger suitsA.1 suitsA.2) (map_toBigInteger suitsB.1 suitsB.2)
      (combineBigInteger_exact ring arithmetic)
  | long =>
    exact computes_bind (map_toLong suitsA.1 suitsA.2.1 suitsA.2.2)
      (map_toLong suitsB.1 suitsB.2.1 suitsB.2.2) (combineLong_exact ring arithmetic)
  | double => cases suitsA

/-- Outside of the rank of doubles the outcome is what the rank holds of the exact result. -/
theorem computes_apply (ring : RingOperator op f) (chosen : exactRank? a b = some rank) :
    rank.Computes f (rank.valueOf? a) (rank.valueOf? b) (apply op a b) := by
  obtain ⟨operator, arithmetic⟩ : ∃ operator, Operator.of? op = some operator := by
    cases ring <;> exact ⟨_, rfl⟩
  by_cases nulls : (a.isNull && b.isNull) = true
  · -- two nulls are not combined at all
    obtain ⟨rfl, rfl⟩ : a = .null ∧ b = .null := by
      cases a <;> cases b <;> first | exact ⟨rfl, rfl⟩ | cases nulls
    cases chosen
    refine ⟨.long 0, rfl, 0, ?_, .rfl⟩
    cases ring <;> simp
  · rw [apply_eq_combine arithmetic (Bool.eq_false_iff.mpr nulls),
      rankOf_of_exactRank? ring arithmetic chosen]
    obtain ⟨suitsA, suitsB⟩ := suits_of_exactRank? chosen
    exact computes_combine ring arithmetic suitsA suitsB

/-! ### Results -/

/-- What a rank holds of a result is told by the result. -/
theorem Rank.Holds.same {m : ObjectModel} {x : ℚ} {v w : Value} (h : rank.Holds x v)
    (h' : rank.Holds x w) : Value.same m v w = true := by
  cases rank with
  | long =>
    cases v with
    | long n =>
      cases w with
      | long k =>
        obtain ⟨z, rfl, agree⟩ := h
        obtain ⟨z', value, agree'⟩ := h'
        rw [Int.cast_inj.mp value] at agree'
        have wrapsN : Wraps 64 z n.toInt := ⟨n.le_toInt, n.toInt_lt, agree⟩
        have wrapsK : Wraps 64 z k.toInt := ⟨k.le_toInt, k.toInt_lt, agree'⟩
        obtain rfl : n = k := Int64.toInt_inj.mp (wrapsN.unique (by decide) wrapsK)
        simp [Value.same, Value.sameLeaf]
      | _ => exact False.elim h'
    | _ => exact False.elim h
  | bigInteger =>
    cases v with
    | bigInteger n =>
      cases w with
      | bigInteger k =>
        obtain rfl : n = k := Int.cast_inj.mp (Eq.trans h (Eq.symm h'))
        simp [Value.same, Value.sameLeaf]
      | _ => exact False.elim h'
    | _ => exact False.elim h
  | decimal =>
    cases v with
    | bigDecimal d =>
      cases w with
      | bigDecimal e =>
        have values : d.value = e.value := Eq.trans h (Eq.symm h')
        simp [Value.same, Value.sameLeaf, Decimal.sameValue_eq, values]
      | _ => exact False.elim h'
    | _ => exact False.elim h
  | double => exact False.elim h

/-- Where an operation succeeds, both operands have a value. -/
theorem Rank.Computes.of_ok {x y : Option ℚ} {outcome : Except EvalError Value} {r : Value}
    (h : rank.Computes f x y outcome) (succeeds : outcome = .ok r) :
    ∃ p q, x = some p ∧ y = some q ∧ rank.Holds (f p q) r := by
  subst succeeds
  cases x with
  | none => exact nomatch h
  | some p =>
    cases y with
    | none => exact nomatch h
    | some q =>
      obtain ⟨r', same, holds⟩ := h
      cases same
      exact ⟨p, q, rfl, rfl, holds⟩

/-- A sum, a difference or a product that is not computed in doubles succeeds exactly if both operands have a
value in its rank, and is what the rank holds of the exact result. Operands may be added and multiplied in
either order. -/
theorem exact_arithmetic (ring : RingOperator op f) (chosen : exactRank? a b = some rank) :
    (∀ r, apply op a b = .ok r → ∃ x y, rank.valueOf? a = some x ∧ rank.valueOf? b = some y ∧
      rank.Holds (f x y) r) ∧
    (∀ x y, rank.valueOf? a = some x → rank.valueOf? b = some y → ∃ r, apply op a b = .ok r) ∧
    (op = .add ∨ op = .multiply → ∀ r, apply op a b = .ok r →
      ∃ r', apply op b a = .ok r' ∧ ∀ m, Value.same m r r' = true) := by
  have forward := computes_apply ring chosen
  have backward := computes_apply ring ((exactRank?_comm b a).trans chosen)
  refine ⟨fun r succeeds => forward.of_ok succeeds, fun x y knownA knownB => ?_,
    fun symmetric r succeeds => ?_⟩
  · rw [knownA, knownB] at forward
    obtain ⟨r, succeeds, -⟩ := forward
    exact ⟨r, succeeds⟩
  · obtain ⟨x, y, knownA, knownB, holds⟩ := forward.of_ok succeeds
    rw [knownA, knownB] at backward
    obtain ⟨r', succeeds', holds'⟩ := backward
    have swap : f y x = f x y := by
      cases ring with
      | add => exact add_comm y x
      | subtract => rcases symmetric with other | other <;> cases other
      | multiply => exact mul_comm y x
    rw [swap] at holds'
    exact ⟨r', succeeds', fun m => holds.same holds'⟩

/-- A tenth as a double is more than a tenth, so that ten times a tenth is more than one. -/
theorem exact_arithmetic_tenth :
    let ten := Value.bigInteger 10
    let tenth := Value.double ⟨0x3FB999999999999A⟩
    RingOperator .multiply (· * ·) ∧ exactRank? ten tenth = some .decimal ∧
      ∃ d : Decimal, apply .multiply ten tenth = .ok (.bigDecimal d) ∧ 1 < d.value ∧
        ∃ r, apply .multiply tenth ten = .ok r ∧ ∀ m, Value.same m (.bigDecimal d) r = true := by
  intro ten tenth
  have decoded : Number.Double.decode ⟨0x3FB999999999999A⟩ =
      .finite false 7205759403792794 (-56) := by
    decide
  have valueTen : Rank.decimal.valueOf? ten = some 10 := rfl
  have valueTenth : Rank.decimal.valueOf? tenth = some (7205759403792794 * 2 ^ (-56 : Int)) := by
    simp [tenth, Rank.valueOf?, Value.rational?, decoded, Number.Binary.value?, Number.signed]
  obtain ⟨sound, total, commutes⟩ := exact_arithmetic (a := ten) (b := tenth) .multiply rfl
  obtain ⟨r, succeeds⟩ := total _ _ valueTen valueTenth
  obtain ⟨x, y, knownTen, knownTenth, holds⟩ := sound r succeeds
  cases valueTen.symm.trans knownTen
  cases valueTenth.symm.trans knownTenth
  cases r with
  | bigDecimal d =>
    have value : d.value = 10 * (7205759403792794 * 2 ^ (-56 : Int)) := holds
    refine ⟨.multiply, rfl, d, succeeds, ?_, commutes (.inr rfl) _ succeeds⟩
    rw [value]
    norm_num
  | _ => exact False.elim holds

end ExprLang.Arithmetic
