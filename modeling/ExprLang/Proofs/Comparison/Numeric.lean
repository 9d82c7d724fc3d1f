import ExprLang.Proofs.Coercion.Exact

/-!
# The order of numbers

Two numbers are brought to one kind before they are compared. Decimals have room for every finite
number, and integers of any size for every integer, so that the order is the one of the exact values
(`compareOn_eq`) unless two numbers are compared as doubles. **Key theorem**: `exact_order_of_numbers`.
-/

namespace ExprLang

namespace Value

/-- Neither infinite nor a NaN. -/
def isFinite : Value → Bool
  | float x => x.decode.value?.isSome
  | double x => x.decode.value?.isSome
  | _ => true

theorem rational?_of_finite {v : Value} (number : v.isNumber = true) (finite : v.isFinite = true) :
    ∃ x, v.rational? = some x := by
  rw [← Option.isSome_iff_exists]
  cases v <;> first | exact finite | rfl | cases number

/-- Numbers that are the same have one value. -/
theorem rational?_of_same {m : ObjectModel} {a b : Value} (number : a.isNumber = true)
    (alike : same m a b = true) : a.rational? = b.rational? := by
  cases a <;> cases number <;> cases b <;>
    simp_all [same, sameLeaf, rational?, Number.Decimal.sameValue_eq]

end Value

namespace Comparison

open Value (rational? isNumber_of_rational?)

namespace Basis

/-- Whether a kind has room for the value. No number is compared exactly as a double. -/
def hasRoom : Basis → Value → Bool
  | decimal, _ => true
  | double, _ => false
  | bigInteger, v => !isFloating v && !isDecimal v
  | long, v => !isFloating v && !isDecimal v && !isBigInteger v

/-- What is read off a number is the exact value. -/
def Holds : (basis : Basis) → basis.Point → ℚ → Prop
  | decimal, d, x => Number.Decimal.value d = x
  | double, _, _ => False
  | bigInteger, n, x => Int.cast n = x
  | long, n, x => Int64.toInt n = x

theorem order_of_holds {basis : Basis} {p q : basis.Point} {x y : ℚ} (left : basis.Holds p x)
    (right : basis.Holds q y) : basis.order p q = compare x y := by
  cases basis with
  | decimal =>
    obtain rfl := left
    obtain rfl := right
    exact Number.Decimal.compareValue_eq p q
  | double => exact False.elim left
  | bigInteger | long =>
    obtain rfl := left
    obtain rfl := right
    exact (Number.compare_map Int.cast_strictMono ..).symm

/-- A number for which a kind has room is converted without loss. -/
theorem exists_point {basis : Basis} {v : Value} {x : ℚ} (known : rational? v = some x)
    (room : basis.hasRoom v = true) :
    ∃ n p, Coercion.ofKind? basis.kind v = some n ∧ basis.point? n = some p ∧ basis.Holds p x := by
  cases basis with
  | decimal =>
    obtain ⟨d, decimal, value⟩ :=
      Option.map_eq_some_iff.mp ((Coercion.map_bigDecimal? v).trans known)
    exact ⟨.bigDecimal d, d, congrArg (Option.map _) decimal, rfl, value⟩
  | double => cases room
  | bigInteger =>
    simp only [hasRoom, Bool.and_eq_true, Bool.not_eq_true'] at room
    obtain ⟨n, integer, value⟩ :=
      Option.map_eq_some_iff.mp ((Coercion.map_bigInteger? room.1 room.2).trans known)
    exact ⟨.bigInteger n, n, congrArg (Option.map _) integer, rfl, value⟩
  | long =>
    simp only [hasRoom, Bool.and_eq_true, Bool.not_eq_true'] at room
    obtain ⟨n, long, value⟩ :=
      Option.map_eq_some_iff.mp ((Coercion.map_long? room.1.1 room.1.2 room.2).trans known)
    exact ⟨.long n, n, congrArg (Option.map _) long, rfl, value⟩

end Basis

/-! ### Comparing in one kind -/

section Free

variable {σ : Type} (host : Host σ) {ctx : Context} (s : Ambient σ) {a b : Value} {x y : ℚ}
variable (free : ctx.environment.resolver = none)
include free

/-- The exact value is read off a number for which a kind has room. -/
theorem read_of_hasRoom {basis : Basis} (known : rational? a = some x)
    (room : basis.hasRoom a = true) :
    ∃ p, basis.read host ctx a s = (.ok p, s) ∧ basis.Holds p x := by
  obtain ⟨n, p, converted, point, holds⟩ := Basis.exists_point known room
  have run : Coercion.toNumber host ctx ⟨basis.kind, false⟩ a s = (.ok n, s) := by
    rw [toNumber_of_free free, Coercion.numberOf_of_isNumber (isNumber_of_rational? known),
      Coercion.convertNumber, converted]
  refine ⟨p, ?_, holds⟩
  simp only [Basis.read, bind_apply, run, point]
  rfl

/-- In a kind that has room for both numbers they are in the order of their exact values. -/
theorem compareOn_eq {basis : Basis} (knownA : rational? a = some x) (knownB : rational? b = some y)
    (roomA : basis.hasRoom a = true) (roomB : basis.hasRoom b = true) :
    compareOn host ctx basis a b s = (.ok (compare x y), s) := by
  obtain ⟨p, runA, holdsA⟩ := read_of_hasRoom host s free knownA roomA
  obtain ⟨q, runB, holdsB⟩ := read_of_hasRoom host s free knownB roomB
  rw [compareOn_eq_read, ← Basis.order_of_holds holdsA holdsB]
  simp only [bind_apply, runA, runB]
  rfl

/-! ### Equality and order -/

/-- Numbers that are compared in a kind with room for both. -/
theorem compare_of_basis? {basis : Basis} (knownA : rational? a = some x)
    (knownB : rational? b = some y) (chosen : basis? a b = some basis)
    (roomA : basis.hasRoom a = true) (roomB : basis.hasRoom b = true) :
    compareValues host ctx a b s = (.ok (compare x y), s) ∧
      equals host ctx a b s = (decide (x = y), s) := by
  have numberA := isNumber_of_rational? knownA
  have some (v : Value) (number : v.isNumber = true) : v.isNull = false := by
    cases v <;> first | rfl | cases number
  have notNull : (a.isNull || b.isNull) = false := by
    rw [some a numberA, some b (isNumber_of_rational? knownB)]
    rfl
  have order : compareOn host ctx basis a b s = (.ok (compare x y), s) :=
    compareOn_eq host s free knownA knownB roomA roomB
  have equal : equals host ctx a b s = (decide (x = y), s) := by
    by_cases alike : Value.same host.objects a b = true
    · have value : x = y := by
        have := Value.rational?_of_same numberA alike
        rwa [knownA, knownB, Option.some_inj] at this
      rw [equals_of_same alike, decide_eq_true value]
    · have tried : tryEquals host ctx a b s = (.ok (compare x y == .eq), s) := by
        unfold tryEquals equalsAcross
        rw [if_neg alike, notNull, if_neg Bool.false_ne_true, chosen]
        simp only [bind_apply, order]
        rfl
      have sameOrder : (compare x y == .eq) = decide (x = y) := by
        rw [Bool.eq_iff_iff, beq_iff_eq, compare_eq_iff_eq, decide_eq_true_iff]
      rw [equals, tried, sameOrder]
  refine ⟨?_, equal⟩
  rw [compareValues_apply, equal]
  by_cases value : x = y
  · rw [decide_eq_true value, compare_eq_iff_eq.mpr value]
  · rw [decide_eq_false value, notNull]
    simp only [Bool.false_eq_true, if_false, compareAcross, chosen, order]

end Free

/-- Two finite numbers that are not compared as doubles: none of them is floating, or one of them is
a decimal. -/
structure ComparedExactly (a b : Value) : Prop where
  left : a.isNumber = true
  right : b.isNumber = true
  kinds : (isFloating a = false ∧ isFloating b = false) ∨
    ((isDecimal a = true ∨ isDecimal b = true) ∧ a.isFinite = true ∧ b.isFinite = true)

theorem isFinite_of_not_isFloating {v : Value} (fixed : isFloating v = false) :
    v.isFinite = true := by
  cases v <;> first | rfl | cases fixed

theorem isIntegral_of_isNumber {v : Value} (number : v.isNumber = true)
    (fixed : isFloating v = false) (whole : isDecimal v = false) (small : isBigInteger v = false) :
    isIntegral v = true := by
  cases v <;> simp_all [Value.isNumber, isFloating, isDecimal, isBigInteger, isIntegral]

namespace ComparedExactly

variable {a b : Value}

theorem finite (exactly : ComparedExactly a b) : a.isFinite = true ∧ b.isFinite = true :=
  exactly.kinds.elim (fun fixed => fixed.imp isFinite_of_not_isFloating isFinite_of_not_isFloating)
    And.right

/-- The numbers are compared in a kind that has room for both. -/
theorem hasRoom (exactly : ComparedExactly a b) :
    ∃ basis, basis? a b = some basis ∧ basis.hasRoom a = true ∧ basis.hasRoom b = true := by
  have noText {v : Value} (number : v.isNumber = true) : v.isText = false := by
    cases v <;> first | rfl | cases number
  unfold basis?
  rw [noText exactly.left, noText exactly.right]
  by_cases decimal : isDecimal a = true ∨ isDecimal b = true
  · exact ⟨.decimal, by simp [decimal], rfl, rfl⟩
  · obtain ⟨fixedA, fixedB⟩ := exactly.kinds.resolve_right fun kinds => decimal kinds.1
    rw [not_or, Bool.not_eq_true, Bool.not_eq_true] at decimal
    obtain ⟨wholeA, wholeB⟩ := decimal
    by_cases big : isBigInteger a = true ∨ isBigInteger b = true
    · refine ⟨.bigInteger, by simp [fixedA, fixedB, wholeA, wholeB, big], ?_, ?_⟩
      · simp [Basis.hasRoom, fixedA, wholeA]
      · simp [Basis.hasRoom, fixedB, wholeB]
    · rw [not_or, Bool.not_eq_true, Bool.not_eq_true] at big
      obtain ⟨smallA, smallB⟩ := big
      have integral := isIntegral_of_isNumber exactly.left fixedA wholeA smallA
      refine ⟨.long, by simp [fixedA, fixedB, wholeA, wholeB, smallA, smallB, integral], ?_, ?_⟩
      · simp [Basis.hasRoom, fixedA, wholeA, smallA]
      · simp [Basis.hasRoom, fixedB, wholeB, smallB]

end ComparedExactly

/-! ### The exact order -/

variable {σ : Type}

/-- The numbers that are neither singles nor doubles. -/
def isFixed (v : Value) : Bool :=
  v.isNumber && !isFloating v

/-- The first value is put at or before the second one, without any effect. -/
def AtMost (host : Host σ) (ctx : Context) (s : Ambient σ) (a b : Value) : Prop :=
  ∃ order, compareValues host ctx a b s = (.ok order, s) ∧ order ≠ .gt

theorem exact_order (host : Host σ) {ctx : Context} (s : Ambient σ) {a b : Value}
    (free : ctx.environment.resolver = none) (exactly : ComparedExactly a b) :
    ∃ x y, rational? a = some x ∧ rational? b = some y ∧
      compareValues host ctx a b s = (.ok (compare x y), s) ∧
      equals host ctx a b s = (decide (x = y), s) := by
  obtain ⟨x, knownA⟩ := Value.rational?_of_finite exactly.left exactly.finite.1
  obtain ⟨y, knownB⟩ := Value.rational?_of_finite exactly.right exactly.finite.2
  obtain ⟨basis, chosen, roomA, roomB⟩ := exactly.hasRoom
  exact ⟨x, y, knownA, knownB, compare_of_basis? host s free knownA knownB chosen roomA roomB⟩

theorem comparedExactly_of_isFixed {a b : Value} (fixedA : isFixed a = true)
    (fixedB : isFixed b = true) : ComparedExactly a b := by
  simp only [isFixed, Bool.and_eq_true, Bool.not_eq_true'] at fixedA fixedB
  exact ⟨fixedA.1, fixedB.1, .inl ⟨fixedA.2, fixedB.2⟩⟩

/-- Of numbers that are not floating, those with the smaller value are put first. -/
theorem atMost_iff {host : Host σ} {ctx : Context} {s : Ambient σ} {a b : Value}
    (free : ctx.environment.resolver = none) (fixedA : isFixed a = true)
    (fixedB : isFixed b = true) :
    AtMost host ctx s a b ↔ (rational? a).getD 0 ≤ (rational? b).getD 0 := by
  obtain ⟨x, y, knownA, knownB, order, -⟩ :=
    exact_order host s free (comparedExactly_of_isFixed fixedA fixedB)
  rw [knownA, knownB, Option.getD_some, Option.getD_some, ← compare_le_iff_le]
  constructor
  · rintro ⟨found, run, le⟩
    rw [order] at run
    cases run
    exact le
  · intro le
    exact ⟨_, order, le⟩

/-- Without a resolver numbers are put in the order of their exact values, unless they are compared
as doubles, and are equal exactly if their values are. In particular the order of the numbers that
are not floating is total, reflexive and transitive. -/
theorem exact_order_of_numbers (host : Host σ) (ctx : Context) (s : Ambient σ)
    (free : ctx.environment.resolver = none) :
    (∀ a b, ComparedExactly a b → ∃ x y, rational? a = some x ∧ rational? b = some y ∧
      compareValues host ctx a b s = (.ok (compare x y), s) ∧
      equals host ctx a b s = (decide (x = y), s)) ∧
    (∀ a, isFixed a = true → AtMost host ctx s a a) ∧
    (∀ a b, isFixed a = true → isFixed b = true →
      AtMost host ctx s a b ∨ AtMost host ctx s b a) ∧
    ∀ a b c, isFixed a = true → isFixed b = true → isFixed c = true →
      AtMost host ctx s a b → AtMost host ctx s b c → AtMost host ctx s a c := by
  refine ⟨fun a b => exact_order host s free, fun a fixed => ?_, fun a b fixedA fixedB => ?_,
    fun a b c fixedA fixedB fixedC first second => ?_⟩
  · exact (atMost_iff free fixed fixed).mpr le_rfl
  · rw [atMost_iff free fixedA fixedB, atMost_iff free fixedB fixedA]
    exact le_total _ _
  · rw [atMost_iff free fixedA fixedB] at first
    rw [atMost_iff free fixedB fixedC] at second
    exact (atMost_iff free fixedA fixedC).mpr (first.trans second)

/-- The double that is written as a tenth is more than a tenth. -/
theorem exact_order_of_numbers_tenth :
    let host := Host.plain false
    let ctx := Context.ofEnvironment .empty
    let a := Value.double ⟨0x3FB999999999999A⟩
    let b := Value.bigDecimal ⟨1, 1⟩
    ctx.environment.resolver = none ∧ ComparedExactly a b ∧
      compareValues host ctx a b ⟨true, 0, ()⟩ = (.ok .gt, ⟨true, 0, ()⟩) := by
  intro host ctx a b
  have exactly : ComparedExactly a b := ⟨rfl, rfl, .inr ⟨.inr rfl, by decide, rfl⟩⟩
  have decoded : Number.Double.decode ⟨0x3FB999999999999A⟩ =
      .finite false 7205759403792794 (-56) := by
    decide
  have valueA : rational? a = some (7205759403792794 * 2 ^ (-56 : Int)) := by
    simp [a, rational?, decoded, Number.Binary.value?, Number.signed]
  have valueB : rational? b = some (1 * 10 ^ (-1 : Int)) := by
    simp [b, rational?, Number.Decimal.value]
  obtain ⟨x, y, foundA, foundB, order, -⟩ :=
    (exact_order_of_numbers host ctx ⟨true, 0, ()⟩ rfl).1 a b exactly
  have more : y < x := by
    cases valueA.symm.trans foundA
    cases valueB.symm.trans foundB
    norm_num
  rw [compare_gt_iff_gt.mpr more] at order
  exact ⟨rfl, exactly, order⟩

end Comparison

end ExprLang
