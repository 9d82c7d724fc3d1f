import ExprLang.Arithmetic
import ExprLang.Proofs.Coercion.Exact
import ExprLang.Proofs.Number.Integers

/-!
# Operands of arithmetic

What an operand counts as in a rank is a rational number (`Rank.valueOf?`): null and empty text are zero, a
character is its code, a text is what the reader of the rank reads, and a number is its exact value. Outside
of the rank of doubles an operand is brought to its rank without loss (`map_toLong`, `map_toBigInteger`,
`map_toDecimal`).
-/

namespace ExprLang.Arithmetic

open Number (Double Decimal)

namespace Rank

/-- The number that a text writes, by the reader of the rank. -/
def read? : Rank → String → Option ℚ
  | long, s => (Number.readFixed? 64 s.toList).map Int.cast
  | bigInteger, s => (Number.readGrouped? s.toList).map Int.cast
  | double, s => (Double.read? (Text.trimChars s.toList)).bind fun x => x.decode.value?
  | decimal, s => (Decimal.read? s.toList).map Decimal.value

/-- The number that an operand counts as. The code of a character is taken as a signed number of 16
bits. -/
def valueOf? (rank : Rank) : Value → Option ℚ
  | .null => some 0
  | .string s => if s.isEmpty then some 0 else rank.read? s
  | .char c => some (Number.wrap 16 c.toNat : Int)
  | v => v.rational?

end Rank

/-! ### Operands in their rank -/

theorem toInt_charCode (c : Char) : (Coercion.charCode c).toInt = Number.wrap 16 c.toNat :=
  Int16.toInt_ofNat'

theorem toOption_ofOperand {α : Type} (convert : Value → Option α) (v : Value) :
    (ofOperand convert v).toOption = (operand? v).bind convert := by
  unfold ofOperand
  cases (operand? v).bind convert <;> rfl

/-- An operand with a value is brought to its rank. -/
theorem ok_of_map {α : Type} {value : α → ℚ} {brought : Except EvalError α} {x : ℚ}
    (known : brought.toOption.map value = some x) : ∃ n, brought = .ok n ∧ value n = x := by
  cases brought with
  | error e => cases known
  | ok n => exact ⟨n, rfl, Option.some_inj.mp known⟩

/-- An operand is brought to a rank without loss if the rank has room for integers of 64 bits, its texts are
read without loss, and the operand, if it is a number, is converted without loss. -/
theorem map_toRank {α : Type} {rank : Rank} {target : String} {read : String → Option α}
    {convert : Value → Option α} {value : α → ℚ} {v : Value}
    (reads : ∀ s, (read s).map value = rank.read? s)
    (room : ∀ n : Int64, (convert (.long n)).map value = some (n.toInt : ℚ))
    (exact : v.isNumber = true → (convert v).map value = v.rational?) :
    (toRank target read convert v).toOption.map value = rank.valueOf? v := by
  cases v with
  | null =>
    show (ofOperand convert .null).toOption.map value = some 0
    rw [toOption_ofOperand]
    exact (room 0).trans (by simp)
  | char c =>
    show (ofOperand convert (.char c)).toOption.map value = some (Number.wrap 16 c.toNat : ℚ)
    rw [toOption_ofOperand, ← toInt_charCode, ← Int16.toInt_toInt64]
    exact room _
  | string s =>
    simp only [toRank, Rank.valueOf?]
    split
    · rename_i empty
      rw [toOption_ofOperand, operand?, if_pos empty]
      exact (room 0).trans (by simp)
    · rw [← reads]
      cases read s <;> rfl
  | byte | short | integer | long | float | double | bigInteger | bigDecimal =>
    show (ofOperand convert _).toOption.map value = _
    rw [toOption_ofOperand]
    exact exact rfl
  | _ => rfl

/-- A decimal has room for all operands. -/
theorem map_toDecimal (v : Value) :
    (toDecimal v).toOption.map Decimal.value = Rank.decimal.valueOf? v :=
  map_toRank (fun _ => rfl) (fun n => Coercion.map_bigDecimal? (.long n))
    fun _ => Coercion.map_bigDecimal? v

/-- An integer of any size has room for the operands that are neither decimals nor floating. -/
theorem map_toBigInteger {v : Value} (whole : isDecimal v = false) (fixed : isFloating v = false) :
    (toBigInteger v).toOption.map (Int.cast : Int → ℚ) = Rank.bigInteger.valueOf? v := by
  refine map_toRank (fun _ => rfl) (fun n => Coercion.map_bigInteger? rfl rfl) fun number => ?_
  refine Coercion.map_bigInteger? ?_ whole
  cases v <;> first | exact fixed | cases number

/-- An integer of 64 bits has room for the operands of fixed width. -/
theorem map_toLong {v : Value} (whole : isDecimal v = false) (fixed : isFloating v = false)
    (small : isBigInteger v = false) :
    (toLong v).toOption.map (fun n => (n.toInt : ℚ)) = Rank.long.valueOf? v := by
  refine map_toRank (fun s => ?_) (fun n => Coercion.map_long? rfl rfl rfl) fun number => ?_
  · show ((Number.readFixed? 64 s.toList).map Int64.ofInt).map _ =
      (Number.readFixed? 64 s.toList).map Int.cast
    rw [Option.map_map]
    refine Option.map_congr fun n read => congrArg Int.cast ?_
    obtain ⟨low, high⟩ := Number.range_of_readFixed? read
    exact Int64.toInt_ofInt_of_le low high
  · refine Coercion.map_long? ?_ whole small
    cases v <;> first | exact fixed | cases number

/-- An arithmetic operator combines its operands in their rank, unless both are null. -/
theorem apply_eq_combine {op : BinaryOp} {operator : Operator} {a b : Value}
    (arithmetic : Operator.of? op = some operator) (given : (a.isNull && b.isNull) = false) :
    apply op a b = combine operator (rankOf operator a b) a b := by
  unfold apply
  rw [given, arithmetic]
  rfl

end ExprLang.Arithmetic
