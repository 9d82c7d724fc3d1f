import ExprLang.Proofs.Coercion.Exact
import ExprLang.Proofs.Number.Operations
import ExprLang.Proofs.Number.Words

/-!
# Integers of fixed width

An integer or a decimal that is converted to an integer of fixed width loses its places after the point and
all bits but the lowest ones (`ofKind?_eq_word?`), although the conversion goes by way of 64 and of 32 bits.
What is left is the same if the number is converted to a kind with more room before. **Key theorem**:
`narrowing_keeps_residue`.
-/

namespace ExprLang

open Number (Wraps integralPart integralPart_intCast wrap wraps_wrap wrap_congr)

namespace NumberKind

/-- The number of bits of the integers of fixed width. -/
def width? : NumberKind → Option Nat
  | byte => some 8
  | short => some 16
  | integer => some 32
  | long => some 64
  | _ => none

/-- Whether a kind has room for the integers of a width: that of integers of this width or a larger one,
that of integers of any size, and that of decimals. -/
def hasRoom (width : Nat) (kind : NumberKind) : Bool :=
  kind == bigInteger || kind == bigDecimal || kind.width?.any (width ≤ ·)

/-- The lowest bits of an integer as a number of a kind of fixed width. -/
def word? : NumberKind → Int → Option Value
  | byte, n => some (.byte (.ofInt n))
  | short, n => some (.short (.ofInt n))
  | integer, n => some (.integer (.ofInt n))
  | long, n => some (.long (.ofInt n))
  | _, _ => none

variable {kind : NumberKind} {width : Nat} {n m : Int}

theorem width_pos (fixed : kind.width? = some width) : 0 < width := by
  cases kind <;> cases fixed <;> decide

theorem word?_spec (fixed : kind.width? = some width) (n : Int) :
    ∃ v, kind.word? n = some v ∧ of? v = some kind ∧ Comparison.isFloating v = false ∧
      v.rational? = some (wrap width n : Int) := by
  cases kind <;> cases fixed
  · exact ⟨_, rfl, rfl, rfl, congrArg (fun m : Int => some (m : ℚ)) Int8.toInt_ofInt⟩
  · exact ⟨_, rfl, rfl, rfl, congrArg (fun m : Int => some (m : ℚ)) Int16.toInt_ofInt⟩
  · exact ⟨_, rfl, rfl, rfl, congrArg (fun m : Int => some (m : ℚ)) Int32.toInt_ofInt⟩
  · exact ⟨_, rfl, rfl, rfl, congrArg (fun m : Int => some (m : ℚ)) Int64.toInt_ofInt⟩

theorem word?_wrap (fixed : kind.width? = some width) (n : Int) :
    kind.word? (wrap width n) = kind.word? n := by
  cases kind <;> cases fixed
  · show some (Value.byte (.ofInt (n.bmod Int8.size))) = some (.byte (.ofInt n))
    rw [← Int8.toInt_ofInt, Int8.ofInt_toInt]
  · show some (Value.short (.ofInt (n.bmod Int16.size))) = some (.short (.ofInt n))
    rw [← Int16.toInt_ofInt, Int16.ofInt_toInt]
  · show some (Value.integer (.ofInt (n.bmod Int32.size))) = some (.integer (.ofInt n))
    rw [← Int32.toInt_ofInt, Int32.ofInt_toInt]
  · show some (Value.long (.ofInt (n.bmod Int64.size))) = some (.long (.ofInt n))
    rw [← Int64.toInt_ofInt, Int64.ofInt_toInt]

/-- The lowest bits are told by the residue. -/
theorem word?_congr (fixed : kind.width? = some width) (agree : n ≡ m [ZMOD 2 ^ width]) :
    kind.word? n = kind.word? m := by
  rw [← word?_wrap fixed n, wrap_congr agree, word?_wrap fixed]

end NumberKind

namespace Coercion

open Comparison (isFloating)
open Value (rational? isNumber_of_rational?)

/-! ### From bits to fewer bits -/

section

variable {v : Value} {x : ℚ} (known : rational? v = some x) (fixed : isFloating v = false)
include known fixed

theorem long?_eq : long? v = some (.ofInt (integralPart x)) := by
  cases v with
  | byte _ | short _ | integer _ | long _ | bigInteger _ | bigDecimal _ =>
    cases known
    simp [long?, Number.Decimal.truncate_eq]
  | float _ | double _ => cases fixed
  | _ => cases known

theorem int?_eq : int? v = some (.ofInt (integralPart x)) := by
  have narrowed : int? v = (long? v).map Int64.toInt32 := by
    cases v <;> first | rfl | cases fixed
  rw [narrowed, long?_eq known fixed, Option.map_some, Int64.toInt32_ofInt]

/-- A number that is not floating becomes the lowest bits of its integral part. -/
theorem ofKind?_eq_word? {kind : NumberKind} {width : Nat} (narrow : kind.width? = some width) :
    ofKind? kind v = kind.word? (integralPart x) := by
  cases kind <;> cases narrow <;>
    simp [ofKind?, NumberKind.word?, long?_eq known fixed, int?_eq known fixed]

theorem bigInteger?_eq : bigInteger? v = some (integralPart x) := by
  cases v with
  | byte _ | short _ | integer _ | long _ | bigInteger _ | bigDecimal _ =>
    cases known
    simp [bigInteger?, long?, Number.Decimal.truncate_eq]
  | float _ | double _ => cases fixed
  | _ => cases known

/-- A number keeps its integral part in a kind with room for a width, or at least the lowest bits of it. -/
theorem ofKind?_of_hasRoom {kind : NumberKind} {width : Nat} (room : kind.hasRoom width = true) :
    ∃ y z, ofKind? kind v = some y ∧ rational? y = some z ∧ isFloating y = false ∧
      integralPart z ≡ integralPart x [ZMOD 2 ^ width] := by
  simp only [NumberKind.hasRoom, Bool.or_eq_true, beq_iff_eq, Option.any_eq_true,
    decide_eq_true_iff] at room
  obtain (rfl | rfl) | ⟨wide, fixedWidth, le⟩ := room
  · have converted : ofKind? .bigInteger v = some (.bigInteger (integralPart x)) := by
      rw [ofKind?, bigInteger?_eq known fixed, Option.map_some]
    exact ⟨_, _, converted, rfl, rfl, by rw [integralPart_intCast]⟩
  · obtain ⟨d, decimal, rfl⟩ := Option.map_eq_some_iff.mp ((map_bigDecimal? v).trans known)
    have converted : ofKind? .bigDecimal v = some (.bigDecimal d) := by
      rw [ofKind?, decimal, Option.map_some]
    exact ⟨_, _, converted, rfl, rfl, .rfl⟩
  · obtain ⟨y, word, -, whole, value⟩ := NumberKind.word?_spec fixedWidth (integralPart x)
    refine ⟨y, _, (ofKind?_eq_word? known fixed fixedWidth).trans word, value, whole, ?_⟩
    rw [integralPart_intCast]
    exact (wraps_wrap (NumberKind.width_pos fixedWidth) _).agree le

end

variable {σ : Type} {host : Host σ} {ctx : Context}

/-- Where no resolver has a say, an integer or a decimal is converted to the one integer of a width that
agrees with its integral part modulo a power of two, also if it is converted to a kind with room for the
width before. -/
theorem narrowing_keeps_residue (unresolved : ctx.environment.resolver = none) {x : Value} {q : ℚ}
    (known : rational? x = some q) (fixed : isFloating x = false) {kind : NumberKind} {width : Nat}
    (narrow : kind.width? = some width) (primitive : Bool) :
    ∃ (r : Value) (n : Int), Becomes host ctx ⟨kind, primitive⟩ x (.ok r) ∧
      NumberKind.of? r = some kind ∧ rational? r = some (n : ℚ) ∧
      Wraps width (integralPart q) n ∧ (∀ m, Wraps width (integralPart q) m → m = n) ∧
      ∀ (wide : NumberKind) (primitive' : Bool), wide.hasRoom width = true →
        ∃ y, Becomes host ctx ⟨wide, primitive'⟩ x (.ok y) ∧
          Becomes host ctx ⟨kind, primitive⟩ y (.ok r) := by
  have notFloat {kind : NumberKind} {width : Nat} (room : kind.hasRoom width = true) :
      kind ≠ .float := by
    rintro rfl
    cases room
  have own : kind.hasRoom width = true := by simp [NumberKind.hasRoom, narrow]
  obtain ⟨r, word, kept, -, value⟩ := NumberKind.word?_spec narrow (integralPart q)
  have wraps := wraps_wrap (NumberKind.width_pos narrow) (integralPart q)
  refine ⟨r, _, ?_, kept, value, wraps, fun m other => other.unique (NumberKind.width_pos narrow) wraps,
    fun wide primitive' room => ?_⟩
  · exact becomes_of_ofKind? unresolved (isNumber_of_rational? known) (notFloat own)
      ((ofKind?_eq_word? known fixed narrow).trans word)
  · obtain ⟨y, z, converted, known', fixed', agree⟩ := ofKind?_of_hasRoom known fixed room
    refine ⟨y, becomes_of_ofKind? unresolved (isNumber_of_rational? known) (notFloat room) converted,
      becomes_of_ofKind? unresolved (isNumber_of_rational? known') (notFloat own) ?_⟩
    rw [ofKind?_eq_word? known' fixed' narrow, NumberKind.word?_congr narrow agree, word]

/-- The integer behind a decimal that is less than all bytes is the one that its lowest eight bits are. -/
theorem narrowing_keeps_residue_negative :
    let host : Host Unit := Host.plain false
    let ctx := Context.ofEnvironment .empty
    let x := Value.bigDecimal ⟨-12975, 2⟩
    ctx.environment.resolver = none ∧ rational? x = some (-519 / 4) ∧ isFloating x = false ∧
      NumberKind.byte.width? = some 8 ∧ NumberKind.short.hasRoom 8 = true ∧
      Becomes host ctx ⟨.byte, true⟩ x (.ok (.byte 127)) ∧
      ∃ y, Becomes host ctx ⟨.short, false⟩ x (.ok y) ∧
        Becomes host ctx ⟨.byte, true⟩ y (.ok (.byte 127)) := by
  intro host ctx x
  have known : rational? x = some (-519 / 4) := by
    simp only [x, rational?, Number.Decimal.value]
    norm_num
  have whole : integralPart (-519 / 4) = -129 := by
    norm_num [integralPart]
  obtain ⟨r, n, becomes, own, value, -, unique, wider⟩ :=
    @narrowing_keeps_residue _ host ctx rfl x _ known rfl .byte 8 rfl true
  have residue : (127 : Int) = n := unique 127 ⟨by decide, by decide, by rw [whole]; decide⟩
  obtain rfl : r = .byte 127 := by
    cases r with
    | byte b =>
      have bits : b.toInt = (127 : Int8).toInt := by
        rw [← residue] at value
        exact_mod_cast Option.some_inj.mp value
      rw [Int8.toInt_inj.mp bits]
    | _ => cases own
  exact ⟨rfl, known, rfl, rfl, rfl, becomes, wider .short false rfl⟩

end Coercion

end ExprLang
