import ExprLang.Proofs.Coercion.Rules
import ExprLang.Proofs.Number.Integers

/-!
# Values that are told by their texts

Texts, truth values, characters, integers and the members of enumerations are told by their texts: the
text of such a value, converted to the type of the value, gives the value again
(`Coercion.text_gives_value_back`). A member without a name is not, since empty text is no member.
-/

namespace ExprLang

/-- A text, a truth value, a character, an integer, or a member of an enumeration that has a name. -/
def Value.IsTold : Value → Prop
  | string _ | boolean _ | char _ | byte _ | short _ | integer _ | long _ | bigInteger _ => True
  | enum m => m.name ≠ ""
  | _ => False

namespace Coercion

variable {σ : Type} {host : Host σ} {ctx : Context}

theorem textOf_of_isTold {x : Value} (told : x.IsTold) : textOf x = .ok x.text := by
  cases x with
  | null | object => cases told
  | _ => rfl

/-! ### Reading what was written -/

/-- The text of an integer in the range of a width is read as the integer. -/
theorem map_readFixed? {width : Nat} {n : Int} {make : Int → Value} {x : Value}
    (low : -Nat.pow 2 (width - 1) ≤ n) (high : n < Nat.pow 2 (width - 1)) (same : make n = x) :
    (Number.readFixed? width (Number.integerText n).toList).map make = some x := by
  rw [Number.integerText, String.toList_ofList, Number.readFixed?_integerChars low high,
    Option.map_some, same]

theorem integerText_ne_empty (n : Int) : Number.integerText n ≠ "" := by
  intro empty
  have nothing : Number.integerChars n = [] := by
    simpa [Number.integerText] using congrArg String.toList empty
  simp [Number.integerChars, Number.digits_ne_nil] at nothing

/-- The text of an integer is not empty, which would be zero, and is read. -/
theorem numberOf_integerText {zeroMode : Bool} {kind : NumberKind} {n : Int} {x : Value}
    (read : readKind? kind (Number.integerText n) = some x) :
    numberOf zeroMode ⟨kind, false⟩ (.string (Number.integerText n)) = .ok x := by
  unfold numberOf
  dsimp only
  rw [if_neg (by simpa using integerText_ne_empty n), readNumber, read]

theorem booleanOf_text {zeroMode primitive : Bool} (b : Bool) :
    booleanOf zeroMode primitive (.string (Value.boolean b).text) = .ok (some b) := by
  cases b <;> rfl

theorem characterOf_text (c : Char) : characterOf (.string (Value.char c).text) = .ok c := by
  show Except.ok (c.toString.toList.headD '\x00') = _
  simp

theorem enumOf_text {m : EnumMember} (named : m.name ≠ "") :
    enumOf m.type (.string m.name) = .ok (some m) := by
  unfold enumOf
  dsimp only
  rw [if_neg (by simpa using named), EnumMember.member?_name]

/-! ### Conversions -/

theorem byRules_string {x : Value} (told : x.IsTold) :
    byRules host ctx .string x = return .string x.text := by
  cases x with
  | string s => exact byRules_of_accepts rfl
  | null => cases told
  | _ =>
    unfold byRules
    show (do return Value.string (← HookM.ofExcept (textOf _))) = _
    rw [textOf_of_isTold told]
    rfl

theorem byRules_of_text {x : Value} (told : x.IsTold) :
    byRules host ctx (.of x) (.string x.text) = return x := by
  cases x with
  | string s => exact byRules_of_accepts rfl
  | boolean b =>
    show (do return orNull .boolean (← HookM.ofExcept (booleanOf (ctx.zeroMode host) false _))) = _
    rw [booleanOf_text]
    rfl
  | char c =>
    show (do return Value.char (← HookM.ofExcept (characterOf _))) = _
    rw [characterOf_text]
    rfl
  | byte n =>
    exact congrArg HookM.ofExcept (numberOf_integerText
      (map_readFixed? n.le_toInt n.toInt_lt (by rw [Int8.ofInt_toInt])))
  | short n =>
    exact congrArg HookM.ofExcept (numberOf_integerText
      (map_readFixed? n.le_toInt n.toInt_lt (by rw [Int16.ofInt_toInt])))
  | integer n =>
    exact congrArg HookM.ofExcept (numberOf_integerText
      (map_readFixed? n.le_toInt n.toInt_lt (by rw [Int32.ofInt_toInt])))
  | long n =>
    exact congrArg HookM.ofExcept (numberOf_integerText
      (map_readFixed? n.le_toInt n.toInt_lt (by rw [Int64.ofInt_toInt])))
  | bigInteger n =>
    refine congrArg HookM.ofExcept (numberOf_integerText ?_)
    rw [readKind?, Number.integerText, String.toList_ofList, Number.readGrouped?_integerChars,
      Option.map_some]
  | enum m =>
    show (do return orNull .enum (← HookM.ofExcept (enumOf m.type (.string m.name)))) = _
    rw [enumOf_text told]
    rfl
  | _ => cases told

/-- Where no resolver has a say, a value that is told by its text is converted to that text, and the
text, converted to the type of the value, gives the value back. -/
theorem text_gives_value_back (unresolved : ctx.environment.resolver = none) {x : Value}
    (told : x.IsTold) (s : Ambient σ) :
    toType host ctx .string x s = (.ok (.string x.text), s) ∧
      toType host ctx (.of x) (.string x.text) s = (.ok x, s) := by
  constructor
  · rw [toType_of_unresolved unresolved, byRules_string told]
    rfl
  · rw [toType_of_unresolved unresolved, byRules_of_text told]
    rfl

/-- Of two members with one name only the first one is a value. -/
theorem text_gives_value_back_member :
    let color : EnumType := ⟨"Color", ["RED", "GREEN", "RED"]⟩
    let red : Value := .enum ⟨color, ⟨0, by decide⟩, rfl⟩
    let ctx := Context.ofEnvironment .empty
    let s : Ambient Unit := ⟨true, 0, ()⟩
    ctx.environment.resolver = none ∧ red.IsTold ∧
      toType (Host.plain true) ctx .string red s = (.ok (.string "RED"), s) ∧
      toType (Host.plain true) ctx (.enum color) (.string "RED") s = (.ok red, s) := by
  intro color red ctx s
  have told : red.IsTold := by
    show "RED" ≠ ""
    decide
  exact ⟨rfl, told, text_gives_value_back rfl told s⟩

end Coercion

end ExprLang
