import ExprLang.Coercion.Number
import ExprLang.Coercion.Temporal
import ExprLang.Context.Resolution
import ExprLang.Text.AsciiCase

/-!
# Coercion

How a value becomes a value of another type. Every conversion is offered to the resolver first,
and what it claims is taken as it is. Otherwise a value of the type stays as it is, null stays
null unless the type has no null or null counts as zero, and the rules of the type apply.
-/

namespace ExprLang.Coercion

open Time (Instant)

/-! ### The rules of the types, without any resolver -/

/-- The text of a value; that of null is empty. -/
def textOf : Value → Except EvalError String
  | .null => .ok ""
  | .object o =>
    match o.text with
    | .text s => .ok s
    | .error e => .error e
    | .failure detail => .error (.host detail)
  | v => .ok v.text

/-- A value as a number. Null and empty text are zero, except that null stays null where the type
has it and null does not count as zero. -/
def numberOf (zeroMode : Bool) (t : NumberType) : Value → Except EvalError Value
  | .null => if t.primitive || zeroMode then zero t else .ok .null
  | .string s => if s.isEmpty then zero t else readNumber t s
  | .char c => convertNumber t (.short (charCode c))
  | v =>
    if v.isNumber then convertNumber t v
    else .error (.conversion v.text v.kindName t.text)

/-- The character with a code of 16 bits, unless it is half of a surrogate pair. -/
def charOfCode? (code : Int32) : Option Char :=
  let n := code.toUInt32.toNat % 65536
  if n.isValidChar then some (.ofNat n) else none

/-- A value as a character: the first one of a text, the one with a number as its code. Null and
empty text are the character with code zero. -/
def characterOf (v : Value) : Except EvalError Char :=
  match v with
  | .null => .ok '\x00'
  | .string s => .ok (s.toList.headD '\x00')
  | .char c => .ok c
  | _ =>
    match (int? v).bind charOfCode? with
    | some c => .ok c
    | none => .error (.conversion v.text v.kindName "Character")

/-- A value as a truth value: of the texts only `true`, in any case, is true. Null is false, or
null where the type has it and null does not count as zero. -/
def booleanOf (zeroMode primitive : Bool) : Value → Except EvalError (Option Bool)
  | .null => .ok (if primitive || zeroMode then some false else none)
  | .boolean b => .ok (some b)
  | .string s => .ok (some (Text.equalsIgnoringAsciiCase s "true"))
  | v => .error (.conversion v.text v.kindName "Boolean")

/-- A value as a member of an enumeration, by the name of the member; null and empty text give
none. -/
def enumOf (t : EnumType) : Value → Except EvalError (Option EnumMember)
  | .null => .ok none
  | .string s =>
    if s.isEmpty then .ok none
    else
      match t.member? s with
      | some m => .ok (some m)
      | none => .error (.conversion s "String" t.name)
  | v =>
    match v with
    | .enum m => if m.type = t then .ok (some m) else .error (.conversion v.text v.kindName t.name)
    | _ => .error (.conversion v.text v.kindName t.name)

/-- The value that stands for `none`. -/
def orNull {α : Type} (make : α → Value) (result : Option α) : Value :=
  (result.map make).getD .null

variable {σ : Type} (host : Host σ) (ctx : Context)

/-- A text as a value of a type, by the editor for the type. Where there is none, or it fails,
empty text is null. -/
def editText (t : ValueType) (s : String) : Except EvalError Value :=
  let edited := (ctx.environment.editors.get? t.text).map fun editor => host.edit editor s
  match edited with
  | some (.ok v) => .ok v
  | _ => if s.isEmpty then .ok .null else .error (.conversion s "String" t.text)

/-- What becomes of null claimed by a resolver for a type without null: the zero of the type where
null counts as zero, and an error elsewhere. -/
def admitClaim (t : ValueType) (claimed : Value) : Except EvalError Value :=
  if claimed.isNull && t.isPrimitive then
    if ctx.zeroMode host then
      match t with
      | .number n => zero n
      | .character _ => .ok (.char '\x00')
      | .boolean _ => .ok (.boolean false)
      | _ => .ok claimed
    else .error (.nullRequired t.text)
  else .ok claimed

/-! ### Conversions -/

/-- An interface with one abstract method as a lambda fulfils it. -/
def adapt (l : Lambda) (i : Interface) : HookM σ Value := do
  let id ← HookM.freshId
  return .adapter ⟨id, l, i, ctx.snapshot⟩

/-- Whether a null of the type is handed back as it is: where null does not count as zero, and the
type has null and is not that of texts. -/
def keepsNull (t : ValueType) : Bool :=
  !ctx.zeroMode host && !t.isPrimitive && t != .string

/-- Converts a value to a type. -/
def toType : ValueType → Value → HookM σ Value
  | t, v => do
    match ← ctx.offerConversion host v t with
    | some claimed => HookM.ofExcept (admitClaim host ctx t claimed)
    | none =>
      if t.accepts v then return v
      else if v.isNull && keepsNull host ctx t then return .null
      else
        match t with
        | .string => return .string (← HookM.ofExcept (textOf v))
        | .number n => HookM.ofExcept (numberOf (ctx.zeroMode host) n v)
        | .character _ => return .char (← HookM.ofExcept (characterOf v))
        | .boolean p =>
          return orNull .boolean (← HookM.ofExcept (booleanOf (ctx.zeroMode host) p v))
        | .enum e => return orNull .enum (← HookM.ofExcept (enumOf e v))
        | t =>
          match t, v with
          | _, .null => return .null
          | .instant, v => return .instant (← HookM.ofExcept (instantOf host.now v))
          | .date, v => return .date (← HookM.ofExcept (dateOf host.now v))
          | t, .string s => HookM.ofExcept (editText host ctx t s)
          | .map, .set [] => return .map []
          | .array element, .array items => return .array (← items.mapM (toType element))
          | .interface i, .lambda l =>
            if i.singleAbstractMethod?.isSome then adapt ctx l i
            else throw (.conversion v.text v.kindName t.text)
          | t, v => throw (.conversion v.text v.kindName t.text)
termination_by structural t => t

/-- The text of a value, as the resolver or the rules give it. -/
def toText (v : Value) : HookM σ String := do
  match ← ctx.offerConversion host v .string with
  | some (.string s) => return s
  | some .null => return ""
  | some other => throw (.conversion other.text other.kindName "String")
  | none => .ofExcept (textOf v)

/-- The value as a number. -/
def toNumber (t : NumberType) (v : Value) : HookM σ Value := do
  match ← ctx.offerConversion host v (.number t) with
  | some claimed => .ofExcept (admitClaim host ctx (.number t) claimed)
  | none => .ofExcept (numberOf (ctx.zeroMode host) t v)

/-- The value as a character. -/
def toCharacter (v : Value) : HookM σ Char := do
  match ← ctx.offerConversion host v (.character false) with
  | some (.char c) => return c
  | some other => throw (.conversion other.text other.kindName "Character")
  | none => .ofExcept (characterOf v)

/-- The value as a truth value; `none` stands for null. -/
def toBoolean (primitive : Bool) (v : Value) : HookM σ (Option Bool) := do
  match ← ctx.offerConversion host v (.boolean primitive) with
  | some (.boolean b) => return some b
  | some .null =>
    match ← HookM.ofExcept (admitClaim host ctx (.boolean primitive) .null) with
    | .boolean b => return some b
    | _ => return none
  | some other => throw (.conversion other.text other.kindName "Boolean")
  | none => .ofExcept (booleanOf (ctx.zeroMode host) primitive v)

/-- The value as a member of an enumeration; `none` stands for null. -/
def toEnum (t : EnumType) (v : Value) : HookM σ (Option EnumMember) := do
  match ← ctx.offerConversion host v (.enum t) with
  | some (.enum m) => return some m
  | some .null => return none
  | some other => throw (.conversion other.text other.kindName t.name)
  | none => .ofExcept (enumOf t v)

/-- The value as a point in time; `none` stands for null. -/
def toInstant (v : Value) : HookM σ (Option Instant) := do
  match ← ctx.offerConversion host v .instant with
  | some (.instant t) => return some t
  | some .null => return none
  | some other => throw (.conversion other.text other.kindName "Instant")
  | none => if v.isNull then return none else return some (← .ofExcept (instantOf host.now v))

end ExprLang.Coercion
