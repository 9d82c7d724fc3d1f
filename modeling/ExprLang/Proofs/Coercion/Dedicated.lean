import ExprLang.Proofs.Coercion.Exact
import ExprLang.Proofs.Evaluation.Declining

/-!
# Dedicated conversions

Texts, numbers, truth values, members of enumerations, points in time and characters each have a
conversion of their own besides the one to any type. It goes to the rule of the type at once, where the
conversion to any type first hands back a value of the type, and null where the type keeps it. If the
resolver declines, both come to the same: each rule leaves the values of its type alone, and leaves null
alone where the type keeps it.

Floating-point numbers of 32 bits are left out: as a number of its own kind such a value passes through
64 bits, by which a NaN may be changed. So is null as a character: it is the character with code zero
by the rule, and kept as null where the type keeps it. The clock of the system is one point in time for
both only while it shows one time.

**Key theorem**: `Coercion.dedicated_coercions_agree`.
-/

namespace ExprLang

variable {σ α β : Type}

/-- The resolver of the context, if there is one, declines every conversion: it answers nothing and
leaves the flag as it finds it, whatever else it does. -/
def Context.DeclinesConversions (host : Host σ) (ctx : Context) : Prop :=
  ∀ r, ctx.environment.resolver = some r → ∀ v t s,
    ∃ after, r.convert host ctx v t s = (.ok none, after) ∧ after.resolved = s.resolved

/-- It does so at all times, if at any. -/
theorem Context.DeclinesConversions.showing {host : Host σ} {ctx : Context}
    (declines : ctx.DeclinesConversions host) (now : Time.Instant) :
    ctx.DeclinesConversions (host.showing now) := by
  intro r asked v t s
  rw [Resolver.convert_showing]
  exact declines r asked v t s

/-- An offer comes to nothing. -/
theorem Context.DeclinesConversions.offer {host : Host σ} {ctx : Context}
    (declines : ctx.DeclinesConversions host) (v : Value) (t : ValueType) (s : Ambient σ) :
    ∃ after, ctx.offerConversion host v t s = (.ok none, after) := by
  unfold Context.offerConversion
  cases asked : ctx.environment.resolver with
  | none => exact ⟨s, rfl⟩
  | some r =>
    obtain ⟨after, run, kept⟩ := declines r asked v t (host.note .asked s.lowered)
    have watched : host.watch (r.convert host ctx v t) s.lowered = (.ok none, after) := by
      rw [Host.watch, run]
    have lowered : after.resolved = false := kept
    refine ⟨{ after with resolved := s.resolved }, ?_⟩
    show HookM.offered (host.watch (r.convert host ctx v t)) s = _
    rw [HookM.offered_apply, HookM.claimed_of_ok_none watched, lowered]
    rfl

/-- The computation has one outcome, wherever it runs and whatever it changes. -/
def ComesTo (m : HookM σ α) (r : Except EvalError α) : Prop :=
  ∀ s, (m s).1 = r

namespace ComesTo

theorem ofExcept (r : Except EvalError α) : ComesTo (HookM.ofExcept (σ := σ) r) r :=
  fun _ => rfl

theorem pure (a : α) : ComesTo (Pure.pure a : HookM σ α) (.ok a) :=
  fun _ => rfl

/-- What comes of an outcome in the end. -/
theorem map {m : HookM σ α} {r : Except EvalError α} (h : ComesTo m r) (f : α → β) :
    ComesTo (m >>= fun a => Pure.pure (f a)) (r.map f) := by
  intro s
  rw [bind_apply, ← h s]
  rcases m s with ⟨e | a, after⟩ <;> rfl

/-- Where a conversion is offered and declined, what follows decides. -/
theorem declined {host : Host σ} {ctx : Context} (declines : ctx.DeclinesConversions host)
    {v : Value} {t : ValueType} {f : Option Value → HookM σ α} {r : Except EvalError α}
    (h : ComesTo (f none) r) : ComesTo (ctx.offerConversion host v t >>= f) r := by
  intro s
  obtain ⟨after, offered⟩ := declines.offer v t s
  rw [bind_apply, offered]
  exact h after

end ComesTo

namespace Coercion

variable {host : Host σ} {ctx : Context} (declines : ctx.DeclinesConversions host)
include declines

/-! ### The dedicated conversions -/

theorem comesTo_toText (v : Value) : ComesTo (toText host ctx v) (textOf v) :=
  .declined declines (.ofExcept _)

theorem comesTo_toNumber (t : NumberType) (v : Value) :
    ComesTo (toNumber host ctx t v) (numberOf (ctx.zeroMode host) t v) :=
  .declined declines (.ofExcept _)

theorem comesTo_toCharacter (v : Value) : ComesTo (toCharacter host ctx v) (characterOf v) :=
  .declined declines (.ofExcept _)

theorem comesTo_toBoolean (primitive : Bool) (v : Value) :
    ComesTo (toBoolean host ctx primitive v) (booleanOf (ctx.zeroMode host) primitive v) :=
  .declined declines (.ofExcept _)

theorem comesTo_toEnum (t : EnumType) (v : Value) : ComesTo (toEnum host ctx t v) (enumOf t v) :=
  .declined declines (.ofExcept _)

theorem comesTo_toInstant (v : Value) :
    ComesTo (toInstant host ctx v)
      (if v.isNull then .ok none else (instantOf host.now v).map some) := by
  refine .declined declines ?_
  dsimp only
  split
  · exact .pure none
  · exact (ComesTo.ofExcept _).map some

theorem comesTo_toType {t : ValueType} {v : Value} {r : Except EvalError Value}
    (h : ComesTo (byRules host ctx t v) r) : ComesTo (toType host ctx t v) r := by
  rw [toType_eq]
  exact .declined declines h

omit declines

/-! ### The conversion to any type -/

/-- Null that is handed back as it is. -/
theorem of_kept {t : ValueType} {v : Value} (kept : (v.isNull && keepsNull host ctx t) = true) :
    v = .null ∧ ctx.zeroMode host = false ∧ t.isPrimitive = false ∧ t ≠ .string := by
  rw [Bool.and_eq_true] at kept
  have null : v = .null := by
    cases v with
    | null => rfl
    | _ => cases kept.1
  simpa [null, keepsNull, and_assoc] using kept.2

/-- By the rules, a value of the type and null where it is kept are handed back; nothing else comes of
them if the rule of the type makes the same of them. -/
theorem comesTo_byRules {t : ValueType} {v : Value} {r : Except EvalError Value}
    {rule : HookM σ Value}
    (rules : byRules host ctx t v =
      if t.accepts v then return v else if v.isNull && keepsNull host ctx t then return .null else rule)
    (own : t.accepts v = true → r = .ok v)
    (kept : v = .null → ctx.zeroMode host = false → t.isPrimitive = false → t ≠ .string →
      r = .ok .null)
    (other : ComesTo rule r) : ComesTo (byRules host ctx t v) r := by
  rw [rules]
  split
  · rw [own ‹_›]
    exact .pure v
  split
  · obtain ⟨null, nonzero, nullable, typed⟩ := of_kept ‹_›
    rw [kept null nonzero nullable typed]
    exact .pure Value.null
  · exact other

theorem comesTo_byRules_string (v : Value) :
    ComesTo (byRules host ctx .string v) ((textOf v).map .string) := by
  refine comesTo_byRules rfl (fun own => ?_) (fun _ _ _ typed => absurd rfl typed)
    ((ComesTo.ofExcept _).map _)
  cases v with
  | string s => rfl
  | _ => cases own

/-- A number of the type is what the rule makes of it. -/
theorem numberOf_of_accepts {t : NumberType} {v : Value} (wide : ∀ x, v ≠ .float x)
    (own : (ValueType.number t).accepts v = true) (zeroMode : Bool) :
    numberOf zeroMode t v = .ok v := by
  have number : v.isNumber = true := by
    cases v <;> first | rfl | cases own
  have kept : ofKind? t.kind v = some v := by
    refine ofKind?_of_accepts own fun single => ?_
    cases v with
    | float x => exact wide x rfl
    | _ => simp [ValueType.accepts, NumberKind.of?, single] at own
  rw [numberOf_of_isNumber number, convertNumber, kept]

theorem comesTo_byRules_number {t : NumberType} {v : Value} (wide : ∀ x, v ≠ .float x) :
    ComesTo (byRules host ctx (.number t) v) (numberOf (ctx.zeroMode host) t v) := by
  refine comesTo_byRules rfl (fun own => numberOf_of_accepts wide own _) ?_ (.ofExcept _)
  rintro rfl nonzero nullable -
  rw [numberOf, nonzero, show t.primitive = false from nullable]
  rfl

theorem comesTo_byRules_boolean (p : Bool) (v : Value) :
    ComesTo (byRules host ctx (.boolean p) v)
      ((booleanOf (ctx.zeroMode host) p v).map (orNull .boolean)) := by
  refine comesTo_byRules rfl (fun own => ?_) ?_ ((ComesTo.ofExcept _).map _)
  · cases v with
    | boolean b => rfl
    | _ => cases own
  · rintro rfl nonzero nullable -
    rw [booleanOf, nonzero, show p = false from nullable]
    rfl

theorem comesTo_byRules_enum (t : EnumType) (v : Value) :
    ComesTo (byRules host ctx (.enum t) v) ((enumOf t v).map (orNull .enum)) := by
  refine comesTo_byRules rfl (fun own => ?_) ?_ ((ComesTo.ofExcept _).map _)
  · cases v with
    | enum m =>
      have member : m.type = t := by simpa [ValueType.accepts] using own
      rw [enumOf, if_pos member]
      rfl
    | _ => cases own
  · rintro rfl - - -
    rfl

theorem comesTo_byRules_instant (v : Value) :
    ComesTo (byRules host ctx .instant v)
      ((if v.isNull then .ok none else (instantOf host.now v).map some).map (orNull .instant)) := by
  let rule : HookM σ Value :=
    if v.isNull then return .null else return .instant (← HookM.ofExcept (instantOf host.now v))
  have rules : byRules host ctx .instant v =
      if ValueType.instant.accepts v then return v
      else if v.isNull && keepsNull host ctx .instant then return .null
      else rule := by
    cases v <;> rfl
  refine comesTo_byRules rules (fun own => ?_) ?_ ?_
  · cases v with
    | instant t => rfl
    | _ => cases own
  · rintro rfl - - -
    rfl
  · dsimp only [rule]
    split
    · exact .pure Value.null
    · cases run : instantOf host.now v <;> exact (ComesTo.ofExcept _).map Value.instant

theorem comesTo_byRules_character {v : Value} (given : v ≠ .null) (p : Bool) :
    ComesTo (byRules host ctx (.character p) v) ((characterOf v).map .char) := by
  refine comesTo_byRules rfl (fun own => ?_) (fun null => absurd null given)
    ((ComesTo.ofExcept _).map _)
  cases v with
  | char c => rfl
  | _ => cases own

/-! ### Both ways -/

/-- Where the resolver declines, or there is none, the dedicated conversions and the conversion to any
type come to the same value or error, for every value, whether null counts as zero or not, in all
surroundings and at all times; `none` stands for null. A floating-point number of 32 bits is left out as a
number, null as a character, and the clock of the system as a point in time if it has moved. -/
theorem dedicated_coercions_agree (declines : ctx.DeclinesConversions host) (v : Value)
    (now later : Time.Instant) (s s' : Ambient σ) :
    (toType (host.showing now) ctx .string v s).1 =
      (toText (host.showing later) ctx v s').1.map .string ∧
    (∀ t, (∀ x, v ≠ .float x) →
      (toType (host.showing now) ctx (.number t) v s).1 =
        (toNumber (host.showing later) ctx t v s').1) ∧
    (∀ p, (toType (host.showing now) ctx (.boolean p) v s).1 =
      (toBoolean (host.showing later) ctx p v s').1.map (orNull .boolean)) ∧
    (∀ t, (toType (host.showing now) ctx (.enum t) v s).1 =
      (toEnum (host.showing later) ctx t v s').1.map (orNull .enum)) ∧
    ((v.isSystemClock = true → now = later) →
      (toType (host.showing now) ctx .instant v s).1 =
        (toInstant (host.showing later) ctx v s').1.map (orNull .instant)) ∧
    ∀ p, v ≠ .null →
      (toType (host.showing now) ctx (.character p) v s).1 =
        (toCharacter (host.showing later) ctx v s').1.map Value.char := by
  have first := declines.showing now
  have second := declines.showing later
  refine ⟨?_, fun t wide => ?_, fun p => ?_, fun t => ?_, fun still => ?_, fun p given => ?_⟩
  · rw [comesTo_toText second v s']
    exact comesTo_toType first (comesTo_byRules_string v) s
  · rw [comesTo_toNumber second t v s']
    exact comesTo_toType first (comesTo_byRules_number wide) s
  · rw [comesTo_toBoolean second p v s']
    exact comesTo_toType first (comesTo_byRules_boolean p v) s
  · rw [comesTo_toEnum second t v s']
    exact comesTo_toType first (comesTo_byRules_enum t v) s
  · rw [comesTo_toInstant second v s']
    have read : instantOf later v = instantOf now v := (instantOf_eq still).symm
    show _ = (if v.isNull then .ok none else (instantOf later v).map some).map _
    rw [read]
    exact comesTo_toType first (comesTo_byRules_instant v) s
  · rw [comesTo_toCharacter second v s']
    exact comesTo_toType first (comesTo_byRules_character given p) s

/-- A resolver that counts what it declines is asked once by a dedicated conversion; the conversion to any
type makes the same number and the same character of 55 at a later time, and the same time of a clock that
stands still. -/
theorem dedicated_coercions_agree_counting :
    let host := Host.counting
    let now : Time.Instant := ⟨0, 0⟩
    let later : Time.Instant := ⟨1, 0⟩
    let ctx := (Context.ofEnvironment .empty).asking (.chain [.standard, .host 0])
    let v : Value := .integer 55
    let fixed : Value := .clock ⟨0, some ⟨7, 0⟩⟩
    let t : NumberType := ⟨.short, false⟩
    let s : Ambient Nat := ⟨true, 0, 0⟩
    ctx.DeclinesConversions host ∧ (∀ x, v ≠ .float x) ∧ v ≠ .null ∧
      (fixed.isSystemClock = true → now = later) ∧
      toNumber (host.showing later) ctx t v s = (.ok (.short 55), { s with world := 1 }) ∧
      (toType (host.showing now) ctx (.number t) v s).1 = .ok (.short 55) ∧
      toCharacter (host.showing later) ctx v s = (.ok '7', { s with world := 1 }) ∧
      (toType (host.showing now) ctx (.character false) v s).1 = .ok (.char '7') ∧
      (toType (host.showing now) ctx .instant fixed s).1 = .ok (.instant ⟨7, 0⟩) := by
  intro host now later ctx v fixed t s
  have declines : ctx.DeclinesConversions host := by
    intro r asked v t s
    obtain rfl : Resolver.chain [.standard, .host 0] = r := Option.some_inj.mp asked
    exact ⟨{ s with world := s.world + 1 }, rfl, rfl⟩
  have wide : ∀ x, v ≠ .float x := nofun
  have given : v ≠ .null := nofun
  have still : fixed.isSystemClock = true → now = later := nofun
  obtain ⟨-, number, -, -, -, character⟩ := dedicated_coercions_agree declines v now later s s
  obtain ⟨-, -, -, -, time, -⟩ := dedicated_coercions_agree declines fixed now later s s
  exact ⟨declines, wide, given, still, rfl, number t wide, rfl, character false given, time still⟩

end Coercion

end ExprLang
