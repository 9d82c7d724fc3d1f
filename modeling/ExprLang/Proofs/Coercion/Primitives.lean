import ExprLang.Proofs.Coercion.Settled
import ExprLang.Proofs.Resolution.Chain

/-!
# Types without null

A primitive type has no null, and no conversion to it gives null: not of null, and not if the resolver
claims null, whether it answers null or raises the flag and answers nothing
(`Context.ClaimsNull`). What is given instead is the zero of the type (`ValueType.zero`) where null
counts as zero, and an error elsewhere.

**Key theorem**: `Coercion.primitive_never_null`.
-/

namespace ExprLang

/-- The zero of a kind of numbers; that of any kind at all is of 64 bits. -/
def NumberKind.zero : NumberKind → Value
  | byte => .byte 0
  | short => .short 0
  | integer => .integer 0
  | long => .long 0
  | float => .float ⟨0⟩
  | double => .double ⟨0⟩
  | bigInteger => .bigInteger 0
  | bigDecimal => .bigDecimal ⟨0, 0⟩
  | any => .long 0

/-- The zero of a primitive type. -/
def ValueType.zero : ValueType → Value
  | number n => n.kind.zero
  | character _ => .char '\x00'
  | boolean _ => .boolean false
  | _ => .null

/-- The resolver of the context claims null for a conversion: it answers null, or it answers nothing
and leaves the flag raised. Before it is asked the flag is lowered, and afterwards put back. -/
inductive Context.ClaimsNull {σ : Type} (host : Host σ) (ctx : Context) (v : Value)
    (t : ValueType) (s : Ambient σ) : Ambient σ → Prop where
  | byValue {r : Resolver} {left : Ambient σ} : ctx.environment.resolver = some r →
      host.watch (r.convert host ctx v t) s.lowered = (.ok (some .null), left) →
      ClaimsNull host ctx v t s { left with resolved := s.resolved }
  | byFlag {r : Resolver} {left : Ambient σ} : ctx.environment.resolver = some r →
      host.watch (r.convert host ctx v t) s.lowered = (.ok none, left) → left.resolved = true →
      ClaimsNull host ctx v t s { left with resolved := s.resolved }

variable {σ : Type} {host : Host σ} {ctx : Context}

theorem Context.ClaimsNull.offer {v : Value} {t : ValueType} {s after : Ambient σ}
    (claims : ctx.ClaimsNull host v t s after) :
    ctx.offerConversion host v t s = (.ok (some .null), after) := by
  unfold Context.offerConversion
  cases claims with
  | @byValue r left asked run =>
    rw [asked]
    show (HookM.offered (host.watch (r.convert host ctx v t))) s = _
    rw [HookM.offered_apply, HookM.claimed_of_ne_ok_none (by simp [run]), run]
  | @byFlag r left asked run raised =>
    rw [asked]
    show (HookM.offered (host.watch (r.convert host ctx v t))) s = _
    rw [HookM.offered_apply, HookM.claimed_of_ok_none run, raised]
    rfl

namespace Coercion

/-! ### Null claimed by a resolver -/

theorem zero_eq (t : NumberType) : zero t = .ok t.kind.zero := by
  obtain ⟨kind, primitive⟩ := t
  cases kind <;> rfl

/-- What a null that a resolver claims comes to. -/
def nullOf (host : Host σ) (ctx : Context) (t : ValueType) : Except EvalError Value :=
  if ctx.zeroMode host then .ok t.zero else .error (.nullRequired t.text)

theorem admitClaim_null {t : ValueType} (primitive : t.isPrimitive = true) :
    admitClaim host ctx t .null = nullOf host ctx t := by
  unfold admitClaim nullOf
  rw [if_pos (by rw [primitive]; rfl)]
  cases t with
  | number n =>
    dsimp only
    rw [zero_eq]
    rfl
  | character p => rfl
  | boolean p => rfl
  | _ => cases primitive

theorem zero_ne_null {t : ValueType} (primitive : t.isPrimitive = true) : t.zero ≠ .null := by
  intro null
  cases t with
  | number n =>
    obtain ⟨kind, p⟩ := n
    cases kind <;> cases null
  | character p => cases null
  | boolean p => cases null
  | _ => cases primitive

/-- A resolver's claim does not become null in a primitive type. -/
theorem admitClaim_ne_null {t : ValueType} (primitive : t.isPrimitive = true) {claimed v : Value}
    (h : admitClaim host ctx t claimed = .ok v) : v ≠ .null := by
  cases null : claimed.isNull with
  | true =>
    obtain rfl : claimed = .null := by
      cases claimed with
      | null => rfl
      | _ => cases null
    rw [admitClaim_null primitive, nullOf] at h
    split at h
    · cases h
      exact zero_ne_null primitive
    · cases h
  | false =>
    unfold admitClaim at h
    rw [null, if_neg (by simp)] at h
    cases h
    rintro rfl
    cases null

/-! ### Null by the rules of the language -/

theorem ne_null_of_accepts {t : ValueType} (primitive : t.isPrimitive = true) {v : Value}
    (accepted : t.accepts v = true) : v ≠ .null := by
  rintro rfl
  cases t with
  | number | character | boolean => cases accepted
  | _ => cases primitive

theorem numberOf_ne_null {zeroMode : Bool} {t : NumberType} (primitive : t.primitive = true)
    {v n : Value} (h : numberOf zeroMode t v = .ok n) : n ≠ .null := by
  rcases accepts_or_null_of_numberOf h with accepted | ⟨rfl, nullable, -⟩
  · exact ne_null_of_accepts (t := .number t) primitive accepted
  · rw [primitive] at nullable
    cases nullable

theorem booleanOf_ne_none {zeroMode : Bool} {v : Value} {b : Option Bool}
    (h : booleanOf zeroMode true v = .ok b) : b ≠ none := by
  rintro rfl
  exact Bool.noConfusion (of_booleanOf_none h).1

/-- By the rules no value becomes null in a primitive type. -/
theorem yields_byRules_ne_null {t : ValueType} (primitive : t.isPrimitive = true) (v : Value) :
    Yields (· ≠ .null) (byRules host ctx t v) := by
  unfold byRules
  split
  · exact Yields.pure (ne_null_of_accepts primitive ‹_›)
  split
  · rename_i kept
    simp [keepsNull, primitive] at kept
  cases t with
  | number n => exact Yields.outcome fun _ => numberOf_ne_null primitive
  | character p => exact Yields.make fun _ => by simp
  | boolean p =>
    obtain rfl : p = true := primitive
    refine Yields.bind (Yields.outcome fun _ => booleanOf_ne_none) fun b given => Yields.pure ?_
    cases b with
    | some b => simp [orNull]
    | none => exact absurd rfl given
  | _ => cases primitive

/-! ### Conversions -/

theorem yields_toType_ne_null {t : ValueType} (primitive : t.isPrimitive = true) (v : Value) :
    Yields (· ≠ .null) (toType host ctx t v) := by
  rw [toType_eq]
  refine Yields.after fun claimed => ?_
  cases claimed with
  | some claimed => exact Yields.outcome fun _ => admitClaim_ne_null primitive
  | none => exact yields_byRules_ne_null primitive v

theorem yields_toNumber_ne_null {t : NumberType} (primitive : t.primitive = true) (v : Value) :
    Yields (· ≠ .null) (toNumber host ctx t v) := by
  refine Yields.after fun claimed => ?_
  cases claimed with
  | some claimed => exact Yields.outcome fun _ => admitClaim_ne_null (t := .number t) primitive
  | none => exact Yields.outcome fun _ => numberOf_ne_null primitive

theorem yields_toBoolean_ne_none (v : Value) :
    Yields (· ≠ none) (toBoolean host ctx true v) := by
  refine Yields.after fun claimed => ?_
  split
  · exact Yields.pure (by simp)
  · refine Yields.bind (Yields.outcome fun _ run => run) fun b (admitted : _ = _) => ?_
    rw [admitClaim_null rfl, nullOf] at admitted
    split at admitted
    · cases admitted
      exact Yields.pure (by simp)
    · cases admitted
  · exact Yields.throw _
  · exact Yields.outcome fun _ => booleanOf_ne_none

/-- No conversion to a primitive type gives null, whatever the resolver does. Null claimed by the
resolver becomes the zero of the type where null counts as zero, and an error elsewhere. -/
theorem primitive_never_null {t : ValueType} (primitive : t.isPrimitive = true) (v : Value)
    (s : Ambient σ) :
    (toType host ctx t v s).1 ≠ .ok .null ∧
    (∀ n, t = .number n → (toNumber host ctx n v s).1 ≠ .ok .null) ∧
    (t = .boolean true → (toBoolean host ctx true v s).1 ≠ .ok none) ∧
    ∀ after, ctx.ClaimsNull host v t s after →
      let refused : EvalError := .nullRequired t.text
      toType host ctx t v s = (if ctx.zeroMode host then .ok t.zero else .error refused, after) ∧
      (∀ n, t = .number n → toNumber host ctx n v s =
        (if ctx.zeroMode host then .ok t.zero else .error refused, after)) ∧
      (t = .boolean true → toBoolean host ctx true v s =
        (if ctx.zeroMode host then .ok (some false) else .error refused, after)) := by
  refine ⟨fun null => ?_, ?_, ?_, fun after claims => ⟨?_, ?_, ?_⟩⟩
  · exact yields_toType_ne_null primitive v (Prod.ext null rfl) rfl
  · rintro n rfl null
    exact yields_toNumber_ne_null primitive v (Prod.ext null rfl) rfl
  · rintro rfl null
    exact yields_toBoolean_ne_none v (Prod.ext null rfl) rfl
  · rw [toType_eq, bind_apply, claims.offer]
    exact congrArg (·, after) (admitClaim_null primitive)
  · rintro n rfl
    unfold toNumber
    rw [bind_apply, claims.offer]
    exact congrArg (·, after) (admitClaim_null primitive)
  · rintro rfl
    unfold toBoolean
    rw [bind_apply, claims.offer]
    dsimp only
    rw [admitClaim_null rfl, nullOf]
    cases ctx.zeroMode host <;> rfl

/-- A resolver that raises the flag and answers nothing claims null for a text, and the text becomes
zero where null counts as zero. -/
theorem primitive_never_null_by_flag :
    let host := Host.flagging .null
    let ctx := (Context.ofEnvironment ⟨none, some true, [], [], []⟩).asking
      (.chain [.standard, .host 0])
    let t := ValueType.number ⟨.short, true⟩
    let s : Ambient Unit := ⟨false, 0, ()⟩
    t.isPrimitive = true ∧ ctx.ClaimsNull host (.string "7") t s s ∧
      toType host ctx t (.string "7") s = (.ok (.short 0), s) ∧
      toNumber host ctx ⟨.short, true⟩ (.string "7") s = (.ok (.short 0), s) := by
  intro host ctx t s
  have asked : host.watch (Resolver.convert host ctx (.string "7") t (.chain [.standard, .host 0]))
      s.lowered = (.ok none, ⟨true, 0, ()⟩) := rfl
  have claims : ctx.ClaimsNull host (.string "7") t s s := .byFlag rfl asked rfl
  have primitive : t.isPrimitive = true := rfl
  obtain ⟨type, number, -⟩ := (primitive_never_null primitive (.string "7") s).2.2.2 s claims
  exact ⟨primitive, claims, type, number _ rfl⟩

end Coercion

end ExprLang
