import ExprLang.Proofs.Coercion.Clock
import ExprLang.Proofs.Comparison.Scale
import ExprLang.Proofs.Effects

/-!
# How comparisons come out

The outcome of a comparison in terms of its parts: values that are alike are equal without any
coercion, and equal values are never put in order.

Without a resolver values are coerced by the rules alone. Every coercion then has one outcome
wherever it runs (`Determined`), and so has every comparison. The rules read the clock of the system
only for that clock itself, so that other values are compared in one way at all times
(`compareValues_showing`).
-/

namespace ExprLang

/-- A computation that has one outcome, wherever it runs, and changes nothing. -/
def Determined {σ α : Type} (m : HookM σ α) : Prop :=
  ∃ r, ∀ s, m s = (r, s)

namespace Determined

variable {σ α β : Type}

theorem ofExcept (r : Except EvalError α) : Determined (HookM.ofExcept (σ := σ) r) :=
  ⟨r, fun _ => rfl⟩

theorem pure (a : α) : Determined (Pure.pure a : HookM σ α) :=
  ofExcept (.ok a)

theorem throw (e : EvalError) : Determined (MonadExcept.throw e : HookM σ α) :=
  ofExcept (.error e)

theorem bind {m : HookM σ α} {f : α → HookM σ β} (hm : Determined m)
    (hf : ∀ a, Determined (f a)) : Determined (m >>= f) := by
  obtain ⟨r, run⟩ := hm
  cases r with
  | error e => exact ⟨.error e, fun s => by rw [bind_apply, run]⟩
  | ok a =>
    obtain ⟨q, next⟩ := hf a
    refine ⟨q, fun s => ?_⟩
    rw [bind_apply, run]
    exact next s

/-- Two runs have the same outcome. -/
theorem outcome_eq {m : HookM σ α} (h : Determined m) (s s' : Ambient σ) : (m s).1 = (m s').1 := by
  obtain ⟨r, run⟩ := h
  rw [run, run]

end Determined

end ExprLang

namespace ExprLang.Comparison

variable {σ : Type} {host : Host σ} {ctx : Context} {a b : Value} {s : Ambient σ}

/-- Values that are the same are equal without any coercion. -/
theorem tryEquals_of_same (alike : Value.same host.objects a b = true) :
    tryEquals host ctx a b s = (.ok true, s) := by
  unfold tryEquals
  rw [if_pos alike]
  rfl

theorem equals_of_same (alike : Value.same host.objects a b = true) :
    equals host ctx a b s = (true, s) := by
  unfold equals
  rw [tryEquals_of_same alike]

/-- The order of two values, by whether they are equal. -/
theorem compareValues_apply :
    compareValues host ctx a b s = match equals host ctx a b s with
      | (true, after) => (.ok .eq, after)
      | (false, after) =>
        (if a.isNull || b.isNull then throw .compareNull
          else compareAcross host ctx a b : HookM σ Ordering) after := by
  unfold compareValues
  rw [bind_apply, liftM_apply]
  rcases equals host ctx a b s with ⟨_ | _, after⟩ <;> rfl

/-- Two values are equal if the test that may fail says so. -/
theorem equals_eq_true_iff :
    (equals host ctx a b s).1 = true ↔ (tryEquals host ctx a b s).1 = .ok true := by
  unfold equals
  rcases tryEquals host ctx a b s with ⟨e | equal, after⟩
  · exact ⟨nofun, nofun⟩
  · show equal = true ↔ Except.ok equal = .ok true
    rw [Except.ok.injEq]

/-! ### Coercions without a resolver -/

section Free

variable (free : ctx.environment.resolver = none)
include free

theorem offerConversion_of_free (v : Value) (t : ValueType) :
    ctx.offerConversion host v t s = (.ok none, s) := by
  unfold Context.offerConversion
  rw [free]
  rfl

theorem toNumber_of_free (t : NumberType) (v : Value) :
    Coercion.toNumber host ctx t v s = (Coercion.numberOf (ctx.zeroMode host) t v, s) := by
  unfold Coercion.toNumber
  rw [bind_apply, offerConversion_of_free free]
  rfl

theorem toText_of_free (v : Value) :
    Coercion.toText host ctx v s = (Coercion.textOf v, s) := by
  unfold Coercion.toText
  rw [bind_apply, offerConversion_of_free free]
  rfl

theorem toBoolean_of_free (primitive : Bool) (v : Value) :
    Coercion.toBoolean host ctx primitive v s =
      (Coercion.booleanOf (ctx.zeroMode host) primitive v, s) := by
  unfold Coercion.toBoolean
  rw [bind_apply, offerConversion_of_free free]
  rfl

theorem toEnum_of_free (t : EnumType) (v : Value) :
    Coercion.toEnum host ctx t v s = (Coercion.enumOf t v, s) := by
  unfold Coercion.toEnum
  rw [bind_apply, offerConversion_of_free free]
  rfl

theorem toInstant_of_free (v : Value) :
    Coercion.toInstant host ctx v s =
      (if v.isNull then .ok none else (Coercion.instantOf host.now v).map some, s) := by
  unfold Coercion.toInstant
  rw [bind_apply, offerConversion_of_free free]
  cases v.isNull with
  | true => rfl
  | false =>
    dsimp only
    rw [if_neg Bool.false_ne_true, if_neg Bool.false_ne_true, bind_apply]
    cases run : Coercion.instantOf host.now v <;> rw [HookM.ofExcept] <;> rfl

/-! ### Comparisons without a resolver -/

theorem determined_toNumber (t : NumberType) (v : Value) :
    Determined (Coercion.toNumber host ctx t v) :=
  ⟨_, fun _ => toNumber_of_free free t v⟩

theorem determined_read (basis : Basis) (v : Value) : Determined (basis.read host ctx v) := by
  refine (determined_toNumber free _ v).bind fun n => ?_
  split
  · exact .pure _
  · exact .throw _

theorem determined_toText (v : Value) : Determined (Coercion.toText host ctx v) :=
  ⟨_, fun _ => toText_of_free free v⟩

theorem determined_toBoolean (primitive : Bool) (v : Value) :
    Determined (Coercion.toBoolean host ctx primitive v) :=
  ⟨_, fun _ => toBoolean_of_free free primitive v⟩

theorem determined_toEnum (t : EnumType) (v : Value) : Determined (Coercion.toEnum host ctx t v) :=
  ⟨_, fun _ => toEnum_of_free free t v⟩

theorem determined_asInstant (v : Value) : Determined (asInstant host ctx v) := by
  have converted : Determined (Coercion.toInstant host ctx v) :=
    ⟨_, fun _ => toInstant_of_free free v⟩
  refine converted.bind fun t => ?_
  split
  · exact .pure _
  · exact .throw _

theorem determined_compareOn (basis : Basis) : Determined (compareOn host ctx basis a b) := by
  rw [compareOn_eq_read]
  exact (determined_read free basis a).bind fun _ => (determined_read free basis b).bind fun _ =>
    .pure _

theorem determined_compareInstants : Determined (compareInstants host ctx a b) :=
  (determined_asInstant free a).bind fun _ => (determined_asInstant free b).bind fun _ => .pure _

theorem determined_compareTexts : Determined (compareTexts host ctx a b) :=
  (determined_toText free a).bind fun _ => (determined_toText free b).bind fun _ => .pure _

theorem determined_tryEquals : Determined (tryEquals host ctx a b) := by
  unfold tryEquals
  split
  · exact .pure _
  split
  · exact .pure _
  unfold equalsAcross
  split
  · exact (determined_compareOn free _).bind fun _ => .pure _
  split
  · exact (determined_toBoolean free _ a).bind fun _ => (determined_toBoolean free _ b).bind fun _ =>
      .pure _
  split
  · exact (determined_toEnum free _ _).bind fun _ => .pure _
  · exact (determined_toEnum free _ _).bind fun _ => .pure _
  split
  · exact (determined_compareInstants free).bind fun _ => .pure _
  split
  · exact (determined_compareTexts free).bind fun _ => .pure _
  · exact .pure _

theorem determined_compareAcross : Determined (compareAcross host ctx a b) := by
  unfold compareAcross
  split
  · exact determined_compareOn free _
  split
  · exact determined_compareInstants free
  split
  · exact determined_compareTexts free
  split
  · exact .ofExcept _
  split
  · exact .ofExcept _
  · exact .throw _

theorem equals_outcome_eq (s s' : Ambient σ) :
    (equals host ctx a b s).1 = (equals host ctx a b s').1 := by
  rw [Bool.eq_iff_iff, equals_eq_true_iff, equals_eq_true_iff,
    (determined_tryEquals free).outcome_eq s s']

/-- The order of two values, by whether they are equal; what equality tells the log is no matter. -/
theorem compareValues_outcome (s : Ambient σ) :
    (compareValues host ctx a b s).1 =
      if (equals host ctx a b s).1 then .ok .eq
      else if a.isNull || b.isNull then .error .compareNull
      else (compareAcross host ctx a b s).1 := by
  rw [compareValues_apply]
  rcases equals host ctx a b s with ⟨_ | _, after⟩
  · cases a.isNull || b.isNull with
    | true => rfl
    | false => exact (determined_compareAcross free).outcome_eq after s
  · rfl

theorem compareValues_outcome_eq (s s' : Ambient σ) :
    (compareValues host ctx a b s).1 = (compareValues host ctx a b s').1 := by
  rw [compareValues_outcome free, compareValues_outcome free, equals_outcome_eq free s s',
    (determined_compareAcross free).outcome_eq s s']

/-! ### The clock of the system -/

variable (now : Time.Instant)

theorem toNumber_showing (t : NumberType) (v : Value) :
    Coercion.toNumber (host.showing now) ctx t v = Coercion.toNumber host ctx t v := by
  funext s
  rw [toNumber_of_free free, toNumber_of_free free]
  rfl

theorem toText_showing (v : Value) :
    Coercion.toText (host.showing now) ctx v = Coercion.toText host ctx v := by
  funext s
  rw [toText_of_free free, toText_of_free free]

theorem toBoolean_showing (primitive : Bool) (v : Value) :
    Coercion.toBoolean (host.showing now) ctx primitive v =
      Coercion.toBoolean host ctx primitive v := by
  funext s
  rw [toBoolean_of_free free, toBoolean_of_free free]
  rfl

theorem toEnum_showing (t : EnumType) (v : Value) :
    Coercion.toEnum (host.showing now) ctx t v = Coercion.toEnum host ctx t v := by
  funext s
  rw [toEnum_of_free free, toEnum_of_free free]

theorem asInstant_showing {v : Value} (still : v.isSystemClock = false) :
    asInstant (host.showing now) ctx v = asInstant host ctx v := by
  have read : Coercion.instantOf now v = Coercion.instantOf host.now v :=
    Coercion.instantOf_eq fun system => by rw [still] at system; cases system
  have converted : Coercion.toInstant (host.showing now) ctx v = Coercion.toInstant host ctx v := by
    funext s
    rw [toInstant_of_free free, toInstant_of_free free, ← read]
    rfl
  rw [asInstant, asInstant, converted]

theorem compareOn_showing (basis : Basis) :
    compareOn (host.showing now) ctx basis a b = compareOn host ctx basis a b := by
  simp only [compareOn_eq_read, Basis.read, toNumber_showing free]

theorem compareTexts_showing :
    compareTexts (host.showing now) ctx a b = compareTexts host ctx a b := by
  rw [compareTexts, compareTexts, toText_showing free, toText_showing free]

variable (stillA : a.isSystemClock = false) (stillB : b.isSystemClock = false)
include stillA stillB

theorem compareInstants_showing :
    compareInstants (host.showing now) ctx a b = compareInstants host ctx a b := by
  rw [compareInstants, compareInstants, asInstant_showing free now stillA,
    asInstant_showing free now stillB]

theorem equalsAcross_showing :
    equalsAcross (host.showing now) ctx a b = equalsAcross host ctx a b := by
  unfold equalsAcross
  split
  · rw [compareOn_showing free]
  split
  · rw [toBoolean_showing free, toBoolean_showing free]
  split
  · rw [toEnum_showing free]
  · rw [toEnum_showing free]
  · rw [compareInstants_showing free now stillA stillB, compareTexts_showing free]

/-- Values other than the clock of the system are equal at all times or never. -/
theorem equals_showing : equals (host.showing now) ctx a b = equals host ctx a b := by
  funext s
  rw [equals, equals, tryEquals, tryEquals, equalsAcross_showing free now stillA stillB]
  rfl

/-- Values other than the clock of the system are in one order at all times. -/
theorem compareValues_showing :
    compareValues (host.showing now) ctx a b = compareValues host ctx a b := by
  rw [compareValues, compareValues, equals_showing free now stillA stillB, compareAcross,
    compareAcross, compareInstants_showing free now stillA stillB, compareTexts_showing free]
  simp only [compareOn_showing free]
  rfl

end Free

end ExprLang.Comparison
