import ExprLang.Proofs.Equality.Structural

/-!
# The order of values is antisymmetric

Without a resolver two values are in order if and only if they are in order the other way round, and
then the two orders are the reverse of each other. Each rule of comparison brings both values to one
kind, each by itself, and the order of every kind turns round (`Reversed.of_keys`); the rules are
chosen by tests that do not tell the two values apart.

**Key theorem**: `compare_antisymmetric`, for all values that are `Value.Proper`, at whatever times the
two comparisons read the clock.
-/

namespace ExprLang

/-! ### Orders that turn round -/

instance : Std.OrientedCmp Number.Decimal.compareValue where
  eq_swap {a b} := by
    rw [Number.Decimal.compareValue_eq, Number.Decimal.compareValue_eq]
    exact Std.OrientedOrd.eq_swap

instance : Std.OrientedCmp Number.Double.compareTotal where
  eq_swap := Std.OrientedOrd.eq_swap

instance : Std.OrientedCmp Time.Instant.compareTime where
  eq_swap {a b} := by
    rw [Time.Instant.compareTime, Time.Instant.compareTime, Ordering.swap_then,
      ← Std.OrientedOrd.eq_swap, ← Std.OrientedOrd.eq_swap]

/-- Proper values are no objects. -/
theorem Value.Proper.ne_object {m : ObjectModel} {v : Value} (proper : Proper m v)
    (o : HostObject) : v ≠ .object o := by
  rintro rfl
  cases proper with
  | plain plain => cases plain

namespace Comparison

open Value (Proper)

variable {σ : Type}

/-- Wherever the two computations run, they give an order together or not at all, and the order of
the second is the reverse of that of the first. -/
def Reversed (m m' : HookM σ Ordering) : Prop :=
  ∀ s s' o, (m s).1 = .ok o ↔ (m' s').1 = .ok o.swap

namespace Reversed

theorem ofExcept (r : Except EvalError Ordering) :
    Reversed (σ := σ) (.ofExcept r) (.ofExcept (r.map Ordering.swap)) := by
  intro s s' o
  cases r with
  | error e => exact ⟨nofun, nofun⟩
  | ok order =>
    show Except.ok order = .ok o ↔ Except.ok order.swap = .ok o.swap
    rw [Except.ok.injEq, Except.ok.injEq, Ordering.swap_inj]

/-- Values that are brought to one kind, each by itself. -/
theorem of_keys {K : Type} {x y : HookM σ K} {cmp : K → K → Ordering}
    (oriented : ∀ k l, cmp l k = (cmp k l).swap) (hx : Determined x) (hy : Determined y) :
    Reversed (do return cmp (← x) (← y)) (do return cmp (← y) (← x)) := by
  obtain ⟨r, runX⟩ := hx
  obtain ⟨q, runY⟩ := hy
  intro s s' o
  simp only [bind_apply, runX, runY]
  cases r with
  | error e => cases q <;> exact ⟨nofun, nofun⟩
  | ok k =>
    cases q with
    | error e => exact ⟨nofun, nofun⟩
    | ok l =>
      show Except.ok (cmp k l) = .ok o ↔ Except.ok (cmp l k) = .ok o.swap
      rw [Except.ok.injEq, Except.ok.injEq, oriented k l, Ordering.swap_inj]

end Reversed

/-- Wherever the two tests run, they succeed together or not at all. -/
def Alternate (m m' : HookM σ Bool) : Prop :=
  ∀ s s', (m s).1 = .ok true ↔ (m' s').1 = .ok true

/-- A test of an order for equality succeeds if the order is that of equal values. -/
theorem test_eq_true_iff {m : HookM σ Ordering} {s : Ambient σ} :
    ((do return (← m) == .eq : HookM σ Bool) s).1 = .ok true ↔ (m s).1 = .ok .eq := by
  rw [bind_apply]
  rcases m s with ⟨e | o, after⟩
  · exact ⟨nofun, nofun⟩
  · show Except.ok (o == .eq) = .ok true ↔ Except.ok o = .ok .eq
    rw [Except.ok.injEq, Except.ok.injEq, beq_iff_eq]

theorem Alternate.of_determined {m : HookM σ Bool} (h : Determined m) : Alternate m m :=
  fun s s' => by rw [h.outcome_eq s s']

theorem Reversed.alternate {m m' : HookM σ Ordering} (h : Reversed m m') :
    Alternate (do return (← m) == .eq) (do return (← m') == .eq) := by
  intro s s'
  rw [test_eq_true_iff, test_eq_true_iff]
  exact h s s' .eq

/-! ### The rules -/

theorem Basis.order_swap (basis : Basis) (p q : basis.Point) :
    basis.order q p = (basis.order p q).swap := by
  cases basis with
  | decimal => exact (inferInstance : Std.OrientedCmp Number.Decimal.compareValue).eq_swap
  | double => exact (inferInstance : Std.OrientedCmp Number.Double.compareTotal).eq_swap
  | bigInteger => exact Std.OrientedOrd.eq_swap
  | long => exact Std.OrientedOrd.eq_swap

theorem basis?_comm (a b : Value) : basis? a b = basis? b a := by
  unfold basis?
  rw [Bool.or_comm a.isText, Bool.or_comm (isDecimal a), Bool.or_comm (isFloating a),
    Bool.or_comm (isBigInteger a), Bool.or_comm (isIntegral a)]

/-- Values that are no objects have the orders of their kinds. -/
theorem nativeOrder?_swap {objects : ObjectModel} {a b : Value} (noObject : ∀ o, a ≠ .object o)
    (noObject' : ∀ o, b ≠ .object o) :
    nativeOrder? objects b a = (nativeOrder? objects a b).map (Except.map Ordering.swap) := by
  cases a with
  | object o => exact absurd rfl (noObject o)
  | boolean x =>
    cases b with
    | object o => exact absurd rfl (noObject' o)
    | boolean y =>
      rw [nativeOrder?, Std.OrientedOrd.eq_swap]
      rfl
    | _ => rfl
  | enum x =>
    cases b with
    | object o => exact absurd rfl (noObject' o)
    | enum y =>
      by_cases same : x.type = y.type
      · rw [nativeOrder?, nativeOrder?, if_pos same, if_pos same.symm, Std.OrientedOrd.eq_swap]
        rfl
      · rw [nativeOrder?, nativeOrder?, if_neg same, if_neg (Ne.symm same)]
        rfl
    | _ => rfl
  | _ =>
    cases b with
    | object o => exact absurd rfl (noObject' o)
    | _ => rfl

section Free

variable {host : Host σ} {ctx : Context} (free : ctx.environment.resolver = none) (a b : Value)
include free

theorem reversed_compareOn (basis : Basis) :
    Reversed (compareOn host ctx basis a b) (compareOn host ctx basis b a) := by
  rw [compareOn_eq_read, compareOn_eq_read]
  exact .of_keys basis.order_swap (determined_read free basis a) (determined_read free basis b)

theorem reversed_compareInstants :
    Reversed (compareInstants host ctx a b) (compareInstants host ctx b a) :=
  .of_keys (fun _ _ => Std.OrientedCmp.eq_swap) (determined_asInstant free a)
    (determined_asInstant free b)

theorem reversed_compareTexts :
    Reversed (compareTexts host ctx a b) (compareTexts host ctx b a) :=
  .of_keys (fun _ _ => Std.OrientedOrd.eq_swap) (determined_toText free a)
    (determined_toText free b)

theorem alternate_booleans :
    Alternate
      (do return (← Coercion.toBoolean host ctx false a) == (← Coercion.toBoolean host ctx false b))
      (do return (← Coercion.toBoolean host ctx false b) == (← Coercion.toBoolean host ctx false a)) := by
  intro s s'
  simp only [bind_apply, toBoolean_of_free free]
  cases Coercion.booleanOf (ctx.zeroMode host) false a with
  | error e => cases Coercion.booleanOf (ctx.zeroMode host) false b <;> exact ⟨nofun, nofun⟩
  | ok x =>
    cases Coercion.booleanOf (ctx.zeroMode host) false b with
    | error e => exact ⟨nofun, nofun⟩
    | ok y =>
      show Except.ok (x == y) = .ok true ↔ Except.ok (y == x) = .ok true
      rw [Bool.beq_comm]

omit a b in
/-- A member of the enumeration of another one equals it if it is the same. -/
theorem member_eq_true_iff (m n : EnumMember) (s : Ambient σ) :
    ((do return (← Coercion.toEnum host ctx m.type (.enum n)) == some m : HookM σ Bool) s).1 =
      .ok true ↔ n = m := by
  simp only [bind_apply, toEnum_of_free free, Coercion.enumOf]
  by_cases same : n.type = m.type
  · rw [if_pos same]
    show Except.ok (some n == some m) = .ok true ↔ _
    rw [Except.ok.injEq, beq_iff_eq, Option.some_inj]
  · rw [if_neg same]
    exact ⟨nofun, fun equal => absurd (congrArg EnumMember.type equal) same⟩

/-- Two members, each converted to the enumeration of the other. -/
theorem alternate_members (m n : EnumMember) :
    Alternate (do return (← Coercion.toEnum host ctx m.type (.enum n)) == some m)
      (do return (← Coercion.toEnum host ctx n.type (.enum m)) == some n) := by
  intro s s'
  rw [member_eq_true_iff free, member_eq_true_iff free, eq_comm]

/-- Equality of values of different kinds; only members have a rule of their own on either side. -/
theorem alternate_equalsAcross :
    Alternate (equalsAcross host ctx a b) (equalsAcross host ctx b a) := by
  have itself (t : EnumType) (v : Value) (m : EnumMember) :
      Alternate (do return (← Coercion.toEnum host ctx t v) == some m)
        (do return (← Coercion.toEnum host ctx t v) == some m) :=
    .of_determined ((determined_toEnum free t v).bind fun _ => .pure _)
  unfold equalsAcross
  rw [basis?_comm b a, Bool.or_comm (isBoolean b)]
  split
  · exact (reversed_compareOn free a b _).alternate
  split
  · exact alternate_booleans free a b
  split
  · split
    · exact alternate_members free _ _
    · rename_i isMember _ _
      cases isMember
      exact itself _ _ _
    · rename_i notMember
      exact absurd rfl (notMember _)
  · exact itself _ _ _
  · rw [Bool.or_comm b.isTemporal, Bool.or_comm b.isText]
    split
    · exact (reversed_compareInstants free a b).alternate
    split
    · exact (reversed_compareTexts free a b).alternate
    · exact .of_determined (.pure false)

/-- Equality of values of which structural equality is symmetric. -/
theorem equals_comm (symm : Value.same host.objects a b = Value.same host.objects b a)
    (s s' : Ambient σ) : (equals host ctx a b s).1 = (equals host ctx b a s').1 := by
  have tried : Alternate (tryEquals host ctx a b) (tryEquals host ctx b a) := by
    unfold tryEquals
    rw [symm, Bool.or_comm b.isNull]
    split
    · exact .of_determined (.pure true)
    split
    · exact .of_determined (.pure false)
    · exact alternate_equalsAcross free a b
  rw [Bool.eq_iff_iff, equals_eq_true_iff, equals_eq_true_iff]
  exact tried s s'

theorem reversed_compareAcross {a b : Value} (noObject : ∀ o, a ≠ .object o)
    (noObject' : ∀ o, b ≠ .object o) :
    Reversed (compareAcross host ctx a b) (compareAcross host ctx b a) := by
  unfold compareAcross
  rw [basis?_comm b a, Bool.or_comm b.isTemporal, Bool.or_comm b.isText]
  split
  · exact reversed_compareOn free a b _
  split
  · exact reversed_compareInstants free a b
  split
  · exact reversed_compareTexts free a b
  rw [nativeOrder?_swap noObject noObject']
  cases nativeOrder? host.objects a b with
  | none =>
    intro s s' o
    exact ⟨nofun, nofun⟩
  | some order => exact .ofExcept order

theorem reversed_compareValues {a b : Value} (noObject : ∀ o, a ≠ .object o)
    (noObject' : ∀ o, b ≠ .object o)
    (symm : Value.same host.objects a b = Value.same host.objects b a) :
    Reversed (compareValues host ctx a b) (compareValues host ctx b a) := by
  intro s s' o
  rw [compareValues_outcome free, compareValues_outcome free, equals_comm free a b symm s s',
    Bool.or_comm b.isNull]
  split
  · cases o <;> simp
  split
  · exact ⟨nofun, nofun⟩
  · exact reversed_compareAcross free noObject noObject' s s' o

/-- In a context without a resolver, two values without objects and other than the clock of the system
compare if and only if they compare the other way round, at whatever times and whatever the log has
been told; the orders are then the reverse of each other. In particular, equality is symmetric. -/
theorem compare_antisymmetric {a b : Value} (properA : Proper host.objects a)
    (properB : Proper host.objects b) (stillA : a.isSystemClock = false)
    (stillB : b.isSystemClock = false) (now later : Time.Instant) (s s' : Ambient σ) :
    (∀ o, (compareValues (host.showing now) ctx a b s).1 = .ok o ↔
      (compareValues (host.showing later) ctx b a s').1 = .ok o.swap) ∧
    (equals (host.showing now) ctx a b s).1 = (equals (host.showing later) ctx b a s').1 := by
  have laws := Value.equivalenceOn_proper host.objects
  have symm : Value.same host.objects a b = Value.same host.objects b a :=
    Bool.eq_iff_iff.mpr ⟨laws.symm a b properA properB, laws.symm b a properB properA⟩
  rw [compareValues_showing free now stillA stillB, compareValues_showing free later stillB stillA,
    equals_showing free now stillA stillB, equals_showing free later stillB stillA]
  exact ⟨reversed_compareValues free properA.ne_object properB.ne_object symm s s',
    equals_comm free a b symm s s'⟩

end Free

/-- A character is in order with a decimal by the number of the character. -/
theorem compare_antisymmetric_character :
    let host := Host.plain false
    let ctx := Context.ofEnvironment .empty
    let a := Value.char 'a'
    let b := Value.bigDecimal ⟨985, 1⟩
    ctx.environment.resolver = none ∧ Proper host.objects a ∧ Proper host.objects b ∧
      a.isSystemClock = false ∧ b.isSystemClock = false ∧
      (compareValues (host.showing ⟨0, 0⟩) ctx a b ⟨true, 0, ()⟩).1 = .ok .lt ∧
      (compareValues (host.showing ⟨1, 0⟩) ctx b a ⟨true, 0, ()⟩).1 = .ok .gt := by
  intro host ctx a b
  have properA : Proper host.objects a := .plain rfl
  have properB : Proper host.objects b := .plain rfl
  have apart : Value.same host.objects a b = false := by
    simp [Value.same, Value.sameLeaf, a, b]
  have less : (compareValues (host.showing ⟨0, 0⟩) ctx a b ⟨true, 0, ()⟩).1 = .ok .lt := by
    have unequal : (equals host ctx a b ⟨true, 0, ()⟩).1 = false := by
      rw [equals, tryEquals, apart]
      rfl
    rw [compareValues_showing rfl _ rfl rfl, compareValues_outcome rfl, unequal]
    rfl
  have free : ctx.environment.resolver = none := rfl
  obtain ⟨turned, -⟩ := compare_antisymmetric (σ := Unit) free properA properB rfl rfl ⟨0, 0⟩ ⟨1, 0⟩
    ⟨true, 0, ()⟩ ⟨true, 0, ()⟩
  exact ⟨free, properA, properB, rfl, rfl, less, (turned .lt).mp less⟩

end Comparison

end ExprLang
