import ExprLang.Proofs.Coercion.Numbers
import ExprLang.Proofs.Correspondence.Contexts
import ExprLang.Proofs.Correspondence.Rules
import ExprLang.Proofs.Resolution.Matching

/-!
# Coercions and comparisons of two runs that correspond

A correspondence is coherent (`Correspondence.Coherent`) if the two runs give corresponding numbers to
what they make, and if the resolvers that they offer conversions to answer alike. Then every coercion and
every comparison comes to the same in corresponding contexts, for values that are alike.
-/

namespace ExprLang

variable {σ α β : Type}

/-- A value that is like itself in two equal outcomes. -/
theorem Outcomes.of_self {C : Correspondence σ} {r r' : Except EvalError Value} (same : r = r')
    (like : ∀ v, r = .ok v → C.Values v v) : Outcomes C.Values r r' := by
  rw [← same]
  cases r with
  | ok v => exact .ok (like v rfl)
  | error e => exact .error e

namespace Correspondence

/-- The surroundings of the two runs differ no further than the runs may. -/
structure Near (C : Correspondence σ) (s s' : Ambient σ) : Prop where
  flag : C.flags s.resolved s'.resolved
  fresh : C.next s.fresh s'.fresh
  world : C.worlds s.world s'.world

/-- The two runs give corresponding numbers to what they make, and whatever resolvers do, the application
treats the runs alike, the second of which is at a later time. -/
structure Steady (C : Correspondence σ) (host : Host σ) (later : Time.Instant) : Prop where
  oneToOne : C.OneToOne
  /-- The next numbers correspond, and so do those after them. -/
  fresh : ∀ {n n'}, C.next n n' → C.ids n n' ∧ C.next (n + 1) (n' + 1)
  /-- Flags that are set alike correspond. -/
  flag : ∀ b, C.flags b b
  /-- Whatever the log is told. -/
  log : ∀ note note' {w w'}, C.worlds w w' → C.worlds (host.log note w) (host.log note' w')
  /-- The application does not tell values that are alike apart when it compares objects with them. -/
  compared : ∀ o {v v'}, C.Values v v' → host.objects.compareTo o v = host.objects.compareTo o v'
  /-- The clock of the system may be in sight only while it shows one time. -/
  still : C.clocks → host.now = later

/-- Besides, resolvers claim the same conversions. -/
structure Coherent (C : Correspondence σ) (host : Host σ) (later : Time.Instant) : Prop
    extends C.Steady host later where
  offer : ∀ {ctx ctx' v v'} (t : ValueType), C.Contexts ctx ctx' → C.Values v v' →
    Matching C.Near (Option.Rel C.Values) (ctx.offerConversion host v t)
      (ctx'.offerConversion (host.showing later) v' t)

variable {C : Correspondence σ} {host : Host σ} {later : Time.Instant}

/-! ### Surroundings -/

namespace Steady

variable (h : C.Steady host later)
include h

theorem near_note {s s' : Ambient σ} (near : C.Near s s') (note note' : Note) :
    C.Near (host.note note s) (host.note note' s') :=
  ⟨near.flag, near.fresh, h.log note note' near.world⟩

theorem near_setFlag {s s' : Ambient σ} (near : C.Near s s') (b : Bool) :
    C.Near { s with resolved := b } { s' with resolved := b } :=
  ⟨h.flag b, near.fresh, near.world⟩

theorem setResolved (b : Bool) :
    Matching C.Near Eq (HookM.setResolved b : HookM σ Unit) (HookM.setResolved b) :=
  fun _ _ near => ⟨.ok rfl, h.near_setFlag near b⟩

end Steady

/-! ### Claims -/

namespace Contexts

variable {ctx ctx' : Context} (h : C.Contexts ctx ctx')
include h

theorem zeroMode_eq (host : Host σ) (later : Time.Instant) :
    ctx.zeroMode host = ctx'.zeroMode (host.showing later) := by
  unfold Context.zeroMode
  rw [h.environment]
  rfl

theorem admitClaim (host : Host σ) (later : Time.Instant) {v v' : Value} (t : ValueType)
    (like : C.Values v v') :
    Outcomes C.Values (Coercion.admitClaim host ctx t v)
      (Coercion.admitClaim (host.showing later) ctx' t v') := by
  unfold Coercion.admitClaim
  rw [like.isNull_eq, h.zeroMode_eq host later]
  split
  · split
    · split
      · exact .of_self rfl fun _ made => .number (Coercion.isNumber_of_convertNumber made)
      · exact .ok (.scalar rfl nofun)
      · exact .ok (.scalar rfl nofun)
      · exact .ok like
    · exact .error _
  · exact .ok like

end Contexts

namespace Coherent

variable (h : C.Coherent host later)
include h

/-! ### Coercions -/

section

variable {ctx ctx' : Context} (contexts : C.Contexts ctx ctx')
include contexts

variable {v v' : Value} (like : C.Values v v')
include like

theorem toText :
    Matching C.Near Eq (Coercion.toText host ctx v)
      (Coercion.toText (host.showing later) ctx' v') := by
  refine (h.offer _ contexts like).bind fun _ _ answers => ?_
  cases answers with
  | none => exact .outcome (.of_eq like.textOf_eq)
  | some claimed =>
    have error := claimed.mismatch_eq "String"
    cases claimed with
    | scalar _ _ =>
      rename_i w _ _
      cases w with
      | string _ | null => exact .pure rfl
      | _ => exact .throw _
    | _ => exact .throw_of_eq error

theorem toNumber (t : NumberType) : Matching C.Near C.Values (Coercion.toNumber host ctx t v)
    (Coercion.toNumber (host.showing later) ctx' t v') := by
  refine (h.offer _ contexts like).bind fun _ _ answers => ?_
  cases answers with
  | none =>
    have same : Coercion.numberOf (ctx.zeroMode host) t v =
        Coercion.numberOf (ctx'.zeroMode (host.showing later)) t v' := by
      rw [contexts.zeroMode_eq host later, like.numberOf_eq]
    refine .outcome (.of_self same fun n made => ?_)
    rcases Coercion.isNumber_or_null_of_numberOf made with number | rfl
    · exact .number number
    · exact .scalar rfl nofun
  | some claimed => exact .outcome (contexts.admitClaim host later _ claimed)

theorem toBoolean (primitive : Bool) : Matching C.Near Eq (Coercion.toBoolean host ctx primitive v)
    (Coercion.toBoolean (host.showing later) ctx' primitive v') := by
  refine (h.offer _ contexts like).bind fun _ _ answers => ?_
  cases answers with
  | none =>
    rw [contexts.zeroMode_eq host later, like.booleanOf_eq]
    exact .outcome (.of_eq rfl)
  | some claimed =>
    have error := claimed.mismatch_eq "Boolean"
    cases claimed with
    | scalar _ _ =>
      rename_i w _ _
      cases w with
      | boolean _ => exact .pure rfl
      | null =>
        dsimp only
        refine Matching.bind (.outcome (contexts.admitClaim host later _ (.scalar rfl nofun)))
          fun _ _ admitted => ?_
        cases admitted with
        | scalar _ =>
          split
          · exact .pure rfl
          · exact .pure rfl
        | _ => exact .pure rfl
      | _ => exact .throw _
    | _ => exact .throw_of_eq error

theorem toEnum (t : EnumType) : Matching C.Near Eq (Coercion.toEnum host ctx t v)
    (Coercion.toEnum (host.showing later) ctx' t v') := by
  refine (h.offer _ contexts like).bind fun _ _ answers => ?_
  cases answers with
  | none => exact .outcome (.of_eq (like.enumOf_eq t))
  | some claimed =>
    have error := claimed.mismatch_eq t.name
    cases claimed with
    | scalar _ _ =>
      rename_i w _ _
      cases w with
      | enum _ | null => exact .pure rfl
      | _ => exact .throw _
    | _ => exact .throw_of_eq error

theorem toInstant : Matching C.Near Eq (Coercion.toInstant host ctx v)
    (Coercion.toInstant (host.showing later) ctx' v') := by
  refine (h.offer _ contexts like).bind fun _ _ answers => ?_
  cases answers with
  | none =>
    dsimp only
    rw [like.isNull_eq]
    split
    · exact .pure rfl
    · exact Matching.bind_eq (.outcome (.of_eq (like.instantOf_eq h.still))) fun _ => .pure rfl
  | some claimed =>
    have error := claimed.mismatch_eq "Instant"
    cases claimed with
    | scalar _ _ =>
      rename_i w _ _
      cases w with
      | instant _ | null => exact .pure rfl
      | _ => exact .throw _
    | _ => exact .throw_of_eq error

/-! ### Comparisons -/

theorem read (basis : Comparison.Basis) :
    Matching C.Near Eq (basis.read host ctx v) (basis.read (host.showing later) ctx' v') := by
  refine (h.toNumber contexts like _).bind fun _ _ number => ?_
  rw [like.mismatch_eq, number.point?_eq]
  split
  · exact .pure rfl
  · exact .throw _

theorem asInstant :
    Matching C.Near Eq (Comparison.asInstant host ctx v)
      (Comparison.asInstant (host.showing later) ctx' v') := by
  refine (h.toInstant contexts like).bind_eq fun time => ?_
  split
  · exact .pure rfl
  · exact .throw _

variable {w w' : Value} (like' : C.Values w w')
include like'

theorem compareOn (basis : Comparison.Basis) :
    Matching C.Near Eq (Comparison.compareOn host ctx basis v w)
      (Comparison.compareOn (host.showing later) ctx' basis v' w') := by
  rw [Comparison.compareOn_eq_read, Comparison.compareOn_eq_read]
  exact (h.read contexts like basis).bind_eq fun _ => (h.read contexts like' basis).bind_eq fun _ =>
    .pure rfl

theorem compareInstants :
    Matching C.Near Eq (Comparison.compareInstants host ctx v w)
      (Comparison.compareInstants (host.showing later) ctx' v' w') :=
  (h.asInstant contexts like).bind_eq fun _ => (h.asInstant contexts like').bind_eq fun _ =>
    .pure rfl

theorem compareTexts :
    Matching C.Near Eq (Comparison.compareTexts host ctx v w)
      (Comparison.compareTexts (host.showing later) ctx' v' w') :=
  (h.toText contexts like).bind_eq fun _ => (h.toText contexts like').bind_eq fun _ => .pure rfl

theorem equalsAcross :
    Matching C.Near Eq (Comparison.equalsAcross host ctx v w)
      (Comparison.equalsAcross (host.showing later) ctx' v' w') := by
  unfold Comparison.equalsAcross
  rw [like.basis?_eq like', like.isBoolean_eq, like'.isBoolean_eq]
  split
  · exact (h.compareOn contexts like like' _).bind_eq fun _ => .pure rfl
  split
  · exact (h.toBoolean contexts like _).bind_eq fun _ => (h.toBoolean contexts like' _).bind_eq fun _ =>
      .pure rfl
  rcases like.enum_or with ⟨m, rfl, rfl⟩ | ⟨other, other'⟩
  · exact (h.toEnum contexts like' _).bind_eq fun _ => .pure rfl
  rcases like'.enum_or with ⟨m, rfl, rfl⟩ | ⟨others, others'⟩
  · split
    · exact absurd rfl (other _)
    · rename_i same
      cases same
      exact (h.toEnum contexts like _).bind_eq fun _ => .pure rfl
    · rename_i none
      exact (none m rfl).elim
  split
  · exact absurd rfl (other _)
  · exact absurd rfl (others _)
  rw [like.isTemporal_eq, like'.isTemporal_eq, like.isText_eq, like'.isText_eq]
  split
  · exact (h.compareInstants contexts like like').bind_eq fun _ => .pure rfl
  split
  · exact (h.compareTexts contexts like like').bind_eq fun _ => .pure rfl
  · exact .pure rfl

theorem tryEquals :
    Matching C.Near Eq (Comparison.tryEquals host ctx v w)
      (Comparison.tryEquals (host.showing later) ctx' v' w') := by
  unfold Comparison.tryEquals
  rw [host.showing_objects, like.same_eq h.oneToOne like', like.isNull_eq, like'.isNull_eq]
  split
  · exact .pure rfl
  split
  · exact .pure rfl
  · exact h.equalsAcross contexts like like'

/-- A test of equality drops the same errors. -/
theorem equals : Matching C.Near Eq
    (monadLift (Comparison.equals host ctx v w) : HookM σ Bool)
    (monadLift (Comparison.equals (host.showing later) ctx' v' w')) :=
  (h.tryEquals contexts like like').equals fun note near => h.near_note near note note

theorem compareAcross :
    Matching C.Near Eq (Comparison.compareAcross host ctx v w)
      (Comparison.compareAcross (host.showing later) ctx' v' w') := by
  unfold Comparison.compareAcross
  rw [host.showing_objects, like.basis?_eq like', like.isTemporal_eq, like'.isTemporal_eq,
    like.isText_eq, like'.isText_eq, like.nativeOrder?_eq h.compared like',
    like'.nativeOrder?_eq h.compared like, like.text_eq, like'.text_eq]
  split
  · exact h.compareOn contexts like like' _
  split
  · exact h.compareInstants contexts like like'
  split
  · exact h.compareTexts contexts like like'
  split
  · exact .outcome (.of_eq rfl)
  split
  · exact .outcome (.of_eq rfl)
  · exact .throw _

theorem compareValues :
    Matching C.Near Eq (Comparison.compareValues host ctx v w)
      (Comparison.compareValues (host.showing later) ctx' v' w') := by
  refine (h.equals contexts like like').bind_eq fun equal => ?_
  rw [like.isNull_eq, like'.isNull_eq]
  split
  · exact .pure rfl
  split
  · exact .throw _
  · exact h.compareAcross contexts like like'

end

end Coherent

end Correspondence

end ExprLang
