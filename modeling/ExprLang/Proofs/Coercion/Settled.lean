import ExprLang.Proofs.Coercion.Numbers
import ExprLang.Proofs.Coercion.Rules

/-!
# Where conversions come to rest

Where no resolver and no editor has a say, a conversion gives a value that is `Settled` in the type
that it was asked for: a value of the type, null where null stays null, or an array of values that are
settled in the type of the elements. A settled value is converted to itself (`Settled.stays`).

**Key theorem** (`Coercion.toType_idempotent`): what `Coercion.toType` gives for a type it gives again
for that type, for every value and every type, and whether or not null counts as zero.

- The rules of the single types are `Except` functions; each of them has its lemma here, for all
  values at once.
- The rules are gone through once, by induction on the type: only arrays convert other values.
-/

namespace ExprLang

/-- Whether a value of the type stands in for null where null counts as zero. -/
def ValueType.replacesNull : ValueType → Bool
  | string | number _ | character _ | boolean _ => true
  | _ => false

namespace Coercion

variable {σ : Type} {host : Host σ} {ctx : Context}

/-- A value that a conversion to the type has no cause to change. -/
inductive Settled (host : Host σ) (ctx : Context) : ValueType → Value → Prop where
  /-- It is of the type as it stands. -/
  | accepted {t : ValueType} {v : Value} : t.accepts v = true → Settled host ctx t v
  /-- It is null, and nothing stands in for it. -/
  | null {t : ValueType} : keepsNull host ctx t = true ∨ t.replacesNull = false →
      Settled host ctx t .null
  /-- It is an array, and its elements are settled in the type of the elements. -/
  | elements {element : ValueType} {items : List Value} :
      (∀ item ∈ items, Settled host ctx element item) →
        Settled host ctx (.array element) (.array items)

/-! ### Numbers, truth values and enumerations -/

theorem keepsNull_iff {t : ValueType} : keepsNull host ctx t = true ↔
    ctx.zeroMode host = false ∧ t.isPrimitive = false ∧ t ≠ .string := by
  simp [keepsNull, and_assoc]

theorem settled_of_numberOf {t : NumberType} {v n : Value}
    (h : numberOf (ctx.zeroMode host) t v = .ok n) : Settled host ctx (.number t) n := by
  rcases accepts_or_null_of_numberOf h with accepted | ⟨rfl, nullable, noZero⟩
  · exact .accepted accepted
  · exact .null (.inl (keepsNull_iff.mpr ⟨noZero, nullable, by simp⟩))

/-- Null is given as a truth value only where it stays null. -/
theorem of_booleanOf_none {zeroMode primitive : Bool} {v : Value}
    (h : booleanOf zeroMode primitive v = .ok none) : primitive = false ∧ zeroMode = false := by
  unfold booleanOf at h
  split at h
  · split at h
    · cases h
    · rename_i nullable
      simpa using nullable
  · cases h
  · cases h
  · cases h

theorem settled_of_booleanOf {primitive : Bool} {v : Value} {b : Option Bool}
    (h : booleanOf (ctx.zeroMode host) primitive v = .ok b) :
    Settled host ctx (.boolean primitive) (orNull .boolean b) := by
  cases b with
  | some b => exact .accepted rfl
  | none =>
    obtain ⟨nullable, noZero⟩ := of_booleanOf_none h
    exact .null (.inl (keepsNull_iff.mpr ⟨noZero, nullable, by simp⟩))

/-- The member with a name belongs to the enumeration that was searched. -/
theorem type_of_member? {t : EnumType} {name : String} {m : EnumMember}
    (h : t.member? name = some m) : m.type = t := by
  unfold EnumType.member? at h
  split at h
  · cases h
    rfl
  · cases h

theorem type_of_enumOf {t : EnumType} {v : Value} {m : EnumMember}
    (h : enumOf t v = .ok (some m)) : m.type = t := by
  unfold enumOf at h
  split at h
  · cases h
  · split at h
    · cases h
    · split at h
      · cases h
        exact type_of_member? ‹_›
      · cases h
  · split at h
    · split at h
      · cases h
        assumption
      · cases h
    · cases h

/-- A member is one of the enumeration, and nothing stands in for null. -/
theorem settled_of_enumOf {t : EnumType} {v : Value} {m : Option EnumMember}
    (h : enumOf t v = .ok m) : Settled host ctx (.enum t) (orNull .enum m) := by
  cases m with
  | none => exact .null (.inr rfl)
  | some m => exact .accepted (by simpa [orNull, ValueType.accepts] using type_of_enumOf h)

/-! ### Conversions -/

/-- Without editors a text becomes no value but null. -/
theorem null_of_editText {t : ValueType} {s : String} {v : Value}
    (uneditable : ctx.environment.editors = []) (h : editText host ctx t s = .ok v) :
    v = .null := by
  simp only [editText, uneditable] at h
  change (if s.isEmpty then .ok .null else .error _) = Except.ok v at h
  split at h
  · cases h
    rfl
  · cases h

theorem yields_adapt (l : Lambda) (i : Interface) :
    Yields (Settled host ctx (.interface i)) (adapt (σ := σ) ctx l i) := by
  refine Yields.make fun id => .accepted ?_
  simp [ValueType.accepts]

/-- The rules, where conversions of the elements of an array are known to give settled values. -/
theorem yields_byRules (uneditable : ctx.environment.editors = []) (t : ValueType) (v : Value)
    (elements : ∀ element, t = .array element →
      ∀ v, Yields (Settled host ctx element) (toType host ctx element v)) :
    Yields (Settled host ctx t) (byRules host ctx t v) := by
  unfold byRules
  split
  · exact Yields.pure (.accepted ‹_›)
  split
  · rename_i kept
    rw [Bool.and_eq_true] at kept
    exact Yields.pure (.null (.inl kept.2))
  split
  -- types whose rules give scalars
  · exact Yields.make fun _ => .accepted rfl
  · exact Yields.outcome fun _ => settled_of_numberOf
  · exact Yields.make fun _ => .accepted rfl
  · exact Yields.bind (Yields.outcome fun _ => settled_of_booleanOf) fun _ => Yields.pure
  · exact Yields.bind (Yields.outcome fun _ => settled_of_enumOf) fun _ => Yields.pure
  -- all other types, none of which has anything to stand in for null
  · rename_i notString notNumber notCharacter notBoolean notEnum
    have unreplaced : t.replacesNull = false := by
      cases t with
      | string => exact absurd rfl notString
      | number n => exact absurd rfl (notNumber n)
      | character p => exact absurd rfl (notCharacter p)
      | boolean p => exact absurd rfl (notBoolean p)
      | _ => rfl
    split
    · exact Yields.pure (.null (.inr unreplaced))
    · exact Yields.make fun _ => .accepted rfl
    · exact Yields.make fun _ => .accepted rfl
    · refine Yields.outcome fun edited run => ?_
      rw [null_of_editText uneditable run]
      exact .null (.inr unreplaced)
    · exact Yields.pure (.accepted rfl)
    · exact Yields.bind (Yields.mapM (elements _ rfl) _) fun _ settled =>
        Yields.pure (.elements settled)
    · split
      · exact yields_adapt _ _
      · exact Yields.throw _
    · exact Yields.throw _

theorem yields_settled (unresolved : ctx.environment.resolver = none)
    (uneditable : ctx.environment.editors = []) (t : ValueType) (v : Value) :
    Yields (Settled host ctx t) (toType host ctx t v) := by
  induction t generalizing v with
  | array element ih =>
    rw [toType_of_unresolved unresolved]
    refine yields_byRules uneditable _ v fun inner same => ?_
    obtain rfl : element = inner := by simpa using same
    exact ih
  | _ =>
    rw [toType_of_unresolved unresolved]
    exact yields_byRules uneditable _ v fun _ same => by simp at same

/-! ### Settled values -/

/-- Conversions that give each item of a list back give the list back. -/
theorem mapM_of_fixed {f : Value → HookM σ Value} {items : List Value}
    (fixed : ∀ item ∈ items, f item = return item) : items.mapM f = return items := by
  induction items with
  | nil => rfl
  | cons item rest ih =>
    obtain ⟨first, others⟩ := List.forall_mem_cons.mp fixed
    rw [List.mapM_cons, first, ih others]
    rfl

theorem byRules_null {t : ValueType}
    (leaves : keepsNull host ctx t = true ∨ t.replacesNull = false) :
    byRules host ctx t .null = return .null := by
  unfold byRules
  split
  · rfl
  split
  · rfl
  · rename_i notKept
    have unreplaced : t.replacesNull = false :=
      leaves.resolve_left fun kept => notKept (by rw [kept]; rfl)
    cases t with
    | string | number | character | boolean => cases unreplaced
    | _ => rfl

/-- A settled value is converted to itself. -/
theorem Settled.stays (unresolved : ctx.environment.resolver = none) {t : ValueType} {v : Value}
    (h : Settled host ctx t v) : toType host ctx t v = return v := by
  induction h with
  | accepted accepted => rw [toType_of_unresolved unresolved, byRules_of_accepts accepted]
  | null leaves => rw [toType_of_unresolved unresolved, byRules_null leaves]
  | @elements element items _ ih =>
    rw [toType_of_unresolved unresolved]
    cases accepted : (ValueType.array element).accepts (.array items) with
    | true => exact byRules_of_accepts accepted
    | false =>
      rw [byRules_array accepted, mapM_of_fixed ih]
      rfl

/-- A conversion is idempotent where neither a resolver nor an editor has a say: what it gives, it
gives again, whatever has happened in between. -/
theorem toType_idempotent {t : ValueType} {v r : Value} {s after later : Ambient σ}
    (unresolved : ctx.environment.resolver = none) (uneditable : ctx.environment.editors = [])
    (run : toType host ctx t v s = (.ok r, after)) : toType host ctx t r later = (.ok r, later) := by
  have settled : Settled host ctx t r := yields_settled unresolved uneditable t v run
  rw [settled.stays unresolved]
  rfl

/-- A lambda, null and empty text become an adapter and twice null, which then stay, although null
counts as zero. -/
theorem toType_idempotent_adapter :
    let ctx := Context.ofEnvironment .empty
    let supplier : Interface := ⟨"Supplier", [⟨"get", 0, true⟩]⟩
    let one : Lambda := ⟨3, [], .integer 1, []⟩
    let t := ValueType.array (.interface supplier)
    let r := Value.array [.adapter ⟨7, one, supplier, ctx.snapshot⟩, .null, .null]
    ctx.environment.resolver = none ∧ ctx.environment.editors = [] ∧
      toType (Host.plain true) ctx t (.array [.lambda one, .null, .string ""]) ⟨true, 7, ()⟩ =
        (.ok r, ⟨true, 8, ()⟩) ∧
      toType (Host.plain true) ctx t r ⟨false, 9, ()⟩ = (.ok r, ⟨false, 9, ()⟩) := by
  intro ctx supplier one t r
  let host : Host Unit := Host.plain true
  have element : toType host ctx (.interface supplier) = byRules host ctx (.interface supplier) :=
    funext (toType_of_unresolved rfl _)
  have run : toType host ctx t (.array [.lambda one, .null, .string ""]) ⟨true, 7, ()⟩ =
      (.ok r, ⟨true, 8, ()⟩) := by
    rw [toType_of_unresolved rfl, byRules_array rfl, element]
    rfl
  exact ⟨rfl, rfl, run, toType_idempotent rfl rfl run⟩

end Coercion

end ExprLang
