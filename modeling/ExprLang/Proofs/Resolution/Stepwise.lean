import ExprLang.Proofs.Comparison.Scale
import Mathlib.Data.List.Forall2

/-!
# Relations that pass from steps to coercions and comparisons

Coercions and comparisons are put together from few kinds of steps: results that depend on nothing,
fresh numbers, offers of a conversion to the resolver, and tests of equality, which drop the errors
of what they run. A relation between computations of two applications that holds of these steps and
passes on to sequences (`Stepwise`) holds of every coercion and every comparison, whatever the
resolvers do; the applications may differ in resolvers and logs (`Host.SameButResolvers`). This
module goes through the rules of the language once.

A property of computations is a relation that does not look at the second application: what is said
about the flag and about failing requests is read off in this way.
-/

namespace ExprLang

variable {σ τ : Type}

/-! ### Applications that differ in resolvers and logs -/

/-- The applications have the same objects, clocks, modes and editors. -/
structure Host.SameButResolvers (host : Host σ) (host' : Host τ) : Prop where
  objects : host.objects = host'.objects
  now : host.now = host'.now
  coerceToZero : host.coerceToZero = host'.coerceToZero
  edit : host.edit = host'.edit

namespace Host.SameButResolvers

theorem refl (host : Host σ) : host.SameButResolvers host :=
  ⟨rfl, rfl, rfl, rfl⟩

variable {host : Host σ} {host' : Host τ} (h : host.SameButResolvers host') (ctx : Context)
include h

theorem zeroMode : ctx.zeroMode host = ctx.zeroMode host' := by
  rw [Context.zeroMode, Context.zeroMode, h.coerceToZero]

theorem keepsNull (t : ValueType) :
    Coercion.keepsNull host ctx t = Coercion.keepsNull host' ctx t := by
  rw [Coercion.keepsNull, Coercion.keepsNull, h.zeroMode]

theorem editText (t : ValueType) (s : String) :
    Coercion.editText host ctx t s = Coercion.editText host' ctx t s := by
  rw [Coercion.editText, Coercion.editText, h.edit]

theorem admitClaim (t : ValueType) (claimed : Value) :
    Coercion.admitClaim host ctx t claimed = Coercion.admitClaim host' ctx t claimed := by
  unfold Coercion.admitClaim
  rw [h.zeroMode]

end Host.SameButResolvers

/-! ### Steps -/

/-- A relation between computations that holds of equal results and passes on to sequences. -/
structure Sequential (R : (α : Type) → HookM σ α → HookM τ α → Prop) : Prop where
  /-- A result that depends on nothing. -/
  result : ∀ {α : Type} (r : Except EvalError α), R α (HookM.ofExcept r) (HookM.ofExcept r)
  /-- One computation after another. -/
  bind : ∀ {α β : Type} {m : HookM σ α} {m' : HookM τ α} {f : α → HookM σ β}
    {f' : α → HookM τ β},
    R α m m' → (∀ a, R β (f a) (f' a)) → R β (m >>= f) (m' >>= f')

/-- A relation between the computations of two applications that holds of the steps of coercions and
comparisons and passes on to sequences of them. -/
structure Stepwise (host : Host σ) (host' : Host τ)
    (R : (α : Type) → HookM σ α → HookM τ α → Prop) : Prop extends Sequential R where
  /-- The applications differ in resolvers and logs only. -/
  alike : host.SameButResolvers host'
  /-- A number for a value with an identity. -/
  fresh : R Nat HookM.freshId HookM.freshId
  /-- An offer to the resolver. -/
  offer : ∀ (ctx : Context) (v : Value) (t : ValueType),
    R (Option Value) (ctx.offerConversion host v t) (ctx.offerConversion host' v t)
  /-- A test of equality, after what it runs. -/
  equality : ∀ (ctx : Context) (a b : Value),
    R Bool (Comparison.tryEquals host ctx a b) (Comparison.tryEquals host' ctx a b) →
      R Bool (monadLift (Comparison.equals host ctx a b))
        (monadLift (Comparison.equals host' ctx a b))

namespace Sequential

variable {R : (α : Type) → HookM σ α → HookM τ α → Prop} (h : Sequential R)
include h

theorem pure {α : Type} (a : α) : R α (Pure.pure a) (Pure.pure a) :=
  h.result (.ok a)

theorem throw {α : Type} (e : EvalError) : R α (MonadExcept.throw e) (MonadExcept.throw e) :=
  h.result (.error e)

theorem mapM {α β : Type} {f : α → HookM σ β} {f' : α → HookM τ β}
    (hf : ∀ a, R β (f a) (f' a)) (as : List α) : R (List β) (as.mapM f) (as.mapM f') := by
  induction as with
  | nil => exact h.pure []
  | cons a as ih =>
    rw [List.mapM_cons, List.mapM_cons]
    exact h.bind (hf a) fun b => h.bind ih fun bs => h.pure (b :: bs)

theorem anyM {α : Type} {f : α → HookM σ Bool} {f' : α → HookM τ Bool}
    (hf : ∀ a, R Bool (f a) (f' a)) (as : List α) : R Bool (as.anyM f) (as.anyM f') := by
  induction as with
  | nil => exact h.pure false
  | cons a as ih =>
    rw [List.anyM, List.anyM]
    refine h.bind (hf a) fun found => ?_
    cases found with
    | false => exact ih
    | true => exact h.pure true

theorem firstSome {α : Type} {asks : List (HookM σ (Option α))}
    {asks' : List (HookM τ (Option α))} (each : List.Forall₂ (R (Option α)) asks asks') :
    R (Option α) (.firstSome asks) (.firstSome asks') := by
  induction each with
  | nil => exact h.pure none
  | cons first _ ih =>
    refine h.bind first fun answer => ?_
    cases answer with
    | none => exact ih
    | some a => exact h.pure (some a)

end Sequential

namespace Stepwise

variable {host : Host σ} {host' : Host τ} {R : (α : Type) → HookM σ α → HookM τ α → Prop}
  (h : Stepwise host host' R)
include h

/-! ### Coercions -/

section Coercion

variable (ctx : Context)

theorem adapt (l : Lambda) (i : Interface) :
    R Value (Coercion.adapt ctx l i) (Coercion.adapt ctx l i) :=
  h.bind h.fresh fun _ => h.pure _

/-- One conversion, where those of the elements of an array are known to be related. -/
theorem toType_of_elements (t : ValueType) (v : Value)
    (elements : ∀ element, t = .array element →
      ∀ v, R Value (Coercion.toType host ctx element v) (Coercion.toType host' ctx element v)) :
    R Value (Coercion.toType host ctx t v) (Coercion.toType host' ctx t v) := by
  rw [Coercion.toType.eq_def host, Coercion.toType.eq_def host']
  simp only [h.alike.admitClaim, h.alike.keepsNull, h.alike.zeroMode, h.alike.now,
    h.alike.editText]
  refine h.bind (h.offer ctx v t) fun claimed => ?_
  split
  · exact h.result _
  · split
    · exact h.pure _
    split
    · exact h.pure _
    split
    -- scalar types
    · exact h.bind (h.result _) fun _ => h.pure _
    · exact h.result _
    · exact h.bind (h.result _) fun _ => h.pure _
    · exact h.bind (h.result _) fun _ => h.pure _
    · exact h.bind (h.result _) fun _ => h.pure _
    -- all other types
    · split
      · exact h.pure _
      · exact h.bind (h.result _) fun _ => h.pure _
      · exact h.bind (h.result _) fun _ => h.pure _
      · exact h.result _
      · exact h.pure _
      · exact h.bind (h.toSequential.mapM (elements _ rfl) _) fun _ => h.pure _
      · split
        · exact h.adapt ctx _ _
        · exact h.throw _
      · exact h.throw _

theorem toType (t : ValueType) (v : Value) :
    R Value (Coercion.toType host ctx t v) (Coercion.toType host' ctx t v) := by
  induction t generalizing v with
  | array element ih =>
    refine h.toType_of_elements ctx _ v fun inner same => ?_
    obtain rfl : element = inner := by simpa using same
    exact ih
  | _ => exact h.toType_of_elements ctx _ v fun _ same => by simp at same

theorem toText (v : Value) :
    R String (Coercion.toText host ctx v) (Coercion.toText host' ctx v) := by
  refine h.bind (h.offer ctx v _) fun claimed => ?_
  split
  · exact h.pure _
  · exact h.pure _
  · exact h.throw _
  · exact h.result _

theorem toNumber (t : NumberType) (v : Value) :
    R Value (Coercion.toNumber host ctx t v) (Coercion.toNumber host' ctx t v) := by
  refine h.bind (h.offer ctx v _) fun claimed => ?_
  rw [h.alike.zeroMode]
  split
  · rw [h.alike.admitClaim]
    exact h.result _
  · exact h.result _

theorem toCharacter (v : Value) :
    R Char (Coercion.toCharacter host ctx v) (Coercion.toCharacter host' ctx v) := by
  refine h.bind (h.offer ctx v _) fun claimed => ?_
  split
  · exact h.pure _
  · exact h.throw _
  · exact h.result _

theorem toBoolean (primitive : Bool) (v : Value) :
    R (Option Bool) (Coercion.toBoolean host ctx primitive v)
      (Coercion.toBoolean host' ctx primitive v) := by
  refine h.bind (h.offer ctx v _) fun claimed => ?_
  split
  · exact h.pure _
  · rw [h.alike.admitClaim]
    refine h.bind (h.result _) fun admitted => ?_
    split <;> exact h.pure _
  · exact h.throw _
  · rw [h.alike.zeroMode]
    exact h.result _

theorem toEnum (t : EnumType) (v : Value) :
    R (Option EnumMember) (Coercion.toEnum host ctx t v) (Coercion.toEnum host' ctx t v) := by
  refine h.bind (h.offer ctx v _) fun claimed => ?_
  split
  · exact h.pure _
  · exact h.pure _
  · exact h.throw _
  · exact h.result _

theorem toInstant (v : Value) :
    R (Option Time.Instant) (Coercion.toInstant host ctx v) (Coercion.toInstant host' ctx v) := by
  refine h.bind (h.offer ctx v _) fun claimed => ?_
  split
  · exact h.pure _
  · exact h.pure _
  · exact h.throw _
  · split
    · exact h.pure _
    · rw [h.alike.now]
      exact h.bind (h.result _) fun _ => h.pure _

end Coercion

/-! ### Comparisons -/

section Comparison

variable (ctx : Context) (a b : Value)

theorem read (basis : Comparison.Basis) (v : Value) :
    R basis.Point (basis.read host ctx v) (basis.read host' ctx v) := by
  refine h.bind (h.toNumber ctx _ v) fun w => ?_
  split
  · exact h.pure _
  · exact h.throw _

theorem compareOn (basis : Comparison.Basis) :
    R Ordering (Comparison.compareOn host ctx basis a b)
      (Comparison.compareOn host' ctx basis a b) := by
  rw [Comparison.compareOn_eq_read, Comparison.compareOn_eq_read]
  exact h.bind (h.read ctx basis a) fun _ => h.bind (h.read ctx basis b) fun _ => h.pure _

theorem asInstant (v : Value) :
    R Time.Instant (Comparison.asInstant host ctx v) (Comparison.asInstant host' ctx v) := by
  refine h.bind (h.toInstant ctx v) fun time => ?_
  split
  · exact h.pure _
  · exact h.throw _

theorem compareInstants :
    R Ordering (Comparison.compareInstants host ctx a b)
      (Comparison.compareInstants host' ctx a b) :=
  h.bind (h.asInstant ctx a) fun _ => h.bind (h.asInstant ctx b) fun _ => h.pure _

theorem compareTexts :
    R Ordering (Comparison.compareTexts host ctx a b) (Comparison.compareTexts host' ctx a b) :=
  h.bind (h.toText ctx a) fun _ => h.bind (h.toText ctx b) fun _ => h.pure _

theorem equalsAcross :
    R Bool (Comparison.equalsAcross host ctx a b) (Comparison.equalsAcross host' ctx a b) := by
  unfold Comparison.equalsAcross
  split
  · exact h.bind (h.compareOn ctx a b _) fun _ => h.pure _
  · split
    · exact h.bind (h.toBoolean ctx _ a) fun _ => h.bind (h.toBoolean ctx _ b) fun _ => h.pure _
    · split
      · exact h.bind (h.toEnum ctx _ _) fun _ => h.pure _
      · exact h.bind (h.toEnum ctx _ _) fun _ => h.pure _
      · split
        · exact h.bind (h.compareInstants ctx _ _) fun _ => h.pure _
        · split
          · exact h.bind (h.compareTexts ctx _ _) fun _ => h.pure _
          · exact h.pure _

theorem tryEquals :
    R Bool (Comparison.tryEquals host ctx a b) (Comparison.tryEquals host' ctx a b) := by
  unfold Comparison.tryEquals
  rw [h.alike.objects]
  split
  · exact h.pure _
  · split
    · exact h.pure _
    · exact h.equalsAcross ctx a b

theorem equals :
    R Bool (monadLift (Comparison.equals host ctx a b))
      (monadLift (Comparison.equals host' ctx a b)) :=
  h.equality ctx a b (h.tryEquals ctx a b)

theorem compareAcross :
    R Ordering (Comparison.compareAcross host ctx a b)
      (Comparison.compareAcross host' ctx a b) := by
  unfold Comparison.compareAcross
  rw [h.alike.objects]
  split
  · exact h.compareOn ctx a b _
  · split
    · exact h.compareInstants ctx a b
    split
    · exact h.compareTexts ctx a b
    split
    · exact h.result _
    split
    · exact h.result _
    · exact h.throw _

theorem compareValues :
    R Ordering (Comparison.compareValues host ctx a b)
      (Comparison.compareValues host' ctx a b) := by
  refine h.bind (h.equals ctx a b) fun equal => ?_
  split
  · exact h.pure _
  · split
    · exact h.throw _
    · exact h.compareAcross ctx a b

end Comparison

end Stepwise

end ExprLang
