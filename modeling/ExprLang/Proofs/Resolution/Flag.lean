import ExprLang.Proofs.Effects
import ExprLang.Proofs.Resolution.Stepwise

/-!
# The flag of resolved requests

Resolvers may set the flag as they like, and may coerce values on the same context while they answer.
An offer of a conversion puts the flag back as it was, and nothing else in a coercion or a comparison
touches it: so all of them leave the flag alone (`conversions_keep_flag`), with a result and with an
error.
-/

namespace ExprLang

variable {σ α β : Type}

/-- The computation leaves the flag as it was, whether it fails or not. -/
def KeepsFlag (m : HookM σ α) : Prop :=
  ∀ s, (m s).2.resolved = s.resolved

namespace KeepsFlag

theorem ofExcept (r : Except EvalError α) : KeepsFlag (σ := σ) (HookM.ofExcept r) :=
  fun _ => rfl

theorem bind {m : HookM σ α} {f : α → HookM σ β} (hm : KeepsFlag m)
    (hf : ∀ a, KeepsFlag (f a)) : KeepsFlag (m >>= f) := by
  intro s
  rw [bind_apply]
  rcases first : m s with ⟨e | a, after⟩
  · calc after.resolved = (m s).2.resolved := by rw [first]
      _ = s.resolved := hm s
  · calc (f a after).2.resolved = after.resolved := hf a after
      _ = (m s).2.resolved := by rw [first]
      _ = s.resolved := hm s

theorem freshId : KeepsFlag (HookM.freshId (σ := σ)) :=
  fun _ => rfl

/-- Whatever a computation does to the flag, it is put back. -/
theorem keepingFlag (body : HookM σ α) : KeepsFlag (.keepingFlag body) :=
  fun _ => rfl

theorem offerConversion (host : Host σ) (ctx : Context) (v : Value) (t : ValueType) :
    KeepsFlag (ctx.offerConversion host v t) := by
  unfold Context.offerConversion
  split
  · exact ofExcept (.ok none)
  · exact keepingFlag _

/-- A test of equality leaves the flag as it was if what it runs does: the error that it drops
concerns the application's log alone. -/
theorem equals {host : Host σ} {ctx : Context} {a b : Value}
    (h : KeepsFlag (Comparison.tryEquals host ctx a b)) (s : Ambient σ) :
    (Comparison.equals host ctx a b s).2.resolved = s.resolved := by
  have kept := h s
  unfold Comparison.equals
  rcases run : Comparison.tryEquals host ctx a b s with ⟨e | equal, after⟩ <;>
    simpa [run, Host.note] using kept

/-- The flag is kept by every step of coercions and comparisons. -/
theorem stepwise (host : Host σ) : Stepwise host host fun _ m _ => KeepsFlag m where
  result := ofExcept
  bind := bind
  alike := .refl host
  fresh := freshId
  offer := offerConversion host
  equality _ _ _ h := equals h

end KeepsFlag

/-- Offers, coercions and comparisons leave the flag as it was, whether they fail or not, and
whatever the resolver does. -/
theorem conversions_keep_flag (host : Host σ) (ctx : Context) :
    (∀ v t, KeepsFlag (ctx.offerConversion host v t)) ∧
    (∀ t v, KeepsFlag (Coercion.toType host ctx t v)) ∧
    (∀ v, KeepsFlag (Coercion.toText host ctx v)) ∧
    (∀ t v, KeepsFlag (Coercion.toNumber host ctx t v)) ∧
    (∀ v, KeepsFlag (Coercion.toCharacter host ctx v)) ∧
    (∀ primitive v, KeepsFlag (Coercion.toBoolean host ctx primitive v)) ∧
    (∀ t v, KeepsFlag (Coercion.toEnum host ctx t v)) ∧
    (∀ v, KeepsFlag (Coercion.toInstant host ctx v)) ∧
    (∀ a b, KeepsFlag (Comparison.compareValues host ctx a b)) ∧
    (∀ a b s, (Comparison.equals host ctx a b s).2.resolved = s.resolved) := by
  have steps := KeepsFlag.stepwise host
  refine ⟨steps.offer ctx, steps.toType ctx, steps.toText ctx, steps.toNumber ctx,
    steps.toCharacter ctx, steps.toBoolean ctx, steps.toEnum ctx, steps.toInstant ctx,
    steps.compareValues ctx, ?_⟩
  intro a b s
  exact KeepsFlag.equals (steps.tryEquals ctx a b) s

end ExprLang
