import ExprLang.Proofs.Comparison.Outcome
import ExprLang.Proofs.Evaluation.Declarations

/-!
# Evaluation in either zero mode

A context says whether null and empty text count as zero, or leaves it to the process. Without a resolver
an evaluation does not depend on it: conditions are truth values and indices are numbers that are not
null in either mode, and comparisons do not convert null. Calls of adapters take place in the contexts
that the adapters keep, with a mode of their own. It takes a conversion of the result to see the mode.

**Key theorem**: `eval_inMode`.
-/

namespace ExprLang

variable {σ α : Type}

/-- The declarations with another mode. -/
def Environment.inMode (environment : Environment) (mode : Option Bool) : Environment :=
  { environment with coerceToZero := mode }

/-- The context with another mode. -/
def Context.inMode (ctx : Context) (mode : Option Bool) : Context :=
  { ctx with environment := ctx.environment.inMode mode }

/-- The session with another mode in its context. -/
def Session.inMode (s : Session σ) (mode : Option Bool) : Session σ :=
  { s with context := s.context.inMode mode }

/-- There is no resolver, and the first declarations differ in their mode only. -/
def Environment.InMode (mode : Option Bool) (environment environment' : Environment) : Prop :=
  environment'.resolver = none ∧ environment = environment'.inMode mode

/-- Without a resolver nobody claims anything, and the names of types have nothing to do with the
mode. -/
theorem Unclaimed.of_inMode {host : Host σ} {mode : Option Bool} {ctx ctx' : Context}
    (h : ctx.SameBindings (Environment.InMode mode) ctx') : Unclaimed host Eq ctx ctx' := by
  obtain ⟨free', inMode⟩ := h.environment
  have free : ctx.environment.resolver = none := by rw [inMode]; exact free'
  refine ⟨fun v t s s' same => ?_, fun l s s' same => ?_, fun name s s' same => ?_⟩
  · rw [Comparison.offerConversion_of_free free, Comparison.offerConversion_of_free free']
    exact ⟨.ok ⟨rfl, rfl⟩, same⟩
  · rw [Context.claim_of_free free, Context.claim_of_free free', same]
    exact ⟨.ok ⟨rfl, rfl⟩, rfl⟩
  · have types : ctx.resolveType host name = ctx'.resolveType host name := by
      unfold Context.resolveType
      rw [free, free', inMode]
      rfl
    rw [types, same]
    exact ⟨.of_eq rfl, rfl⟩

/-- The same expression or template without a resolver comes to the same value or error in every mode,
and to sessions that differ in the mode only. -/
theorem eval_inMode (host : Host σ) {ctx : Context} (free : ctx.environment.resolver = none)
    (mode : Option Bool) (s : Ambient σ) :
    (∀ e : Expr, e.eval host ⟨ctx.inMode mode, s⟩ =
      ((e.eval host ⟨ctx, s⟩).1, (e.eval host ⟨ctx, s⟩).2.inMode mode)) ∧
    ∀ t : Template, t.eval host ⟨ctx.inMode mode, s⟩ =
      ((t.eval host ⟨ctx, s⟩).1, (t.eval host ⟨ctx, s⟩).2.inMode mode) := by
  have steps : Compositional host host _ _ _ := Unclaimed.evaluations (D := Environment.InMode mode)
    (.eq host) (fun id => .refl .refl (host.hooks id)) .of_inMode
  have same (m : EvalM σ Value) (extending : Extending m)
      (matching :
        Matching (Session.SameBindings (Environment.SameOr (Environment.InMode mode)) Eq) Eq m m) :
      m ⟨ctx.inMode mode, s⟩ = ((m ⟨ctx, s⟩).1, (m ⟨ctx, s⟩).2.inMode mode) := by
    obtain ⟨outcomes, after⟩ := matching
      (⟨⟨rfl, rfl, .inr ⟨free, rfl⟩⟩, rfl⟩ : Session.SameBindings (Environment.SameOr _) Eq
        ⟨ctx.inMode mode, s⟩ ⟨ctx, s⟩)
    have context : (m ⟨ctx.inMode mode, s⟩).2.context = (m ⟨ctx, s⟩).2.context.inMode mode :=
      calc (m ⟨ctx.inMode mode, s⟩).2.context
          = { (m ⟨ctx, s⟩).2.context with environment := ctx.environment.inMode mode } :=
            after.context.eq_declaring (extending ⟨ctx.inMode mode, s⟩)
        _ = (m ⟨ctx, s⟩).2.context.inMode mode := by
          rw [Context.inMode, (extending ⟨ctx, s⟩).environment]
    calc m ⟨ctx.inMode mode, s⟩
        = ((m ⟨ctx.inMode mode, s⟩).1,
            ⟨(m ⟨ctx.inMode mode, s⟩).2.context, (m ⟨ctx.inMode mode, s⟩).2.ambient⟩) := rfl
      _ = ((m ⟨ctx, s⟩).1, (m ⟨ctx, s⟩).2.inMode mode) := by
        rw [outcomes.eq, context, after.ambient]
        rfl
  exact ⟨fun e => same _ ((Extending.evaluative host).eval e) (steps.eval e),
    fun t => same _ ((Extending.evaluative host).template t) (steps.template t)⟩

/-- Null as a condition and as an index is false and zero in either mode; as a number that may be null it
is zero in one mode and null in the other. -/
theorem eval_inMode_null :
    let host := Host.plain false
    let ctx : Context := ⟨[("n", .null), ("l", .list [.long 7])], [], .empty⟩
    let e : Expr := .conditional (.identifier "n") (.integer 1)
      (.access (.identifier "l") (.identifier "n"))
    let s : Ambient Unit := ⟨false, 0, ()⟩
    let number : NumberType := ⟨.integer, false⟩
    ctx.environment.resolver = none ∧
      (e.eval host ⟨ctx.inMode (some true), s⟩).1 = .ok (.long 7) ∧
      (e.eval host ⟨ctx.inMode (some false), s⟩).1 = .ok (.long 7) ∧
      (Coercion.toNumber host (ctx.inMode (some true)) number .null s).1 = .ok (.integer 0) ∧
      (Coercion.toNumber host (ctx.inMode (some false)) number .null s).1 = .ok .null := by
  intro host ctx e s number
  have free : ctx.environment.resolver = none := rfl
  have run : (e.eval host ⟨ctx, s⟩).1 = .ok (.long 7) := rfl
  have inMode (mode : Option Bool) : (e.eval host ⟨ctx.inMode mode, s⟩).1 = .ok (.long 7) :=
    (congrArg Prod.fst ((eval_inMode host free mode s).1 e)).trans run
  exact ⟨free, inMode (some true), inMode (some false), rfl, rfl⟩

end ExprLang
