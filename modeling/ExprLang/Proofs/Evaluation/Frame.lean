import ExprLang.Proofs.Effects
import ExprLang.Proofs.Evaluation.Stepwise

/-!
# What every evaluation leaves of a context

An evaluation sets variables of its context and does nothing else to it. The scopes of the calls in
progress are those from before, since each call closes the scope that it opens, whether its body fails
or not; the declarations are the same; and a variable that is bound stays bound. This is so for every
resolver, since resolvers are shown a context and cannot change it.

**Key theorem**: `scopes_restored`, for expressions, templates and calls.
-/

namespace ExprLang

open Eval

variable {σ α β : Type}

namespace Context

/-- The second context is the first one after some variables have been set. -/
structure Extends (before after : Context) : Prop where
  scopes : after.scopes = before.scopes
  environment : after.environment = before.environment
  bound : ∀ name, (before.binding? name).isSome → (after.binding? name).isSome

namespace Extends

theorem refl (ctx : Context) : ctx.Extends ctx :=
  ⟨rfl, rfl, fun _ => id⟩

theorem trans {first second third : Context} (h : first.Extends second)
    (h' : second.Extends third) : first.Extends third :=
  ⟨h'.scopes.trans h.scopes, h'.environment.trans h.environment,
    fun name bound => h'.bound name (h.bound name bound)⟩

theorem setVariable (ctx : Context) (name : String) (v : Value) :
    ctx.Extends (ctx.setVariable name v) := by
  refine ⟨rfl, rfl, fun other bound => ?_⟩
  show (Bindings.get? (ctx.bindings.insert name v) other).isSome
  rw [Bindings.get?_insert]
  split
  · rfl
  · exact bound

/-- What happens within a call happens around it, once the scope of the call is closed. -/
theorem popScope {ctx after : Context} {scope : Bindings Value}
    (h : (ctx.pushScope scope).Extends after) : ctx.Extends after.popScope :=
  ⟨congrArg List.tail h.scopes, h.environment, h.bound⟩

end Extends

end Context

/-- Whatever comes of it, the evaluation does nothing to the context but set variables. -/
def Extending (m : EvalM σ α) : Prop :=
  ∀ s : Session σ, s.context.Extends (m s).2.context

namespace Extending

/-- An evaluation that leaves the context as it is. -/
theorem of_still {m : EvalM σ α} (still : ∀ s, (m s).2.context = s.context) : Extending m := by
  intro s
  rw [still]
  exact .refl _

theorem bind {m : EvalM σ α} {f : α → EvalM σ β} (hm : Extending m)
    (hf : ∀ a, Extending (f a)) : Extending (m >>= f) := by
  intro s
  have first := hm s
  rw [bind_apply]
  rcases run : m s with ⟨e | a, between⟩
  · rw [run] at first
    exact first
  · rw [run] at first
    exact first.trans (hf a between)

theorem callProperty {host : Host σ} {call : Invoker σ} (base : Value) (name : String)
    (args : List Value) (looked : Extending (property host base (.string name)))
    (calls : ∀ l args, Extending (call l args)) :
    Extending (callProperty host call base name args) := by
  intro s
  have first := looked s
  unfold Eval.callProperty
  rcases run : property host base (.string name) s with ⟨(e | _) | v, after⟩
  · rw [run] at first
    exact first
  · rw [run] at first
    exact first
  · rw [run] at first
    cases v with
    | lambda l => exact first.trans (calls l args after)
    | _ => exact first

theorem body {host : Host σ} {call : Invoker σ} (l : Lambda) (args : List Value)
    (evaluated : Extending (expr host call l.body)) : Extending (invokeWith host call l args) := by
  intro s
  unfold invokeWith
  split
  · exact .refl _
  · exact (evaluated { s with context := s.context.pushScope (scopeOf l args) }).popScope

/-- Nothing need be known of computations on the surroundings. -/
theorem resolving (host : Host σ) : Resolving host host fun _ _ _ => True where
  result _ := trivial
  bind _ _ := trivial
  alike := .refl host
  fresh := trivial
  offer _ _ _ := trivial
  equality _ _ _ _ := trivial
  application _ := .refl (fun _ => trivial) _
  flag _ := trivial
  watch _ := trivial

/-- Every step of an evaluation sets at most a variable. -/
theorem evaluative (host : Host σ) :
    Evaluative host host (fun _ _ _ => True) fun _ m _ => Extending m where
  surroundings := resolving host
  outcome _ := of_still fun _ => rfl
  bind := bind
  look looked := fun s => looked s.context s.ambient s.ambient s
  within _ := of_still fun _ => rfl
  variable_ name v := fun s => .setVariable s.context name v
  index _ _ := of_still fun _ => rfl
  callProperty base name args looked calls := callProperty base name args looked calls
  callAdapter _ _ _ := of_still fun _ => rfl
  body l args evaluated := body l args evaluated

end Extending

/-- Whatever comes of the evaluation of an expression or a template, or of the call of a lambda, the
scopes of the calls in progress are those from before; so they are at every depth of calls. -/
theorem scopes_restored (host : Host σ) (s : Session σ) :
    (∀ e : Expr, (e.eval host s).2.context.scopes = s.context.scopes) ∧
    (∀ t : Template, (t.eval host s).2.context.scopes = s.context.scopes) ∧
    (∀ (l : Lambda) args, (l.invoke host args s).2.context.scopes = s.context.scopes) ∧
    ∀ depth l args, (Eval.invoke host depth l args s).2.context.scopes = s.context.scopes := by
  have steps := Extending.evaluative host
  exact ⟨fun e => (steps.eval e s).scopes, fun t => (steps.template t s).scopes,
    fun l args => (steps.invoke callDepth l args s).scopes,
    fun depth l args => (steps.invoke depth l args s).scopes⟩

end ExprLang
