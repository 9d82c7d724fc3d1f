import ExprLang.Proofs.Evaluation.Compositional

/-!
# Relations that pass from steps to evaluations

An evaluation is put together from computations on the surroundings, looks at the context, changes of
variables, calls of lambdas, and the two places where it drops an error. A relation between the
evaluations of two applications that holds of these steps and passes on to sequences (`Evaluative`)
holds of every evaluation: of every expression (`Evaluative.eval`), every template
(`Evaluative.template`) and every call (`Evaluative.invoke`), since it is a
compositional relation of evaluations in one and the same context (`Evaluative.compositional`).
-/

namespace ExprLang

open Eval

variable {σ τ : Type}

/-- A relation between evaluations that holds of single steps and passes on to sequences of them,
where the computations on the surroundings are related by `Q`. -/
structure Evaluative (host : Host σ) (host' : Host τ)
    (Q : (α : Type) → HookM σ α → HookM τ α → Prop)
    (R : (α : Type) → EvalM σ α → EvalM τ α → Prop) : Prop where
  /-- What resolvers, coercions and comparisons do. -/
  surroundings : Resolving host host' Q
  /-- A result that depends on nothing. -/
  outcome : ∀ {α : Type} (r : Except (Halt EvalError) α), R α (fun s => (r, s)) fun s => (r, s)
  /-- One evaluation after another. -/
  bind : ∀ {α β : Type} {m : EvalM σ α} {m' : EvalM τ α} {f : α → EvalM σ β}
    {f' : α → EvalM τ β}, R α m m' → (∀ a, R β (f a) (f' a)) → R β (m >>= f) (m' >>= f')
  /-- A look at the context. -/
  look : ∀ {α : Type} {f : Session σ → EvalM σ α} {f' : Session τ → EvalM τ α},
    (∀ ctx ambient ambient', R α (f ⟨ctx, ambient⟩) (f' ⟨ctx, ambient'⟩)) →
      R α (get >>= f) (get >>= f')
  /-- A computation on the surroundings. -/
  within : ∀ {α : Type} {f : Context → HookM σ α} {f' : Context → HookM τ α},
    (∀ ctx, Q α (f ctx) (f' ctx)) → R α (within f) (within f')
  /-- A change of a variable. -/
  variable_ : ∀ name v, R Unit (modifyContext fun ctx => ctx.setVariable name v)
    (modifyContext fun ctx => ctx.setVariable name v)
  /-- A key as an index, after what it runs. -/
  index : ∀ base key, R (Option Nat) (index host base key) (index host' base key)
  /-- The call of a lambda among the properties of a value, after what it runs. -/
  callProperty : ∀ {call : Invoker σ} {call' : Invoker τ} (base : Value) (name : String)
    (args : List Value),
    R Value (property host base (.string name)) (property host' base (.string name)) →
      (∀ l args, R Value (call l args) (call' l args)) →
        R Value (callProperty host call base name args) (callProperty host' call' base name args)
  /-- The call of an adapter, after what it runs. -/
  callAdapter : ∀ {call : Invoker σ} {call' : Invoker τ} (a : Adapter) (args : List Value),
    (∀ l args, R Value (call l args) (call' l args)) →
      R Value (callAdapter call a args) (callAdapter call' a args)
  /-- The call of a lambda, after its body. -/
  body : ∀ {call : Invoker σ} {call' : Invoker τ} (l : Lambda) (args : List Value),
    R Value (expr host call l.body) (expr host' call' l.body) →
      R Value (invokeWith host call l args) (invokeWith host' call' l args)

/-- In one and the same context, what holds of the steps of coercions and comparisons and of what the
resolvers of the applications do holds of whatever evaluation asks of its surroundings. -/
theorem Resolving.surroundings {host : Host σ} {host' : Host τ}
    {Q : (α : Type) → HookM σ α → HookM τ α → Prop} (h : Resolving host host' Q) :
    Surroundings host host' Eq Q where
  toSequential := h.toSequential
  objects := h.alike.objects
  fresh := h.fresh
  lookup := by
    intro ctx ctx' α l same
    rw [← same]
    exact h.claim ctx fun _ _ all => all.ask l ctx
  resolveType name same := same ▸ h.resolveType _ name
  toBoolean v same := same ▸ h.toBoolean _ true v
  toNumber v same := same ▸ h.toNumber _ _ v
  toText v same := same ▸ h.toText _ v
  equals a b same := same ▸ h.equals _ a b
  compareValues a b same := same ▸ h.compareValues _ a b

namespace Evaluative

variable {host : Host σ} {host' : Host τ} {Q : (α : Type) → HookM σ α → HookM τ α → Prop}
  {R : (α : Type) → EvalM σ α → EvalM τ α → Prop} (h : Evaluative host host' Q R)
include h

/-- A relation that holds of the steps in one context is compositional. -/
theorem compositional : Compositional host host' Eq Q R where
  surroundings := h.surroundings.surroundings
  bindings := congrArg Context.bindings
  scopes := congrArg Context.scopes
  outcome := h.outcome
  bind := h.bind
  look looked := h.look fun ctx ambient ambient' => looked ⟨ctx, ambient⟩ ⟨ctx, ambient'⟩ rfl
  within run := h.within fun ctx => run ctx ctx rfl
  variable_ := h.variable_
  index := h.index
  callProperty := h.callProperty
  callAdapter := h.callAdapter
  body := h.body

/-- Every call of a lambda. -/
theorem invoke (depth : Nat) (l : Lambda) (args : List Value) :
    R Value (Eval.invoke host depth l args) (Eval.invoke host' depth l args) :=
  h.compositional.invoke depth l args

/-- Every expression. -/
theorem eval (e : Expr) : R Value (e.eval host) (e.eval host') :=
  h.compositional.eval e

/-- Every template. -/
theorem template (t : Template) : R Value (t.eval host) (t.eval host') :=
  h.compositional.template t

end Evaluative

end ExprLang
