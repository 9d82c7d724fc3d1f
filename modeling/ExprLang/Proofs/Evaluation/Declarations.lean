import ExprLang.Proofs.Comparison.Unclaimed
import ExprLang.Proofs.Evaluation.Frame

/-!
# Evaluations under different declarations

Two contexts may have the same variables and arguments, and different declarations in force
(`Context.SameBindings`). An adapter is called in the context that it keeps, which is the same in both
runs; so declarations that differ in the two contexts are those of these contexts alone, and there they
matter through the resolver, the names of types and the mode in which null counts as zero.

If nobody claims anything in either context (`Unclaimed`), the mode is all that is left. It is for null
only, and evaluation does not convert null unless to a type without null, which the mode does not concern:
a condition is a truth value that is not null, an index a number that is not null, and what is compared or
put in order is not null by then. So both evaluations come to the same (`Unclaimed.evaluations`).

**Key theorem**: `Unclaimed.evaluations`.
-/

namespace ExprLang

open Eval

variable {σ α : Type}

/-! ### Contexts and sessions -/

/-- The contexts have the same variables and arguments, and related declarations. -/
structure Context.SameBindings (E : Environment → Environment → Prop) (ctx ctx' : Context) : Prop where
  bindings : ctx.bindings = ctx'.bindings
  scopes : ctx.scopes = ctx'.scopes
  environment : E ctx.environment ctx'.environment

/-- The contexts of the sessions have the same variables and arguments, and their surroundings are
related. -/
structure Session.SameBindings (E : Environment → Environment → Prop) (A : Ambient σ → Ambient σ → Prop)
    (s s' : Session σ) : Prop where
  context : s.context.SameBindings E s'.context
  ambient : A s.ambient s'.ambient

namespace Context.SameBindings

variable {E : Environment → Environment → Prop} {ctx ctx' : Context} (h : ctx.SameBindings E ctx')
include h

theorem setVariable (name : String) (v : Value) :
    (ctx.setVariable name v).SameBindings E (ctx'.setVariable name v) :=
  ⟨congrArg (Bindings.insert · name v) h.bindings, h.scopes, h.environment⟩

theorem pushScope (scope : Bindings Value) :
    (ctx.pushScope scope).SameBindings E (ctx'.pushScope scope) :=
  ⟨h.bindings, congrArg (scope :: ·) h.scopes, h.environment⟩

theorem popScope : ctx.popScope.SameBindings E ctx'.popScope :=
  ⟨h.bindings, congrArg List.tail h.scopes, h.environment⟩

/-- What tells the first context from the second one are the declarations that it has had from the
start. -/
theorem eq_declaring {before : Context} (extended : before.Extends ctx) :
    ctx = { ctx' with environment := before.environment } := by
  rw [← h.bindings, ← h.scopes, ← extended.environment]

end Context.SameBindings

/-! ### The same outcomes -/

namespace Session.SameBindings

variable {host : Host σ} {E : Environment → Environment → Prop} {A : Ambient σ → Ambient σ → Prop}

/-- A computation on the surroundings. -/
theorem within {f f' : Context → HookM σ α}
    (run : ∀ ctx ctx', ctx.SameBindings E ctx' → Matching A Eq (f ctx) (f' ctx')) :
    Matching (Session.SameBindings E A) Eq (Eval.within f) (Eval.within f') := by
  intro s s' start
  obtain ⟨outcomes, after⟩ := run _ _ start.context start.ambient
  exact ⟨outcomes.mapError Halt.error, start.context, after⟩

theorem index (congruence : Congruence host A) {base key : Value}
    (number : ∀ ctx ctx', ctx.SameBindings E ctx' → Matching A Eq
      (Coercion.toNumber host ctx ⟨.long, true⟩ key) (Coercion.toNumber host ctx' ⟨.long, true⟩ key)) :
    Matching (Session.SameBindings E A) Eq (Eval.index host base key) (Eval.index host base key) := by
  refine within fun ctx ctx' contexts s s' start => ?_
  obtain ⟨outcomes, after⟩ := number ctx ctx' contexts start
  generalize Coercion.toNumber host ctx ⟨.long, true⟩ key s = run,
    Coercion.toNumber host ctx' ⟨.long, true⟩ key s' = run' at outcomes after ⊢
  obtain ⟨r, left⟩ := run
  obtain ⟨r', left'⟩ := run'
  dsimp only at outcomes after
  cases outcomes with
  | error e => exact ⟨.error _, congruence.note _ after⟩
  | @ok number _ same =>
    rw [← same]
    cases number with
    | long n => exact ⟨.ok rfl, after⟩
    | _ => exact ⟨.error _, after⟩

theorem callProperty (congruence : Congruence host A) {call call' : Invoker σ} {base : Value}
    {name : String} {args : List Value}
    (looked : Matching (Session.SameBindings E A) Eq (property host base (.string name))
      (property host base (.string name)))
    (calls : ∀ l args, Matching (Session.SameBindings E A) Eq (call l args) (call' l args)) :
    Matching (Session.SameBindings E A) Eq (Eval.callProperty host call base name args)
      (Eval.callProperty host call' base name args) := by
  intro s s' start
  obtain ⟨outcomes, after⟩ := looked start
  unfold Eval.callProperty
  generalize property host base (.string name) s = run,
    property host base (.string name) s' = run' at outcomes after ⊢
  obtain ⟨r, left⟩ := run
  obtain ⟨r', left'⟩ := run'
  dsimp only at outcomes after
  cases outcomes with
  | error e =>
    cases e with
    | exhausted => exact ⟨.error _, after⟩
    | error e => exact ⟨.error _, after.context, congruence.note _ after.ambient⟩
  | @ok v _ same =>
    rw [← same]
    cases v with
    | lambda l => exact calls l args after
    | _ => exact ⟨.error _, after⟩

/-- Adapters are called in the contexts that they keep, which are the same in both runs. -/
theorem callAdapter (same : ∀ environment, E environment environment) (congruence : Congruence host A)
    {call call' : Invoker σ} (a : Adapter) (args : List Value)
    (calls : ∀ l args, Matching (Session.SameBindings E A) Eq (call l args) (call' l args)) :
    Matching (Session.SameBindings E A) Eq (Eval.callAdapter call a args)
      (Eval.callAdapter call' a args) := by
  intro s s' start
  have kept : Session.SameBindings E A ⟨a.bound.toContext, { s.ambient with resolved := false }⟩
      ⟨a.bound.toContext, { s'.ambient with resolved := false }⟩ :=
    ⟨⟨rfl, rfl, same _⟩, congruence.setResolved false start.ambient⟩
  obtain ⟨outcomes, after⟩ := calls a.lambda args kept
  refine ⟨outcomes, start.context, ?_⟩
  have back := congruence.setResolved s.ambient.resolved after.ambient
  unfold Eval.callAdapter
  rw [← congruence.resolved start.ambient]
  exact back

theorem body {call call' : Invoker σ} (l : Lambda) (args : List Value)
    (evaluated : Matching (Session.SameBindings E A) Eq (expr host call l.body)
      (expr host call' l.body)) :
    Matching (Session.SameBindings E A) Eq (invokeWith host call l args)
      (invokeWith host call' l args) := by
  unfold invokeWith
  split
  · exact .throw _
  · intro s s' start
    obtain ⟨outcomes, after⟩ := evaluated
      (⟨start.context.pushScope (scopeOf l args), start.ambient⟩ : Session.SameBindings E A
        { s with context := s.context.pushScope (scopeOf l args) }
        { s' with context := s'.context.pushScope (scopeOf l args) })
    exact ⟨outcomes, after.context.popScope, after.ambient⟩

end Session.SameBindings

/-- Evaluations in contexts with the same variables and arguments come to the same if whatever they ask
of their surroundings does. -/
theorem Compositional.matching {host : Host σ} {E : Environment → Environment → Prop}
    {A : Ambient σ → Ambient σ → Prop} (same : ∀ environment, E environment environment)
    (congruence : Congruence host A)
    (surroundings : Surroundings host host (Context.SameBindings E) fun _ m m' => Matching A Eq m m') :
    Compositional host host (Context.SameBindings E) (fun _ m m' => Matching A Eq m m')
      fun _ m m' => Matching (Session.SameBindings E A) Eq m m' where
  surroundings := surroundings
  bindings := Context.SameBindings.bindings
  scopes := Context.SameBindings.scopes
  outcome _ := .outcome (.of_eq rfl)
  bind := Matching.bind_eq
  look looked := fun s s' start => looked s s' start.context start
  within := Session.SameBindings.within
  variable_ name v := fun _ _ start => ⟨.ok rfl, start.context.setVariable name v, start.ambient⟩
  index _ key := Session.SameBindings.index congruence fun _ _ => surroundings.toNumber key
  callProperty _ _ _ := Session.SameBindings.callProperty congruence
  callAdapter := Session.SameBindings.callAdapter same congruence
  body := Session.SameBindings.body

/-! ### Contexts in which nobody claims anything -/

/-- Nobody claims a conversion or a lookup in either context, and names of types stand for the same
types. -/
structure Unclaimed (host : Host σ) (A : Ambient σ → Ambient σ → Prop) (ctx ctx' : Context) :
    Prop where
  offer : ∀ v t, Matching A Neither (ctx.offerConversion host v t) (ctx'.offerConversion host v t)
  lookup : ∀ {α : Type} (l : Lookup α), Matching A Neither
    (ctx.claim host fun r => l.ask (r.hooks host) ctx)
    (ctx'.claim host fun r => l.ask (r.hooks host) ctx')
  resolveType : ∀ name, Matching A Eq (ctx.resolveType host name) (ctx'.resolveType host name)

/-- The declarations are the same, or differ in a certain way. -/
def Environment.SameOr (D : Environment → Environment → Prop) (environment environment' : Environment) :
    Prop :=
  environment = environment' ∨ D environment environment'

/-- Contexts with the same variables and arguments are the same, or differ in their declarations. -/
theorem Context.SameBindings.same_or {D : Environment → Environment → Prop} {ctx ctx' : Context}
    (h : ctx.SameBindings (Environment.SameOr D) ctx') : ctx = ctx' ∨ ctx.SameBindings D ctx' := by
  obtain ⟨bindings, scopes, same | differing⟩ := h
  · obtain ⟨b, sc, environment⟩ := ctx
    obtain ⟨b', sc', environment'⟩ := ctx'
    dsimp only at bindings scopes same
    rw [bindings, scopes, same]
    exact .inl rfl
  · exact .inr ⟨bindings, scopes, differing⟩

namespace Unclaimed

variable {host : Host σ} {A : Ambient σ → Ambient σ → Prop} {D : Environment → Environment → Prop}

/-- Where the contexts are the same, resolvers do the same; where they differ, nobody claims anything. -/
theorem surroundings (congruence : Congruence host A)
    (application : ∀ id, (host.hooks id).Related (fun _ m m' => Matching A Eq m m') (host.hooks id))
    (unclaimed : ∀ {ctx ctx' : Context}, ctx.SameBindings D ctx' → Unclaimed host A ctx ctx') :
    Surroundings host host (Context.SameBindings (Environment.SameOr D))
      fun _ m m' => Matching A Eq m m' := by
  have steps := (congruence.resolving application).surroundings
  have either {β : Type} (f : Context → HookM σ β) {ctx ctx' : Context}
      (same : Matching A Eq (f ctx) (f ctx))
      (differing : Unclaimed host A ctx ctx' → Matching A Eq (f ctx) (f ctx'))
      (contexts : ctx.SameBindings (Environment.SameOr D) ctx') : Matching A Eq (f ctx) (f ctx') := by
    rcases contexts.same_or with rfl | contexts
    · exact same
    · exact differing (unclaimed contexts)
  exact {
    toSequential := steps.toSequential
    objects := rfl
    fresh := steps.fresh
    lookup := fun l => either (fun ctx => ctx.claim host fun r => l.ask (r.hooks host) ctx)
      (steps.lookup l rfl) fun h => (h.lookup l).imp fun _ _ => Neither.eq
    resolveType := fun name => either (·.resolveType host name) (steps.resolveType name rfl)
      fun h => h.resolveType name
    toBoolean := fun v => either (Coercion.toBoolean host · true v) (steps.toBoolean v rfl)
      fun h => .toBoolean h.offer (.inl rfl)
    toNumber := fun v => either (Coercion.toNumber host · ⟨.long, true⟩ v) (steps.toNumber v rfl)
      fun h => .toNumber h.offer (.inl rfl)
    toText := fun v => either (Coercion.toText host · v) (steps.toText v rfl)
      fun h => .toText h.offer v
    equals := fun a b => either (fun ctx => monadLift (Comparison.equals host ctx a b))
      (steps.equals a b rfl) fun h => (Matching.tryEquals h.offer a b).equals congruence.note
    compareValues := fun a b => either (Comparison.compareValues host · a b)
      (steps.compareValues a b rfl) fun h => .compareValues h.offer congruence.note a b }

/-- If nobody claims anything in contexts with different declarations, and the application's own
resolvers do the same from related surroundings, then evaluations come to the same. -/
theorem evaluations (congruence : Congruence host A)
    (application : ∀ id, (host.hooks id).Related (fun _ m m' => Matching A Eq m m') (host.hooks id))
    (unclaimed : ∀ {ctx ctx' : Context}, ctx.SameBindings D ctx' → Unclaimed host A ctx ctx') :
    Compositional host host (Context.SameBindings (Environment.SameOr D))
      (fun _ m m' => Matching A Eq m m')
      fun _ m m' => Matching (Session.SameBindings (Environment.SameOr D) A) Eq m m' :=
  .matching (fun _ => .inl rfl) congruence (surroundings congruence application unclaimed)

end Unclaimed

end ExprLang
