import ExprLang.Proofs.Comparison.Outcome
import ExprLang.Proofs.Evaluation.Declarations

/-!
# Resolvers that decline everything

A resolver that answers no request and leaves the flag alone is transparent: an evaluation that asks it
comes to what it comes to without a resolver. Still such a resolver may do something of its own, such as
counting its requests, and the log is told of every request. So it is said in terms of what is `seen` of
the application's state: of that the resolver changes nothing, and it is all that the application's
resolvers go by. Others than the one that declines come in through adapters, which ask the resolvers of
the contexts that they keep.

Chains of resolvers that decline do so too, the empty chain among them (`Hooks.Declining.chain`).

**Key theorem**: `eval_declining`.
-/

namespace ExprLang

variable {σ τ α : Type}

/-! ### What is seen of the surroundings -/

/-- The surroundings differ in nothing but what is not seen of the application's state. -/
structure Ambient.SameSeen (seen : σ → τ) (s s' : Ambient σ) : Prop where
  resolved : s.resolved = s'.resolved
  fresh : s.fresh = s'.fresh
  world : seen s.world = seen s'.world

/-- What the hooks do depends on what is seen of the application's state only, and so does what is seen
of it afterwards. -/
def Hooks.GoBy (hooks : Hooks σ) (seen : σ → τ) : Prop :=
  hooks.Related (fun _ m m' => Matching (Ambient.SameSeen seen) Eq m m') hooks

variable {seen : σ → τ} {host : Host σ}

/-- To the language it makes no difference what is not seen of the surroundings, if that goes for the
log. -/
theorem Congruence.sameSeen (unseen : ∀ n world, seen (host.log n world) = seen world) :
    Congruence host (Ambient.SameSeen seen) where
  resolved := Ambient.SameSeen.resolved
  fresh := Ambient.SameSeen.fresh
  setResolved _ start := ⟨rfl, start.fresh, start.world⟩
  setFresh _ start := ⟨start.resolved, rfl, start.world⟩
  note n start := ⟨start.resolved, start.fresh, by
    rw [Host.note, Host.note, unseen, unseen, start.world]⟩

/-! ### Declining -/

/-- The computation gives nothing, and changes nothing but what is not seen of the application's state. -/
def Declines (seen : σ → τ) (ask : HookM σ (Option α)) : Prop :=
  ∀ s, ∃ world, ask s = (.ok none, { s with world := world }) ∧ seen world = seen s.world

/-- The hooks decline whatever they are asked. -/
structure Hooks.Declining (seen : σ → τ) (hooks : Hooks σ) : Prop where
  convert : ∀ ctx v t, Declines seen (hooks.convert ctx v t)
  lookup : ∀ {α : Type} (l : Lookup α) ctx, Declines seen (l.ask hooks ctx)
  type : ∀ ctx name, Declines seen (hooks.type ctx name)

namespace Declines

variable {ask : HookM σ (Option α)}

theorem none : Declines seen (return none : HookM σ (Option α)) :=
  fun s => ⟨s.world, rfl, rfl⟩

/-- Those who decline are asked one after another. -/
theorem firstSome {asks : List (HookM σ (Option α))} (each : ∀ ask ∈ asks, Declines seen ask) :
    Declines seen (.firstSome asks) := by
  induction asks with
  | nil => exact none
  | cons ask rest ih =>
    intro s
    obtain ⟨between, run, kept⟩ := each ask List.mem_cons_self s
    obtain ⟨world, later, kept'⟩ :=
      ih (fun ask mem => each ask (List.mem_cons_of_mem _ mem)) { s with world := between }
    refine ⟨world, ?_, kept'.trans kept⟩
    rw [HookM.firstSome, bind_apply, run]
    exact later

theorem watch (unseen : ∀ n world, seen (host.log n world) = seen world) (h : Declines seen ask) :
    Declines seen (host.watch ask) := by
  intro s
  obtain ⟨world, run, kept⟩ := h (host.note .asked s)
  refine ⟨world, ?_, kept.trans (unseen .asked s.world)⟩
  unfold Host.watch
  rw [run]
  rfl

/-- With the flag lowered and left so, nothing is claimed by it either. -/
theorem offered {ask : HookM σ (Option Value)} (h : Declines seen ask) :
    Declines seen (HookM.offered ask) := by
  intro s
  obtain ⟨world, run, kept⟩ := h s.lowered
  refine ⟨world, ?_, kept⟩
  rw [HookM.offered_apply, HookM.claimed_of_ok_none run]
  rfl

/-- What follows may do nothing without an answer. -/
theorem followed {f : Option α → HookM σ (Option α)} (h : Declines seen ask)
    (rest : f Option.none = return Option.none) : Declines seen (ask >>= f) := by
  intro s
  obtain ⟨world, run, kept⟩ := h s
  refine ⟨world, ?_, kept⟩
  rw [bind_apply, run]
  exact congrFun rest _

/-- Declining is the same as doing nothing. -/
theorem matching (h : Declines seen ask) :
    Matching (Ambient.SameSeen seen) Neither ask (return Option.none) := by
  intro s s' start
  obtain ⟨world, run, kept⟩ := h s
  rw [run]
  exact ⟨.ok ⟨rfl, rfl⟩, start.resolved, start.fresh, kept.trans start.world⟩

/-- Who declines goes by nothing at all. -/
theorem goBy (h : Declines seen ask) : Matching (Ambient.SameSeen seen) Eq ask ask := by
  intro s s' start
  obtain ⟨world, run, kept⟩ := h s
  obtain ⟨world', run', kept'⟩ := h s'
  rw [run, run']
  exact ⟨.ok rfl, start.resolved, start.fresh, kept.trans (start.world.trans kept'.symm)⟩

end Declines

namespace Hooks.Declining

/-- A chain of hooks that decline declines. -/
theorem chain {members : List (Hooks σ)} (each : ∀ hooks ∈ members, hooks.Declining seen) :
    (Hooks.chain members).Declining seen := by
  have first {α : Type} {ask : Hooks σ → HookM σ (Option α)}
      (asks : ∀ hooks : Hooks σ, hooks.Declining seen → Declines seen (ask hooks)) :
      Declines seen (.firstSome (members.map ask)) := by
    refine .firstSome fun m mem => ?_
    obtain ⟨hooks, member, rfl⟩ := List.mem_map.mp mem
    exact asks hooks (each hooks member)
  exact {
    convert := fun ctx v t => first fun _ h => h.convert ctx v t
    lookup := fun l ctx => by
      rw [l.ask_chain]
      exact first fun _ h => h.lookup l ctx
    type := fun ctx name => first fun _ h => h.type ctx name }

theorem goBy {hooks : Hooks σ} (h : hooks.Declining seen) : hooks.GoBy seen where
  convert ctx v t := (h.convert ctx v t).goBy
  get ctx base key := (h.lookup (.read base key) ctx).goBy
  set ctx base key v := (h.lookup (.write base key v) ctx).goBy
  invoke ctx base method args := (h.lookup (.method base method args) ctx).goBy
  call ctx qualifier name args := (h.lookup (.function qualifier name args) ctx).goBy
  implicit ctx name := (h.lookup (.implicit name) ctx).goBy
  type ctx name := (h.type ctx name).goBy

end Hooks.Declining

/-! ### Evaluation -/

mutual

/-- The hook for conversions is the one that offers go to. -/
theorem Resolver.hooks_convert (host : Host σ) (ctx : Context) (v : Value) (t : ValueType) :
    ∀ r : Resolver, (r.hooks host).convert ctx v t = r.convert host ctx v t
  | .standard => rfl
  | .chain members => congrArg HookM.firstSome (Resolver.hooksOfAll_convert host ctx v t members)
  | .host _ => rfl

theorem Resolver.hooksOfAll_convert (host : Host σ) (ctx : Context) (v : Value) (t : ValueType) :
    ∀ members : List Resolver, ((Resolver.hooksOfAll host members).map fun h => h.convert ctx v t) =
      Resolver.conversions host ctx v t members
  | [] => rfl
  | r :: rest => congrArg₂ List.cons (Resolver.hooks_convert host ctx v t r)
      (Resolver.hooksOfAll_convert host ctx v t rest)

end

/-- The second declarations have no resolver, and the first ones the resolver besides. -/
def Environment.Asking (r : Resolver) (environment environment' : Environment) : Prop :=
  environment'.resolver = none ∧ environment = { environment' with resolver := some r }

/-- Nobody claims anything where the resolver declines everything, and where there is none. -/
theorem Unclaimed.of_declining (unseen : ∀ n world, seen (host.log n world) = seen world)
    {r : Resolver} (declining : (r.hooks host).Declining seen) {ctx ctx' : Context}
    (h : ctx.SameBindings (Environment.Asking r) ctx') :
    Unclaimed host (Ambient.SameSeen seen) ctx ctx' := by
  obtain ⟨free, environment⟩ := h.environment
  have asked : ctx.environment.resolver = some r := by rw [environment]
  refine ⟨fun v t => ?_, fun l => ?_, fun name => ?_⟩
  · unfold Context.offerConversion
    rw [asked, free]
    have converted : Declines seen (r.convert host ctx v t) := by
      rw [← Resolver.hooks_convert]
      exact declining.convert ctx v t
    exact (converted.watch unseen).offered.matching
  · unfold Context.claim
    rw [asked, free]
    refine ((Congruence.sameSeen unseen).flag false).bind_eq fun _ => Declines.matching ?_
    dsimp only
    exact ((declining.lookup l ctx).watch unseen).followed rfl
  · have typed := ((declining.type ctx name).watch unseen).matching.imp fun _ _ => Neither.eq
    unfold Context.resolveType
    rw [asked, free, environment]
    dsimp only
    split
    · exact .pure rfl
    split
    · exact .pure rfl
    split
    · exact .pure rfl
    · exact typed

/-- What the first run has come to, in a context with a resolver, is what the second one has come to
without it, as far as it is seen. -/
structure Transparent (r : Resolver) (seen : σ → τ)
    (run bare : Except (Halt EvalError) Value × Session σ) : Prop where
  outcome : run.1 = bare.1
  context : run.2.context = bare.2.context.asking r
  ambient : run.2.ambient.SameSeen seen bare.2.ambient

/-- An expression or a template that is evaluated with a resolver that declines everything comes to the
same value or error as without a resolver, to the same variables and to the same flag. For a resolver
that leaves the application's state alone, and a log that is not part of it, `seen` may be the identity,
and then every application goes by it. -/
theorem eval_declining (host : Host σ) (unseen : ∀ n world, seen (host.log n world) = seen world)
    (goBy : ∀ id, (host.hooks id).GoBy seen) {r : Resolver}
    (declining : (r.hooks host).Declining seen) {ctx : Context}
    (free : ctx.environment.resolver = none) (s : Ambient σ) :
    (∀ e : Expr, Transparent r seen (e.eval host ⟨ctx.asking r, s⟩) (e.eval host ⟨ctx, s⟩)) ∧
    ∀ t : Template, Transparent r seen (t.eval host ⟨ctx.asking r, s⟩) (t.eval host ⟨ctx, s⟩) := by
  have steps : Compositional host host _ _ _ := Unclaimed.evaluations (D := Environment.Asking r)
    (.sameSeen unseen) goBy (.of_declining unseen declining)
  have same (m : EvalM σ Value) (extending : Extending m)
      (matching : Matching (Session.SameBindings (Environment.SameOr (Environment.Asking r))
        (Ambient.SameSeen seen)) Eq m m) :
      Transparent r seen (m ⟨ctx.asking r, s⟩) (m ⟨ctx, s⟩) := by
    obtain ⟨outcomes, after⟩ := matching
      (⟨⟨rfl, rfl, .inr ⟨free, rfl⟩⟩, rfl, rfl, rfl⟩ : Session.SameBindings (Environment.SameOr _)
        (Ambient.SameSeen seen) ⟨ctx.asking r, s⟩ ⟨ctx, s⟩)
    refine ⟨outcomes.eq, ?_, after.ambient⟩
    calc (m ⟨ctx.asking r, s⟩).2.context
        = { (m ⟨ctx, s⟩).2.context with environment := (ctx.asking r).environment } :=
          after.context.eq_declaring (extending ⟨ctx.asking r, s⟩)
      _ = (m ⟨ctx, s⟩).2.context.asking r := by
        rw [Context.asking, Context.asking, (extending ⟨ctx, s⟩).environment]
  exact ⟨fun e => same _ ((Extending.evaluative host).eval e) (steps.eval e),
    fun t => same _ ((Extending.evaluative host).template t) (steps.template t)⟩

/-! ### Counting requests -/

/-- Counts a request and declines it. -/
def HookM.counted : HookM Nat (Option α) :=
  fun s => (.ok none, { s with world := s.world + 1 })

/-- An application whose resolvers count the requests that they decline. -/
def Host.counting : Host Nat :=
  { Host.plain false with
    hooks := fun _ =>
      { convert := fun _ _ _ => HookM.counted, get := fun _ _ _ => HookM.counted,
        set := fun _ _ _ _ => HookM.counted, invoke := fun _ _ _ _ => HookM.counted,
        call := fun _ _ _ _ => HookM.counted, implicit := fun _ _ => HookM.counted,
        type := fun _ _ => HookM.counted } }

theorem Host.counting_declining (id : Nat) :
    (Host.counting.hooks id).Declining fun _ => () := by
  have counted {α : Type} : Declines (fun _ => ()) (HookM.counted (α := α)) :=
    fun s => ⟨s.world + 1, rfl, rfl⟩
  refine ⟨fun _ _ _ => counted, fun l _ => ?_, fun _ _ => counted⟩
  cases l <;> exact counted

/-- A chain of an empty chain and a resolver that counts is asked four times, and nothing comes of it:
for the name `x`, for the property, for the key as an index, and for the truth of the element. -/
theorem eval_declining_counting :
    let host := Host.counting
    let r : Resolver := .chain [.chain [], .host 0]
    let ctx : Context := ⟨[("x", .list [.boolean true])], [], .empty⟩
    let body : Expr :=
      .conditional (.access (.identifier "y") (.integer 0)) (.integer 1) (.integer 2)
    let e : Expr := .call (.lambda ["y"] body) [.identifier "x"]
    let s : Ambient Nat := ⟨true, 0, 0⟩
    let run := e.eval host ⟨ctx.asking r, s⟩
    let bare := e.eval host ⟨ctx, s⟩
    ctx.environment.resolver = none ∧ (r.hooks host).Declining (fun _ => ()) ∧
      Transparent r (fun _ => ()) run bare ∧ bare.1 = .ok (.long 1) ∧
      run.2.ambient.world = 4 ∧ bare.2.ambient.world = 0 := by
  intro host r ctx body e s run bare
  have free : ctx.environment.resolver = none := rfl
  have declining : (r.hooks host).Declining fun _ => () := by
    refine .chain (List.forall_mem_cons.mpr ⟨.chain nofun, fun hooks mem => ?_⟩)
    rw [List.mem_singleton.mp mem]
    exact Host.counting_declining 0
  have transparent := eval_declining host (fun _ _ => rfl)
    (fun id => (Host.counting_declining id).goBy) declining free s
  exact ⟨free, declining, transparent.1 e, rfl, rfl, rfl⟩

end ExprLang
