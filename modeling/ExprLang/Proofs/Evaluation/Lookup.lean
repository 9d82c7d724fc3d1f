import ExprLang.Proofs.Evaluation.Invariant
import ExprLang.Proofs.Resolution.Chain
import ExprLang.Proofs.Resolution.Flag
import ExprLang.Proofs.Resolution.Resolvers

/-!
# The flag after a lookup

Evaluation looks up names, properties, methods, functions and implicit objects, and where to assign,
by requests of one shape (`Lookup`): the flag is lowered, the resolver is asked, and the flag is raised
if there is an answer. An answer therefore always shows in the flag. A resolver may write the flag
itself, and what it leaves there without an answer is not lowered again: the flag tells the outcome
exactly if the resolver has not left it raised on declining. Chains and the standard resolver never do
so by themselves, so that it is up to the application's own resolvers.

**Key theorem**: `flag_after_lookup`.
-/

namespace ExprLang

variable {σ α : Type}

/-! ### Lookups -/

/-- The requests that evaluation puts to a resolver, apart from those for types and conversions. -/
inductive Lookup : Type → Type where
  /-- Reads a property, or a name by itself. -/
  | read (base : Option Value) (property : Value) : Lookup Value
  /-- Assigns to a property, or to a name by itself. -/
  | write (base : Option Value) (property v : Value) : Lookup Unit
  /-- Calls a method. -/
  | method (base : Value) (name : String) (args : List Value) : Lookup Value
  /-- Calls a function. -/
  | function (qualifier : Option String) (name : String) (args : List Value) : Lookup Value
  /-- Reads an implicit object. -/
  | implicit (name : String) : Lookup Value

/-- The hook that answers a lookup. -/
def Lookup.ask : Lookup α → Hooks σ → Context → HookM σ (Option α)
  | .read base property => fun hooks ctx => hooks.get ctx base property
  | .write base property v => fun hooks ctx => hooks.set ctx base property v
  | .method base name args => fun hooks ctx => hooks.invoke ctx base name args
  | .function qualifier name args => fun hooks ctx => hooks.call ctx qualifier name args
  | .implicit name => fun hooks ctx => hooks.implicit ctx name

/-- A chain asks its members in turn. -/
theorem Lookup.ask_chain (l : Lookup α) (members : List (Hooks σ)) (ctx : Context) :
    l.ask (.chain members) ctx = .firstSome (members.map fun hooks => l.ask hooks ctx) := by
  cases l <;> rfl

/-- Related hooks answer every lookup in a related way. -/
theorem Hooks.Related.ask {τ : Type} {R : (α : Type) → HookM σ α → HookM τ α → Prop}
    {hooks : Hooks σ} {hooks' : Hooks τ} (h : hooks.Related R hooks') (l : Lookup α) (ctx : Context) :
    R (Option α) (l.ask hooks ctx) (l.ask hooks' ctx) := by
  cases l with
  | read base property => exact h.get ctx base property
  | write base property v => exact h.set ctx base property v
  | method base name args => exact h.invoke ctx base name args
  | function qualifier name args => exact h.call ctx qualifier name args
  | implicit name => exact h.implicit ctx name

variable {host : Host σ}

/-- Without a resolver nobody is asked, and the flag is lowered. -/
theorem Context.claim_of_free {ctx : Context} (free : ctx.environment.resolver = none)
    (ask : Resolver → HookM σ (Option α)) (s : Ambient σ) :
    ctx.claim host ask s = (.ok none, s.lowered) := by
  unfold Context.claim
  rw [free]
  rfl

/-- A request that comes to a result: without a resolver nobody is asked; else the flag shows an
answer, and without one it is as the resolver has left it. -/
theorem Context.claim_ok {ctx : Context} {ask : Resolver → HookM σ (Option α)} {s after : Ambient σ}
    {found : Option α} (run : ctx.claim host ask s = (.ok found, after)) :
    (ctx.environment.resolver = none ∧ found = none ∧ after = s.lowered) ∨
    ∃ r left, ctx.environment.resolver = some r ∧
      ask r (host.note .asked s.lowered) = (.ok found, left) ∧
      after = { left with resolved := found.isSome || left.resolved } := by
  unfold Context.claim at run
  obtain ⟨_, lowered, lower, run⟩ := bind_ok run
  obtain rfl : s.lowered = lowered := congrArg Prod.snd lower
  cases resolver : ctx.environment.resolver with
  | none =>
    rw [resolver] at run
    cases run
    exact .inl ⟨rfl, rfl, rfl⟩
  | some r =>
    rw [resolver] at run
    obtain ⟨answer, left, watched, run⟩ := bind_ok run
    have asked : ask r (host.note .asked s.lowered) = (.ok answer, left) := by
      unfold Host.watch at watched
      rcases result : ask r (host.note .asked s.lowered) with ⟨e | a, later⟩
      · rw [result] at watched
        cases watched
      · rw [result] at watched
        exact watched
    refine .inr ⟨r, left, rfl, ?_⟩
    cases answer with
    | none =>
      cases run
      exact ⟨asked, rfl⟩
    | some a =>
      cases run
      exact ⟨asked, rfl⟩

/-- A computation on the surroundings that gives a result does so by itself. -/
theorem Eval.within_ok {f : Context → HookM σ α} {s after : Session σ} {a : α}
    (run : Eval.within f s = (.ok a, after)) :
    f s.context s.ambient = (.ok a, after.ambient) := by
  unfold Eval.within at run
  rcases result : f s.context s.ambient with ⟨e | b, ambient⟩
  · rw [result] at run
    cases run
  · rw [result] at run
    cases run
    rfl

/-! ### Resolvers that leave the flag lowered -/

/-- Where it finds the flag lowered, the computation leaves it so unless it answers or fails. -/
def LeavesLowered (ask : HookM σ (Option α)) : Prop :=
  ∀ ⦃s after⦄, s.resolved = false → ask s = (.ok none, after) → after.resolved = false

/-- The hooks raise the flag only on answering or failing. -/
def Hooks.Tidy (hooks : Hooks σ) : Prop :=
  ∀ ⦃α : Type⦄ (l : Lookup α) (ctx : Context), LeavesLowered (l.ask hooks ctx)

namespace LeavesLowered

theorem of_keepsFlag {ask : HookM σ (Option α)} (kept : KeepsFlag ask) : LeavesLowered ask := by
  intro s after lowered run
  calc after.resolved = (ask s).2.resolved := by rw [run]
    _ = s.resolved := kept s
    _ = false := lowered

/-- Each of several computations hands the lowered flag on to the next one. -/
theorem firstSome {asks : List (HookM σ (Option α))} (each : ∀ ask ∈ asks, LeavesLowered ask) :
    LeavesLowered (.firstSome asks) := by
  induction asks with
  | nil => exact of_keepsFlag (.ofExcept (.ok none))
  | cons ask rest ih =>
    intro s after lowered run
    obtain ⟨answer, between, first, run⟩ := bind_ok run
    cases answer with
    | none =>
      have between_lowered : between.resolved = false := each ask List.mem_cons_self lowered first
      exact ih (fun later mem => each later (List.mem_cons_of_mem _ mem)) between_lowered run
    | some a => cases run

end LeavesLowered

mutual

/-- A resolver is as tidy as the application's own resolvers within it. -/
theorem Resolver.tidy (host : Host σ) : ∀ r : Resolver,
    (∀ id ∈ r.applications, (host.hooks id).Tidy) → (r.hooks host).Tidy
  | .standard, _ => fun _ l ctx => .of_keepsFlag ((KeepsFlag.stepwise host).standard.ask l ctx)
  | .chain members, application => by
    intro _ l ctx
    rw [Resolver.hooks, l.ask_chain]
    refine .firstSome fun ask mem => ?_
    obtain ⟨hooks, member, rfl⟩ := List.mem_map.mp mem
    exact Resolver.tidyOfAll host members application hooks member l ctx
  | .host _, application => application _ List.mem_cons_self

theorem Resolver.tidyOfAll (host : Host σ) : ∀ members : List Resolver,
    (∀ id ∈ Resolver.applicationsOfAll members, (host.hooks id).Tidy) →
      ∀ hooks ∈ Resolver.hooksOfAll host members, hooks.Tidy
  | [], _ => nofun
  | r :: rest, application => by
    intro hooks mem
    rcases List.mem_cons.mp mem with rfl | mem
    · exact Resolver.tidy host r fun id mem => application id (List.mem_append_left _ mem)
    · exact Resolver.tidyOfAll host rest
        (fun id mem => application id (List.mem_append_right _ mem)) hooks mem

end

/-! ### The flag -/

/-- After a lookup that gives a result, the flag tells whether the resolver has answered exactly if a
resolver without an answer has not left it raised, and so always if the application's own resolvers
that the context may ask raise it on answering only. -/
theorem flag_after_lookup (host : Host σ) (l : Lookup α) {s after : Session σ} {found : Option α}
    (run : Eval.claim host l.ask s = (.ok found, after)) :
    (after.ambient.resolved = found.isSome ↔
      ∀ r, s.context.environment.resolver = some r → found = none →
        (l.ask (r.hooks host) s.context (host.note .asked s.ambient.lowered)).2.resolved = false) ∧
    ((∀ id ∈ s.context.environment.applications, (host.hooks id).Tidy) →
      after.ambient.resolved = found.isSome) := by
  have claimed : s.context.claim host (fun r => l.ask (r.hooks host) s.context) s.ambient =
      (.ok found, after.ambient) :=
    Eval.within_ok run
  rcases Context.claim_ok claimed with ⟨free, rfl, lowered⟩ | ⟨r, left, resolver, asked, left_as⟩
  · rw [lowered]
    exact ⟨⟨fun _ r resolver => (nomatch free.symm.trans resolver), fun _ => rfl⟩, fun _ => rfl⟩
  · have told : after.ambient.resolved = found.isSome ↔ (found = none → left.resolved = false) := by
      rw [left_as]
      cases found with
      | none => exact ⟨fun lowered _ => lowered, fun lowered => lowered rfl⟩
      | some a => exact ⟨fun _ => nofun, fun _ => rfl⟩
    refine ⟨told.trans ⟨fun lowered r' resolver' none => ?_, fun all none => ?_⟩, fun application => ?_⟩
    · obtain rfl : r = r' := Option.some_inj.mp (resolver.symm.trans resolver')
      rw [asked]
      exact lowered none
    · have left_lowered := all r resolver none
      rwa [asked] at left_lowered
    · refine told.mpr fun none => ?_
      have own : ∀ id ∈ r.applications, (host.hooks id).Tidy := by
        refine fun id mem => application id ?_
        rw [Environment.applications, resolver]
        exact mem
      exact Resolver.tidy host r own l s.context rfl (none ▸ asked)

/-- An application whose resolvers raise the flag whenever they are to read something, and never
answer. -/
def Host.meddling : Host Unit :=
  { Host.plain false with
    hooks := fun _ => { Hooks.declining with
      get := fun _ _ _ => do HookM.setResolved true; return none } }

/-- A resolver that raises the flag and declines leaves it raised: a variable that nobody has claimed
is read, and the flag tells of a claim. -/
theorem flag_after_lookup_left_raised :
    let host := Host.meddling
    let ctx : Context := Context.asking ⟨[("x", .long 1)], [], .empty⟩ (.host 0)
    let s : Session Unit := ⟨ctx, ⟨false, 0, ()⟩⟩
    let l : Lookup Value := .read none (.string "x")
    let after : Session Unit := ⟨ctx, ⟨true, 0, ()⟩⟩
    Eval.claim host l.ask s = (.ok none, after) ∧
      after.ambient.resolved ≠ (none : Option Value).isSome ∧
      (Expr.identifier "x").eval host s = (.ok (.long 1), after) := by
  intro host ctx s l after
  have run : Eval.claim host l.ask s = (.ok none, after) := rfl
  refine ⟨run, fun told => ?_, rfl⟩
  have lowered := (flag_after_lookup host l run).1.mp told (.host 0) rfl rfl
  cases lowered

end ExprLang
