import ExprLang.Proofs.Resolution.Chain
import ExprLang.Proofs.Resolution.Resolvers

/-!
# Chains within chains

A chain asks its members in turn, so a chain among the members of another one asks its own members
where it stands itself. Nesting is therefore of no consequence: a chain with a chain among its members
is the chain of all of them (`Hooks.chain_nested`), and every resolver is the chain of the resolvers
that it is made of in the end (`Resolver.hooks_eq_chain_leaves`). Of an assignment it only matters
whether a member has made it, and the loop that asks for this stops where the search for an answer does
(`Hooks.assigns_chain`).

Who is asked is a part of what a chain does. Members that enter into a register when they are asked and
what they find (`Hooks.registered`) do otherwise what they did before, and the register of a chain of
them shows its members in their order, up to the one that decides (`calls_of_chain`).

**Key theorem**: `nested_chain_flattens`.
-/

namespace ExprLang

variable {σ α : Type}

/-! ### One after another -/

namespace HookM

/-- Of two rows of computations, the second one runs if the first one gives no answer. -/
theorem firstSome_append (asks rest : List (HookM σ (Option α))) :
    firstSome (asks ++ rest) = (do
      match ← firstSome asks with
      | some answer => return some answer
      | none => firstSome rest) := by
  induction asks with
  | nil => rfl
  | cons ask asks ih =>
    rw [List.cons_append, firstSome, firstSome, ih, bind_assoc]
    refine bind_congr fun found => ?_
    cases found <;> rfl

theorem firstSome_singleton (ask : HookM σ (Option α)) : firstSome [ask] = ask := by
  calc firstSome [ask] = ask >>= Pure.pure := bind_congr fun found => by cases found <;> rfl
    _ = ask := bind_pure ask

/-- A row within a row runs where it stands. -/
theorem firstSome_nested (before asks after : List (HookM σ (Option α))) :
    firstSome (before ++ [firstSome asks] ++ after) = firstSome (before ++ asks ++ after) := by
  rw [firstSome_append, firstSome_append, firstSome_singleton, ← firstSome_append,
    ← firstSome_append]

/-- Whether one of several computations answers is found by the search for the first one that does:
the two loops stop at the same answer or error, and go on otherwise. -/
theorem isSome_firstSome (asks : List (HookM σ (Option α))) :
    Option.isSome <$> firstSome asks = asks.anyM fun ask => Option.isSome <$> ask := by
  induction asks with
  | nil => rfl
  | cons ask asks ih =>
    rw [firstSome, List.anyM, map_bind, bind_map_left]
    refine bind_congr fun found => ?_
    cases found with
    | none => exact ih
    | some answer => rfl

end HookM

/-! ### Requests -/

/-- What resolvers are asked: one kind of request for each hook. -/
inductive Hooks.Request where
  | convert (v : Value) (t : ValueType)
  | get (base : Option Value) (property : Value)
  | set (base : Option Value) (property v : Value)
  | invoke (base : Value) (method : String) (args : List Value)
  | call (qualifier : Option String) (name : String) (args : List Value)
  | implicit (name : String)
  | type (name : String)

namespace Hooks.Request

/-- What answers a request. -/
def Answer : Request → Type
  | .set .. => Unit
  | .type _ => ValueType
  | _ => Value

/-- The request is put to the hook of its kind. -/
def ask (hooks : Hooks σ) (ctx : Context) : (q : Request) → HookM σ (Option q.Answer)
  | .convert v t => hooks.convert ctx v t
  | .get base property => hooks.get ctx base property
  | .set base property v => hooks.set ctx base property v
  | .invoke base method args => hooks.invoke ctx base method args
  | .call qualifier name args => hooks.call ctx qualifier name args
  | .implicit name => hooks.implicit ctx name
  | .type name => hooks.type ctx name

/-- A chain asks its members in turn, whatever it is asked. -/
theorem ask_chain (q : Request) (members : List (Hooks σ)) (ctx : Context) :
    q.ask (.chain members) ctx = .firstSome (members.map fun hooks => q.ask hooks ctx) := by
  cases q <;> rfl

end Hooks.Request

namespace Hooks

/-- Hooks are what they do when they are asked. -/
theorem ext_ask {hooks hooks' : Hooks σ}
    (same : ∀ (ctx : Context) (q : Request), q.ask hooks ctx = q.ask hooks' ctx) :
    hooks = hooks' := by
  cases hooks
  cases hooks'
  rw [Hooks.mk.injEq]
  refine ⟨?_, ?_, ?_, ?_, ?_, ?_, ?_⟩
  · funext ctx v t
    exact same ctx (.convert v t)
  · funext ctx base property
    exact same ctx (.get base property)
  · funext ctx base property v
    exact same ctx (.set base property v)
  · funext ctx base method args
    exact same ctx (.invoke base method args)
  · funext ctx qualifier name args
    exact same ctx (.call qualifier name args)
  · funext ctx name
    exact same ctx (.implicit name)
  · funext ctx name
    exact same ctx (.type name)

/-- A chain among the members of a chain may be replaced by its own members. -/
theorem chain_nested (A B C : List (Hooks σ)) :
    chain (A ++ [chain B] ++ C) = chain (A ++ B ++ C) := by
  refine ext_ask fun ctx q => ?_
  simp only [Request.ask_chain, List.map_append, List.map_cons, List.map_nil]
  exact HookM.firstSome_nested _ _ _

theorem chain_singleton (hooks : Hooks σ) : chain [hooks] = hooks :=
  ext_ask fun ctx q => (q.ask_chain [hooks] ctx).trans (HookM.firstSome_singleton _)

/-- Two chains, one behind the other. -/
theorem chain_append (A B : List (Hooks σ)) : chain (A ++ B) = chain [chain A, chain B] := by
  calc chain (A ++ B) = chain ([] ++ A ++ B) := rfl
    _ = chain ([chain A] ++ B ++ []) := by rw [← chain_nested, List.append_nil, List.nil_append]
    _ = chain [chain A, chain B] := (chain_nested [chain A] B []).symm

/-- Whether the resolver has assigned a property. -/
def assigns (ctx : Context) (base : Option Value) (property v : Value) (hooks : Hooks σ) :
    HookM σ Bool :=
  Option.isSome <$> hooks.set ctx base property v

/-- Whether a chain has assigned something is what the search among its members finds. -/
theorem assigns_chain (members : List (Hooks σ)) (ctx : Context) (base : Option Value)
    (property v : Value) :
    (chain members).assigns ctx base property v = members.anyM (assigns ctx base property v) := by
  rw [assigns, chain, HookM.isSome_firstSome]
  induction members with
  | nil => rfl
  | cons hooks rest ih => rw [List.map_cons, List.anyM, List.anyM, ih, assigns]

end Hooks

/-! ### Every resolver is a chain -/

mutual

/-- The resolvers that a resolver is made of, in the order in which they are asked. -/
def Resolver.leaves : Resolver → List Resolver
  | .chain members => Resolver.leavesOfAll members
  | leaf => [leaf]

def Resolver.leavesOfAll : List Resolver → List Resolver
  | [] => []
  | r :: rest => r.leaves ++ Resolver.leavesOfAll rest

end

theorem Resolver.hooksOfAll_append (host : Host σ) (A B : List Resolver) :
    Resolver.hooksOfAll host (A ++ B) =
      Resolver.hooksOfAll host A ++ Resolver.hooksOfAll host B := by
  induction A with
  | nil => rfl
  | cons r rest ih => rw [List.cons_append, Resolver.hooksOfAll, ih, Resolver.hooksOfAll,
      List.cons_append]

/-- A chain of resolvers with another one among its members. -/
theorem Resolver.hooks_nested (host : Host σ) (A B C : List Resolver) :
    (Resolver.chain (A ++ [.chain B] ++ C)).hooks host =
      (Resolver.chain (A ++ B ++ C)).hooks host := by
  simp only [Resolver.hooks, Resolver.hooksOfAll, Resolver.hooksOfAll_append]
  exact Hooks.chain_nested _ _ _

/-- Such a chain also claims the conversions that the chain of all of them claims. -/
theorem Resolver.convert_nested (host : Host σ) (ctx : Context) (v : Value) (t : ValueType)
    (A B C : List Resolver) :
    (Resolver.chain (A ++ [.chain B] ++ C)).convert host ctx v t =
      (Resolver.chain (A ++ B ++ C)).convert host ctx v t := by
  simp only [Resolver.convert, Resolver.conversions_eq_map, List.map_append, List.map_cons,
    List.map_nil]
  exact HookM.firstSome_nested _ _ _

mutual

/-- However chains are nested in a resolver, it does what the chain of its leaves does. -/
theorem Resolver.hooks_eq_chain_leaves (host : Host σ) : ∀ r : Resolver,
    r.hooks host = .chain (Resolver.hooksOfAll host r.leaves)
  | .standard => (Hooks.chain_singleton _).symm
  | .chain members => Resolver.chain_eq_chain_leavesOfAll host members
  | .host _ => (Hooks.chain_singleton _).symm

theorem Resolver.chain_eq_chain_leavesOfAll (host : Host σ) : ∀ members : List Resolver,
    Hooks.chain (Resolver.hooksOfAll host members) =
      .chain (Resolver.hooksOfAll host (Resolver.leavesOfAll members))
  | [] => rfl
  | r :: rest => by
    rw [Resolver.leavesOfAll, Resolver.hooksOfAll_append, Hooks.chain_append,
      ← Resolver.hooks_eq_chain_leaves host r, ← Resolver.chain_eq_chain_leavesOfAll host rest,
      Resolver.hooksOfAll, ← List.singleton_append, Hooks.chain_append, Hooks.chain_singleton]

end

/-! ### Who is asked -/

/-- A call of a resolver: what it is asked, and what it finds. -/
structure Call (ι σ : Type) where
  resolver : ι
  context : Context
  request : Hooks.Request
  found : Ambient σ

/-- A state of the application with all calls so far, the latest one last. -/
structure Register (ι σ : Type) where
  world : σ
  calls : List (Call ι σ)

variable {ι : Type}

/-- The surroundings without the register. -/
def Ambient.unregistered (s : Ambient (Register ι σ)) : Ambient σ :=
  ⟨s.resolved, s.fresh, s.world.world⟩

/-- The surroundings with a register. -/
def Ambient.registering (s : Ambient σ) (calls : List (Call ι σ)) : Ambient (Register ι σ) :=
  ⟨s.resolved, s.fresh, ⟨s.world, calls⟩⟩

/-- What a resolver does on a request, of which it does not know that it is registered. -/
def HookM.registered (resolver : ι) (ctx : Context) (q : Hooks.Request) (m : HookM σ α) :
    HookM (Register ι σ) α :=
  fun s =>
    let (result, after) := m s.unregistered
    (result, after.registering (s.world.calls ++ [⟨resolver, ctx, q, s.unregistered⟩]))

/-- A resolver with a name; every request that is put to it is entered into the register. -/
def Hooks.registered (member : ι × Hooks σ) : Hooks (Register ι σ) where
  convert ctx v t := .registered member.1 ctx (.convert v t) (member.2.convert ctx v t)
  get ctx base property :=
    .registered member.1 ctx (.get base property) (member.2.get ctx base property)
  set ctx base property v :=
    .registered member.1 ctx (.set base property v) (member.2.set ctx base property v)
  invoke ctx base method args :=
    .registered member.1 ctx (.invoke base method args) (member.2.invoke ctx base method args)
  call ctx qualifier name args :=
    .registered member.1 ctx (.call qualifier name args) (member.2.call ctx qualifier name args)
  implicit ctx name := .registered member.1 ctx (.implicit name) (member.2.implicit ctx name)
  type ctx name := .registered member.1 ctx (.type name) (member.2.type ctx name)

/-- The calls that a request leads to. -/
def Hooks.Request.calls (q : Hooks.Request) (hooks : Hooks (Register ι σ)) (ctx : Context)
    (s : Ambient σ) : List (Call ι σ) :=
  (q.ask hooks ctx (s.registering [])).2.world.calls

theorem Hooks.Request.ask_registered (q : Hooks.Request) (member : ι × Hooks σ) (ctx : Context) :
    q.ask (.registered member) ctx = .registered member.1 ctx q (q.ask member.2 ctx) := by
  cases q <;> rfl

/-- The members of a chain do with a register what they do without one. -/
theorem Hooks.Request.ask_chain_registered (q : Hooks.Request) (members : List (ι × Hooks σ))
    (ctx : Context) :
    SeenAs Ambient.unregistered (q.ask (.chain (members.map .registered)) ctx)
      (q.ask (.chain (members.map Prod.snd)) ctx) := by
  have steps : Sequential fun _ => SeenAs (Ambient.unregistered (ι := ι) (σ := σ)) :=
    { result := SeenAs.outcome, bind := SeenAs.bind }
  rw [ask_chain, ask_chain, List.map_map, List.map_map]
  refine steps.firstSome ?_
  rw [List.forall₂_map_left_iff, List.forall₂_map_right_iff, List.forall₂_same]
  intro member _ s
  rw [Function.comp_apply, Function.comp_apply, ask_registered]
  rfl

/-- Registered computations in turn enter themselves into the register, from the first one up to one
that answers or fails. -/
theorem HookM.calls_of_firstSome (ctx : Context) (q : Hooks.Request) (members : List (ι × Hooks σ))
    (s : Ambient (Register ι σ)) :
    let ask (member : ι × Hooks σ) := registered member.1 ctx q (q.ask member.2 ctx)
    ∃ asked unasked new, members = asked ++ unasked ∧
      (firstSome (members.map ask) s).2.world.calls = s.world.calls ++ new ∧
      (new.map fun c => (c.resolver, c.context, c.request)) =
        asked.map (fun member => (member.1, ctx, q)) ∧
      (unasked ≠ [] → (firstSome (members.map ask) s).1 ≠ .ok none) := by
  intro ask
  induction members generalizing s with
  | nil => exact ⟨[], [], [], rfl, (List.append_nil _).symm, rfl, fun some => absurd rfl some⟩
  | cons member rest ih =>
    let entry : Call ι σ := ⟨member.1, ctx, q, s.unregistered⟩
    have entered : (ask member s).2.world.calls = s.world.calls ++ [entry] := rfl
    rw [List.map_cons]
    by_cases silent : (ask member s).1 = .ok none
    · obtain ⟨asked, unasked, new, split, calls, named, stopped⟩ := ih (ask member s).2
      have run : ask member s = (.ok none, (ask member s).2) := Prod.ext silent rfl
      rw [firstSome_of_ok_none run]
      refine ⟨member :: asked, unasked, entry :: new, congrArg _ split, ?_, congrArg _ named,
        stopped⟩
      rw [calls, entered, List.append_assoc, List.singleton_append]
    · rw [firstSome_of_ne_ok_none silent]
      exact ⟨[member], rest, [entry], rfl, entered, rfl, fun _ => silent⟩

/-- A chain asks its members in their order, all of them one and the same thing in one and the same
context, and those that it leaves out stand behind an answer or a failure. -/
theorem calls_of_chain (members : List (ι × Hooks σ)) (ctx : Context) (q : Hooks.Request)
    (s : Ambient σ) :
    ∃ asked unasked, members = asked ++ unasked ∧
      ((q.calls (.chain (members.map .registered)) ctx s).map fun c =>
        (c.resolver, c.context, c.request)) = asked.map (fun member => (member.1, ctx, q)) ∧
      (unasked ≠ [] → (q.ask (.chain (members.map Prod.snd)) ctx s).1 ≠ .ok none) := by
  obtain ⟨asked, unasked, new, split, calls, named, stopped⟩ :=
    HookM.calls_of_firstSome ctx q members (s.registering [])
  have run : q.ask (.chain (members.map .registered)) ctx =
      .firstSome (members.map fun member => .registered member.1 ctx q (q.ask member.2 ctx)) := by
    simp only [Hooks.Request.ask_chain, List.map_map, Function.comp_def,
      Hooks.Request.ask_registered]
  have seen : (q.ask (.chain (members.map Prod.snd)) ctx s).1 = _ :=
    congrArg Prod.fst (q.ask_chain_registered members ctx (s.registering []))
  refine ⟨asked, unasked, split, ?_, ?_⟩
  · rw [Hooks.Request.calls, run, calls]
    exact named
  · rwa [seen, run]

/-- A chain with another one among its members does what the chain of all of them does, whatever it
is asked: it comes to the same answer or error, leaves the same flag and state, and asks the same
members the same things in the same order. The loop that asks whether a member assigns a property makes
no difference between the two either, and is what the chain in the middle does where it stands. -/
theorem nested_chain_flattens (A B C : List (ι × Hooks σ)) (ctx : Context) (q : Hooks.Request)
    (s : Ambient σ) :
    q.ask (.chain (A.map Prod.snd ++ [.chain (B.map Prod.snd)] ++ C.map Prod.snd)) ctx s =
      q.ask (.chain ((A ++ B ++ C).map Prod.snd)) ctx s ∧
    q.calls (.chain (A.map .registered ++ [.chain (B.map .registered)] ++ C.map .registered)) ctx s =
      q.calls (.chain ((A ++ B ++ C).map .registered)) ctx s ∧
    ∀ base property v,
      let assigns := Hooks.assigns ctx base property v
      assigns (.chain (B.map Prod.snd)) = (B.map Prod.snd).anyM assigns ∧
      (A.map Prod.snd ++ [Hooks.chain (B.map Prod.snd)] ++ C.map Prod.snd).anyM assigns s =
        ((A ++ B ++ C).map Prod.snd).anyM assigns s := by
  rw [List.map_append, List.map_append, List.map_append, List.map_append, Hooks.chain_nested,
    Hooks.chain_nested]
  refine ⟨rfl, rfl, fun base property v => ⟨Hooks.assigns_chain _ ctx base property v, ?_⟩⟩
  rw [← Hooks.assigns_chain, ← Hooks.assigns_chain, Hooks.chain_nested]

end ExprLang
