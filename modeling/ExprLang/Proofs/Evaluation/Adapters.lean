import ExprLang.Proofs.Correspondence.Evaluations

/-!
# Adapters do what their lambdas did where they were made

An adapter keeps a snapshot of the context in which a lambda was made to fulfil an interface: the
variables, the declarations, and the arguments that could be seen, spread over one scope where the
context had a stack of them. Calling it at any later time comes to what calling the lambda comes to in
the context as it was, if resolvers answer by the request, the variables and the visible arguments
alone (`adapter_calls_as_lambda`).

The two calls number the lambdas and adapters that they make from different numbers on, and their results
are the same but for these numbers (`Correspondence.renumbering`). The clock of the system may be in sight
of them only if it shows both of them the same time.
-/

namespace ExprLang

variable {σ : Type}

namespace Correspondence

/-- Two runs that number what they make from `n` and from `n'` on. What was made before has the number
that it has; flags and states of the application do not matter, and the application's resolvers that may
be asked are the known ones. -/
def renumbering (n n' : Nat) (known : Set Nat) (clocks : Prop) : Correspondence σ where
  ids i j := (i = j ∧ i < n ∧ i < n') ∨ ∃ k, i = n + k ∧ j = n' + k
  next i j := ∃ k, i = n + k ∧ j = n' + k
  flags _ _ := True
  worlds _ _ := True
  declarations environment := ∀ id ∈ environment.applications, id ∈ known
  hidden := ∅
  clocks := clocks

variable {n n' : Nat} {known : Set Nat} {clocks : Prop} {host : Host σ} {later : Time.Instant}

theorem oneToOne_renumbering : (renumbering n n' known clocks : Correspondence σ).OneToOne := by
  rintro i i' j j' (⟨rfl, _, _⟩ | ⟨k, rfl, rfl⟩) (⟨rfl, _, _⟩ | ⟨k', rfl, rfl⟩)
  · rfl
  all_goals omega

theorem lawful_renumbering (impartial : (renumbering n n' known clocks).Impartial host known)
    (still : clocks → host.now = later) : (renumbering n n' known clocks).Lawful host later where
  oneToOne := oneToOne_renumbering
  fresh := by
    rintro _ _ ⟨k, rfl, rfl⟩
    exact ⟨.inr ⟨k, rfl, rfl⟩, k + 1, rfl, rfl⟩
  flag _ := trivial
  log _ _ _ _ _ := trivial
  compared := impartial.objects
  still := still
  application declared mem := impartial.resolvers _ (declared _ mem)

end Correspondence

open Correspondence

/-- What the built-in rule makes of a lambda that is to fulfil an interface. -/
theorem Coercion.eq_of_toType_interface {host : Host σ} {ctx : Context} {i : Interface} {l : Lambda}
    {a : Adapter} {s after : Ambient σ}
    (unclaimed : (ctx.offerConversion host (.lambda l) (.interface i) s).1 = .ok none)
    (coerced : toType host ctx (.interface i) (.lambda l) s = (.ok (.adapter a), after)) :
    a.lambda = l ∧ a.interface = i ∧ a.bound = ctx.snapshot := by
  unfold toType at coerced
  obtain ⟨claimed, between, offered, rest⟩ := bind_ok coerced
  rw [offered] at unclaimed
  cases unclaimed
  change (if i.singleAbstractMethod?.isSome then adapt ctx l i else throw _) between = _ at rest
  split at rest
  · cases rest
    exact ⟨rfl, rfl, rfl⟩
  · cases rest

/-- **Adapters behave as their lambdas.** A lambda is coerced to an interface by the built-in rule.
Whenever and wherever the adapter is called, the call comes to a like result, or to the same error, as a
call of the lambda in the context of the coercion. What is in sight of the two calls was made before both
of them, without the clock of the system if it shows them different times, and the application's resolvers
that may be asked answer by the request, the variables and the visible arguments. -/
theorem adapter_calls_as_lambda {host : Host σ} {ctx elsewhere : Context} {i : Interface} {l : Lambda}
    {a : Adapter} {args : List Value} {s after here there : Ambient σ} {known : Set Nat}
    {now later : Time.Instant}
    (impartial : (renumbering here.fresh there.fresh known (now = later)).Impartial host known)
    (declared : ∀ id ∈ ctx.environment.applications, id ∈ known)
    (distinct : ∀ scope ∈ ctx.scopes, Bindings.Distinct scope)
    (inSight : ∀ v, ctx.Reaches v ∨ (Value.lambda l).Reaches v ∨ (∃ arg ∈ args, arg.Reaches v) →
      (renumbering (σ := σ) here.fresh there.fresh known (now = later)).Fixes v)
    (unclaimed : (ctx.offerConversion host (.lambda l) (.interface i) s).1 = .ok none)
    (coerced : Coercion.toType host ctx (.interface i) (.lambda l) s = (.ok (.adapter a), after)) :
    Outcomes (renumbering (σ := σ) here.fresh there.fresh known (now = later)).Values
      (l.invoke (host.showing now) args ⟨ctx, here⟩).1
      (a.call (host.showing later) args ⟨elsewhere, there⟩).1 := by
  obtain ⟨rfl, -, kept⟩ := Coercion.eq_of_toType_interface unclaimed coerced
  have like := values_self fun v reach => inSight v (.inr (.inl reach))
  have likes := List.forall₂_same.mpr fun arg mem =>
    values_self fun v reach => inSight v (.inr (.inr ⟨arg, mem, reach⟩))
  have contexts := Contexts.snapshot (fun v reach => inSight v (.inl reach)) distinct declared
  rw [← kept] at contexts
  have start : (renumbering here.fresh there.fresh known (now = later)).Sessions ctx.scopes
      a.bound.toContext.scopes ⟨ctx, here⟩ ⟨a.bound.toContext, { there with resolved := false }⟩ :=
    ⟨rfl, rfl, contexts, trivial, ⟨0, rfl, rfl⟩, trivial⟩
  have lawful : (renumbering here.fresh there.fresh known (now = later)).Lawful (host.showing now)
      later :=
    lawful_renumbering ⟨impartial.objects, impartial.resolvers⟩ id
  exact (lawful.calls callDepth _ _ like likes start).1

/-! ### A resolver that reads arguments -/

/-- Reads another name as the visible argument with a name. -/
def Hooks.synonym (other name : String) : Hooks σ :=
  { Hooks.declining with
    get := fun ctx base key =>
      return if base.isNone && key.text == other then ctx.argument? name else none }

theorem Correspondence.Respects.synonym {C : Correspondence σ} {other name : String}
    (seen : name ∉ C.hidden) :
    C.Respects (Hooks.synonym other name : Hooks σ) (Hooks.synonym other name) :=
  { Respects.declining with
    get := by
      intro ctx ctx' base base' key key' contexts likeBase likeKey
      have alone : base.isNone = base'.isNone := by cases likeBase <;> rfl
      show Matching _ _ (return if _ then _ else _) (return if _ then _ else _)
      rw [alone, likeKey.text_eq]
      split
      · exact .pure (contexts.scopes.arguments name seen)
      · exact .pure .none }

/-- The adapter is made within two calls, and called when they are over and the clock has moved. Its lambda
reads an argument, a variable and what the resolver makes of an argument, and makes a lambda. -/
theorem adapter_calls_as_lambda_later :
    let host : Host Unit := { Host.plain false with hooks := fun _ => .synonym "outer" "y" }
    let ctx : Context := ⟨[("z", .long 3)], [[("x", .long 5)], [("x", .long 1), ("y", .long 2)]],
      { Environment.empty with resolver := some (.host 0) }⟩
    let l : Lambda := ⟨0, ["a"], .list [.identifier "a", .identifier "x", .identifier "outer",
      .identifier "z", .lambda [] (.identifier "y")], []⟩
    let i : Interface := ⟨"F", [⟨"apply", 1, true⟩]⟩
    let a : Adapter := ⟨1, l, i, ctx.snapshot⟩
    let here : Ambient Unit := ⟨false, 2, ()⟩
    let there : Ambient Unit := ⟨true, 7, ()⟩
    let now : Time.Instant := ⟨0, 0⟩
    let later : Time.Instant := ⟨1, 0⟩
    (ctx.offerConversion host (.lambda l) (.interface i) ⟨false, 1, ()⟩).1 = .ok none ∧
      Coercion.toType host ctx (.interface i) (.lambda l) ⟨false, 1, ()⟩ = (.ok (.adapter a), here) ∧
      Outcomes (renumbering (σ := Unit) 2 7 {0} (now = later)).Values
        (l.invoke (host.showing now) [.long 4] ⟨ctx, here⟩).1
        (a.call (host.showing later) [.long 4] ⟨.ofEnvironment .empty, there⟩).1 ∧
      (a.call (host.showing later) [.long 4] ⟨.ofEnvironment .empty, there⟩).1 =
        .ok (.list [.long 4, .long 5, .long 2, .long 3,
          .lambda ⟨7, [], .identifier "y", [("x", .long 5), ("y", .long 2), ("a", .long 4)]⟩]) := by
  intro host ctx l i a here there now later
  have impartial : (renumbering here.fresh there.fresh {0} (now = later)).Impartial host {0} :=
    ⟨fun _ _ _ _ => rfl, fun _ _ => .synonym (Set.notMem_empty _)⟩
  have made : (renumbering (σ := Unit) here.fresh there.fresh {0} (now = later)).Fixes (.lambda l) :=
    ⟨.inl ⟨rfl, by decide, by decide⟩, .nil, fun _ mem => mem.elim⟩
  have inSight (v : Value)
      (sight : ctx.Reaches v ∨ (Value.lambda l).Reaches v ∨ ∃ arg ∈ [Value.long 4], arg.Reaches v) :
      (renumbering (σ := Unit) here.fresh there.fresh {0} (now = later)).Fixes v := by
    rcases sight with (⟨e, mem, reach⟩ | ⟨scope, mem, e, bound, reach⟩) | reach | ⟨arg, mem, reach⟩
    · have numbers : ∀ e ∈ ctx.bindings, e.2.isNumber = true := by decide
      exact fixes_of_number (numbers e mem) reach
    · have numbers : ∀ scope ∈ ctx.scopes, ∀ e ∈ scope, e.2.isNumber = true := by decide
      exact fixes_of_number (numbers scope mem e bound) reach
    · exact Throughout.leaf made rfl v reach
    · have numbers : ∀ arg ∈ [Value.long 4], arg.isNumber = true := by decide
      exact fixes_of_number (numbers arg mem) reach
  have coerced : Coercion.toType host ctx (.interface i) (.lambda l) ⟨false, 1, ()⟩ =
      (.ok (.adapter a), here) := by
    unfold Coercion.toType
    rfl
  have declared : ∀ id ∈ ctx.environment.applications, id ∈ ({0} : Set Nat) :=
    fun _ mem => List.mem_singleton.mp mem
  have distinct : ∀ scope ∈ ctx.scopes, Bindings.Distinct scope := by decide
  exact ⟨rfl, coerced, adapter_calls_as_lambda impartial declared distinct inSight rfl coerced, rfl⟩

end ExprLang
