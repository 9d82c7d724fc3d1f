import ExprLang.Proofs.Correspondence.Evaluations

/-!
# What callers' arguments can do to a lambda

A name in the code of a lambda that is neither a parameter nor captured is looked up where the lambda is
called, among the arguments of the calls in progress first (`lambda_reads_argument_of_caller`). So a
lambda may depend on its caller's arguments, though only through such names: under two stacks of scopes
a call comes to the same outcome if no code in sight reads a name, other than its parameters and what it
has captured, for which the stacks have different arguments (`lambda_call_alike`).

Lambdas that the two calls make capture all arguments that can be seen, those included that no code
reads; the outcomes are the same but for these (`Correspondence.callers`).
-/

namespace ExprLang

variable {σ : Type}

/-- The names for which the two contexts have different arguments, or only one of them has one. -/
def Context.differing (ctx ctx' : Context) : Set String :=
  { name | ctx.argument? name ≠ ctx'.argument? name }

namespace Correspondence

/-- Two runs that differ in the arguments with hidden names only, as far as the application sees what
surrounds them. -/
def callers (hidden : Set String) (known : Set Nat) (worlds : σ → σ → Prop) : Correspondence σ where
  ids := Eq
  next := Eq
  flags := Eq
  worlds := worlds
  declarations environment := ∀ id ∈ environment.applications, id ∈ known
  hidden := hidden
  clocks := True

variable {hidden : Set String} {known : Set Nat} {worlds : σ → σ → Prop} {host : Host σ}

theorem lawful_callers (impartial : (callers hidden known worlds).Impartial host known)
    (log : ∀ note note' {w w'}, worlds w w' → worlds (host.log note w) (host.log note' w')) :
    (callers hidden known worlds).Lawful host host.now where
  oneToOne _ _ _ _ same same' := by cases same; cases same'; rfl
  fresh same := by cases same; exact ⟨rfl, rfl⟩
  flag _ := rfl
  log := log
  compared := impartial.objects
  still _ := rfl
  application declared mem := impartial.resolvers _ (declared _ mem)

end Correspondence

open Correspondence

/-- What is in sight of calls with the arguments under either context: the variables, and the arguments
of calls in progress that the contexts agree on. -/
def Context.Shares (ctx ctx' : Context) (v : Value) : Prop :=
  (∃ e ∈ ctx.bindings, e.2.Reaches v) ∨
    ∃ name arg, ctx.argument? name = some arg ∧ ctx'.argument? name = some arg ∧ arg.Reaches v

/-- **Calls of lambdas under different scopes.** Two contexts without a resolver differ in their scopes
only. A call of a lambda comes to a like result, or to the same error, in both, if each lambda in sight
has captured what it reads of the names, parameters apart, for which the contexts have different
arguments. -/
theorem lambda_call_alike {host : Host σ} {ctx ctx' : Context} {l : Lambda} {args : List Value}
    {ambient : Ambient σ} {known : Set Nat} {worlds : σ → σ → Prop}
    (impartial : (callers (ctx.differing ctx') known worlds).Impartial host known)
    (log : ∀ note note' {w w'}, worlds w w' → worlds (host.log note w) (host.log note' w'))
    (world : worlds ambient.world ambient.world)
    (unresolved : ctx.environment.resolver = none)
    (bindings : ctx.bindings = ctx'.bindings) (environment : ctx.environment = ctx'.environment)
    (distinct : ∀ scope ∈ ctx.scopes, Bindings.Distinct scope)
    (distinct' : ∀ scope ∈ ctx'.scopes, Bindings.Distinct scope)
    (inSight : ∀ v, ctx.Shares ctx' v ∨ (Value.lambda l).Reaches v ∨ (∃ arg ∈ args, arg.Reaches v) →
      (callers (ctx.differing ctx') known worlds).Fixes v) :
    Outcomes (callers (ctx.differing ctx') known worlds).Values
      (l.invoke host args ⟨ctx, ambient⟩).1 (l.invoke host args ⟨ctx', ambient⟩).1 := by
  have like := values_self fun v reach => inSight v (.inr (.inl reach))
  have likes := List.forall₂_same.mpr fun arg mem =>
    values_self fun v reach => inSight v (.inr (.inr ⟨arg, mem, reach⟩))
  have variables_ : ctx.bindings.All fun v => (callers (ctx.differing ctx') known worlds).Values v v :=
    fun e mem => values_self fun v reach => inSight v (.inl (.inl ⟨e, mem, reach⟩))
  have scopes : (callers (ctx.differing ctx') known worlds).Scopes ctx.scopes ctx'.scopes := by
    refine ⟨distinct, distinct', fun name seen => ?_⟩
    have same : ctx.argument? name = ctx'.argument? name := not_not.mp seen
    show Option.Rel _ (ctx.argument? name) (ctx'.argument? name)
    rw [← same]
    cases found : ctx.argument? name with
    | none => exact .none
    | some arg =>
      exact .some (values_self fun v reach =>
        inSight v (.inl (.inr ⟨name, arg, found, same ▸ found, reach⟩)))
  have declared : ∀ id ∈ ctx.environment.applications, id ∈ known := by
    rw [Environment.applications, unresolved]
    exact fun _ mem => absurd mem List.not_mem_nil
  have contexts : (callers (ctx.differing ctx') known worlds).Contexts ctx ctx' := by
    refine ⟨fun name => ?_, scopes, environment, declared⟩
    unfold Context.binding?
    rw [← bindings]
    exact rel_get?_self variables_ name
  have start : (callers (ctx.differing ctx') known worlds).Sessions ctx.scopes ctx'.scopes
      ⟨ctx, ambient⟩ ⟨ctx', ambient⟩ :=
    ⟨rfl, rfl, contexts, rfl, rfl, world⟩
  exact ((lawful_callers impartial log).calls callDepth _ _ like likes start).1

/-- A caller has an argument of the name of the parameter and one of a captured name. The lambda calls
another one, which reads an argument that both contexts have, and makes a third one. -/
theorem lambda_call_alike_within_call :
    let host : Host Unit := .plain false
    let f : Lambda := ⟨0, [], .identifier "w", []⟩
    let l : Lambda := ⟨1, ["x"], .list [.identifier "x", .identifier "y", .function none "f" [],
      .lambda [] (.identifier "x")], [("y", .long 7)]⟩
    let within : Context :=
      ⟨[("f", .lambda f)], [[("x", .long 1), ("y", .long 2)], [("w", .long 3)]], .empty⟩
    let outside : Context := ⟨[("f", .lambda f)], [[("w", .long 3)]], .empty⟩
    let ambient : Ambient Unit := ⟨false, 2, ()⟩
    within.environment.resolver = none ∧ within.argument? "y" ≠ outside.argument? "y" ∧
      Outcomes (callers (σ := Unit) (within.differing outside) ∅ Eq).Values
        (l.invoke host [.long 5] ⟨within, ambient⟩).1 (l.invoke host [.long 5] ⟨outside, ambient⟩).1 ∧
      (l.invoke host [.long 5] ⟨within, ambient⟩).1 = .ok (.list [.long 5, .long 7, .long 3,
        .lambda ⟨2, [], .identifier "x", [("w", .long 3), ("x", .long 5), ("y", .long 7)]⟩]) := by
  intro host f l within outside ambient
  have impartial : (callers (within.differing outside) ∅ Eq).Impartial host ∅ :=
    ⟨fun _ _ _ _ => rfl, nofun⟩
  have madeBefore : (callers (σ := Unit) (within.differing outside) ∅ Eq).Fixes (.lambda f) := by
    refine ⟨rfl, .nil, fun name differs read => ?_⟩
    obtain rfl : name = "w" := List.mem_singleton.mp read
    exact (differs rfl).elim
  have made : (callers (σ := Unit) (within.differing outside) ∅ Eq).Fixes (.lambda l) := by
    refine ⟨rfl, List.nodup_singleton _, fun name differs read => ?_⟩
    have named : name ∈ ["y", "f"] := read
    obtain rfl | rfl : name = "y" ∨ name = "f" := by simpa using named
    · rfl
    · exact (differs rfl).elim
  have inSight (v : Value) (sight : within.Shares outside v ∨ (Value.lambda l).Reaches v ∨
      ∃ arg ∈ [Value.long 5], arg.Reaches v) :
      (callers (σ := Unit) (within.differing outside) ∅ Eq).Fixes v := by
    rcases sight with (⟨e, mem, reach⟩ | ⟨name, arg, -, found, reach⟩) | reach | ⟨arg, mem, reach⟩
    · cases List.mem_singleton.mp mem
      exact Throughout.leaf madeBefore rfl v reach
    · obtain ⟨scope, mem, bound⟩ := List.exists_of_findSome?_eq_some found
      have numbers : Bindings.All (fun v => v.isNumber = true) scope := by
        cases List.mem_singleton.mp mem
        exact List.forall_mem_singleton.mpr rfl
      exact fixes_of_number (numbers.get? bound) reach
    · refine Throughout.iff.mpr ⟨made, fun part mem => ?_⟩ v reach
      cases List.mem_singleton.mp mem
      exact fun _ => fixes_of_number rfl
    · cases List.mem_singleton.mp mem
      exact fixes_of_number rfl reach
  refine ⟨rfl, Option.some_ne_none (Value.long 2), ?_, rfl⟩
  exact lambda_call_alike impartial (fun _ _ _ _ same => same) rfl rfl rfl rfl (by decide) (by decide)
    inSight

/-- Where a lambda has not captured a name that is no parameter, it reads the argument of its caller
before the variable. -/
theorem lambda_reads_argument_of_caller :
    let host : Host Unit := .plain false
    let l : Lambda := ⟨0, [], .identifier "y", []⟩
    let within : Context := ⟨[("y", .long 10)], [[("y", .long 1)]], .empty⟩
    let outside : Context := ⟨[("y", .long 10)], [], .empty⟩
    within.environment.resolver = none ∧ within.bindings = outside.bindings ∧
      within.environment = outside.environment ∧
      (l.invoke host [] ⟨within, ⟨false, 1, ()⟩⟩).1 = .ok (.long 1) ∧
      (l.invoke host [] ⟨outside, ⟨false, 1, ()⟩⟩).1 = .ok (.long 10) :=
  ⟨rfl, rfl, rfl, rfl, rfl⟩

end ExprLang
