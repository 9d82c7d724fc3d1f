import ExprLang.Proofs.Evaluation.Frame
import ExprLang.Proofs.Evaluation.Keeping
import Mathlib.Data.Set.Insert

/-!
# Which variables an evaluation sets

An evaluation sets only variables that are named in an assignment of the code that it runs: of the
expression itself, and of the lambdas that it comes to. Those are the lambdas within the variables and
arguments of the context, and the ones that evaluation makes of bodies of such lambdas, unless a
resolver brings in others. A context without a resolver comes to resolvers too, through adapters, which
keep the declarations of the context that they were made in (`set_through_adapter`).

**Key theorem**: `eval_sets_only_assigned`.
-/

namespace ExprLang

variable {σ : Type}

/-- Lambdas assign to names in `N` only, and adapters ask resolvers of the application in `R` only. -/
def Invariant.assigning (N : Set String) (R : Set Nat) : Invariant where
  value
    | .lambda l => ∀ name, l.body.AssignsTo name → name ∈ N
    | .adapter a => ∀ id ∈ a.bound.environment.applications, id ∈ R
    | _ => True
  code
    | .assign target _ => ∀ name, target.assigned? = some name → name ∈ N
    | _ => True
  declarations environment := ∀ id ∈ environment.applications, id ∈ R
  settable name := name ∈ N

namespace Invariant

variable {host : Host σ} {N : Set String} {R : Set Nat}

/-- The code runs if all its assignments are to names in `N`. -/
theorem runs_assigning_iff {e : Expr} :
    (assigning N R).Runs e ↔ ∀ name, e.AssignsTo name → name ∈ N := by
  refine ⟨fun runs name ⟨target, value, occurs, named⟩ => runs _ occurs name named,
    fun all sub occurs => ?_⟩
  cases sub with
  | assign target value => exact fun name named => all name ⟨target, value, occurs, named⟩
  | _ => trivial

/-- Evaluation makes lambdas of the code that it runs, and no adapters. -/
theorem lawful_assigning (answers : ∀ id ∈ R, (assigning N R).Answers (host.hooks id)) :
    (assigning N R).Lawful host where
  scalar {v} scalar := by cases v <;> trivial
  list _ := trivial
  array _ := trivial
  setOf _ _ := trivial
  noEntries := trivial
  mapInsert _ _ _ _ _ _ := trivial
  lambda _ := runs_assigning_iff.symm
  adapter _ asked := asked
  assign named found := named _ found
  application asked mem := answers _ (asked _ mem)

end Invariant

/-- A property of every value within a context is one throughout its variables and arguments. -/
theorem Context.forall_reaches_iff {P : Value → Prop} {ctx : Context} :
    (∀ v, ctx.Reaches v → P v) ↔ ctx.bindings.All (Throughout Value.parts P) ∧
      ∀ scope ∈ ctx.scopes, Bindings.All (Throughout Value.parts P) scope := by
  constructor
  · intro all
    exact ⟨fun e mem v reach => all v (.inl ⟨e, mem, reach⟩),
      fun scope opened e mem v reach => all v (.inr ⟨scope, opened, e, mem, reach⟩)⟩
  · rintro ⟨bindings, scopes⟩ v (⟨e, mem, reach⟩ | ⟨scope, opened, e, mem, reach⟩)
    · exact bindings e mem v reach
    · exact scopes scope opened e mem v reach

/-! ### Resolvers behind adapters -/

/-- An application whose resolver gives one and the same lambda for every name. -/
def Host.giving (l : Lambda) : Host Unit :=
  { Host.plain false with
    hooks := fun _ => { Hooks.declining with get := fun _ _ _ => return some (.lambda l) } }

/-- A lambda that sets a variable. -/
def Lambda.setting (name : String) : Lambda :=
  ⟨0, [], .assign (.identifier name) (.integer 1), []⟩

/-- An adapter that reads a name in a context with a resolver of the application. -/
def Adapter.reading (name : String) : Adapter :=
  ⟨1, ⟨2, [], .identifier name, []⟩, ⟨"Source", [⟨"get", 0, true⟩]⟩,
    ⟨[], [], { Environment.empty with resolver := some (.host 0) }⟩⟩

namespace Invariant

variable {N : Set String} {R : Set Nat}

theorem runs_setting {name : String} (mem : name ∈ N) :
    (assigning N R).Runs (Lambda.setting name).body := by
  refine Throughout.iff.mpr ⟨?_, fun sub part => ?_⟩
  · rintro _ ⟨⟩
    exact mem
  · have leaf : sub = .identifier name ∨ sub = .integer 1 := by
      simpa [Lambda.setting, Expr.children] using part
    rcases leaf with rfl | rfl
    · exact .leaf trivial rfl
    · exact .leaf trivial rfl

theorem holds_reading (mem : 0 ∈ R) (name : String) :
    (assigning N R).Holds (.adapter (Adapter.reading name)) := by
  refine Throughout.iff.mpr ⟨?_, fun v part => ?_⟩
  · intro id asked
    obtain rfl : id = 0 := List.mem_singleton.mp asked
    exact mem
  · obtain rfl : v = .lambda (Adapter.reading name).lambda := List.mem_singleton.mp part
    have body : (assigning N R).Runs (.identifier name) := .leaf trivial rfl
    exact .leaf (runs_assigning_iff.mp body) rfl

/-- The call of what a function of the name returns. -/
theorem runs_call (name : String) :
    (assigning N R).Runs (.call (.function none name []) []) := by
  refine Throughout.iff.mpr ⟨trivial, fun sub part => ?_⟩
  obtain rfl : sub = .function none name [] := List.mem_singleton.mp part
  exact .leaf trivial rfl

end Invariant

open Invariant in
/-- No expression and no lambda within the context assigns to `z`, and still the evaluation sets it: an
adapter returns a lambda that the resolver of its own context has given. -/
theorem set_through_adapter :
    let host := Host.giving (Lambda.setting "z")
    let ctx : Context := ⟨[("f", .adapter (Adapter.reading "x"))], [], .empty⟩
    let e : Expr := .call (.function none "f" []) []
    ctx.environment.resolver = none ∧ (∀ name, ¬ e.AssignsTo name) ∧
      (∀ l, ctx.Reaches (.lambda l) → ∀ name, ¬ l.body.AssignsTo name) ∧
      ctx.binding? "z" = none ∧
      (e.eval host ⟨ctx, ⟨true, 3, ()⟩⟩).2.context.binding? "z" = some (.long 1) := by
  intro host ctx e
  have own : ∀ name, e.AssignsTo name → name ∈ (∅ : Set String) :=
    runs_assigning_iff.mp (runs_call (R := {0}) "f")
  have within : ∀ v, ctx.Reaches v → (assigning ∅ {0}).value v := by
    refine Context.forall_reaches_iff.mpr ⟨fun e mem => ?_, nofun⟩
    rw [List.mem_singleton.mp mem]
    exact holds_reading (Set.mem_singleton 0) "x"
  exact ⟨rfl, own, fun l reach => within _ reach, rfl, rfl⟩

/-! ### The frame of an evaluation -/

/-- In a context without a resolver, an evaluation changes and adds only variables with names in `N`,
removes none, and leaves the declarations as they are, whether it fails or not. `N` has to hold the
names that the expression and the lambdas within the context assign to, and those that lambdas assign
to which come from the resolvers `R` of the application that adapters within the context ask; `R` is
empty if they ask none. -/
theorem eval_sets_only_assigned (host : Host σ) {ctx : Context}
    (free : ctx.environment.resolver = none) (e : Expr) {N : Set String} {R : Set Nat}
    (own : ∀ name, e.AssignsTo name → name ∈ N)
    (within : ∀ l, ctx.Reaches (.lambda l) → ∀ name, l.body.AssignsTo name → name ∈ N)
    (asked : ∀ a, ctx.Reaches (.adapter a) → ∀ id ∈ a.bound.environment.applications, id ∈ R)
    (answers : ∀ id ∈ R, (Invariant.assigning N R).Answers (host.hooks id)) (s : Ambient σ) :
    let after := (e.eval host ⟨ctx, s⟩).2.context
    (∀ name, name ∉ N → after.binding? name = ctx.binding? name) ∧
    (∀ name, (ctx.binding? name).isSome → (after.binding? name).isSome) ∧
    after.environment = ctx.environment := by
  have all : ∀ v, ctx.Reaches v → (Invariant.assigning N R).value v := by
    intro v reach
    cases v with
    | lambda l => exact within l reach
    | adapter a => exact asked a reach
    | _ => trivial
  obtain ⟨bindings, scopes⟩ := Context.forall_reaches_iff.mp all
  have held : (Invariant.assigning N R).HoldsIn ctx := by
    refine ⟨bindings, scopes, fun id mem => ?_⟩
    rw [Environment.applications, free] at mem
    cases mem
  have kept := (Invariant.lawful_assigning answers).eval (Invariant.runs_assigning_iff.mpr own)
    ⟨ctx, s⟩ held
  have extended := (Extending.evaluative host).eval e ⟨ctx, s⟩
  exact ⟨kept.unset, extended.bound, extended.environment⟩

open Invariant in
/-- A lambda that the resolver behind an adapter gives sets its own variable and no other one. -/
theorem eval_sets_only_assigned_through_adapter :
    let host := Host.giving (Lambda.setting "z")
    let ctx : Context :=
      ⟨[("f", .adapter (Adapter.reading "x")), ("y", .long 5)], [], .empty⟩
    let e : Expr := .call (.function none "f" []) []
    let N : Set String := {"z"}
    let R : Set Nat := {0}
    let after := (e.eval host ⟨ctx, ⟨true, 3, ()⟩⟩).2.context
    ctx.environment.resolver = none ∧ (∀ name, e.AssignsTo name → name ∈ N) ∧
      (∀ l, ctx.Reaches (.lambda l) → ∀ name, l.body.AssignsTo name → name ∈ N) ∧
      (∀ a, ctx.Reaches (.adapter a) → ∀ id ∈ a.bound.environment.applications, id ∈ R) ∧
      (∀ id ∈ R, (assigning N R).Answers (host.hooks id)) ∧
      after.binding? "z" = some (.long 1) ∧ after.binding? "y" = some (.long 5) := by
  intro host ctx e N R after
  have own : ∀ name, e.AssignsTo name → name ∈ N :=
    runs_assigning_iff.mp (runs_call (R := R) "f")
  have within : ∀ v, ctx.Reaches v → (assigning N R).value v := by
    refine Context.forall_reaches_iff.mpr ⟨fun e mem => ?_, nofun⟩
    have either : e = ("f", .adapter (Adapter.reading "x")) ∨ e = ("y", .long 5) := by
      simpa [ctx] using mem
    rcases either with rfl | rfl
    · exact holds_reading (Set.mem_singleton 0) "x"
    · exact .leaf trivial rfl
  have given : (assigning N R).Holds (.lambda (Lambda.setting "z")) :=
    .leaf (runs_assigning_iff.mp (runs_setting (R := R) (Set.mem_singleton "z"))) rfl
  have answers : ∀ id ∈ R, (assigning N R).Answers (host.hooks id) := fun _ _ =>
    { Answers.declining with get := fun _ _ _ _ _ _ => Answered.some given }
  have free : ctx.environment.resolver = none := rfl
  have frame := eval_sets_only_assigned host free e own
    (fun l reach => within (.lambda l) reach) (fun a reach => within (.adapter a) reach) answers
    ⟨true, 3, ()⟩
  exact ⟨free, own, fun l reach => within (.lambda l) reach,
    fun a reach => within (.adapter a) reach, answers, rfl, frame.1 "y" (by simp [N])⟩

end ExprLang
