import ExprLang.Evaluation
import ExprLang.Proofs.Evaluation.Parts
import ExprLang.Proofs.Resolution.Standard

/-!
# Invariants of evaluation

Which code an evaluation runs is known only from the values that it comes to: lambdas are called that
were made long before, that the evaluation has made itself, that adapters and resolvers give. An
`Invariant` says something of every value in sight, of every expression that is run and of the
declarations in force, and of the variables that may be set.

An invariant is lawful (`Invariant.Lawful`) if the ways in which evaluation makes values keep it. This
module derives from that what holds of the values, contexts and answers of resolvers that a step of an
evaluation deals with, and of each construction of a value; that every evaluation then keeps the
invariant is `Invariant.Lawful.eval`.

**Key theorem**: `Invariant.Lawful.answered_claim`, for whatever a context asks its resolver.
-/

namespace ExprLang

open Eval

variable {σ α β : Type}

/-! ### Invariants -/

/-- What is to hold of single values, of single expressions and of declarations, and which variables
may be set. -/
structure Invariant where
  value : Value → Prop
  code : Expr → Prop
  declarations : Environment → Prop
  settable : String → Prop

namespace Invariant

variable (I : Invariant)

/-- It holds of the value and of everything within it. -/
def Holds (v : Value) : Prop :=
  Throughout Value.parts I.value v

/-- It holds of the expression and of everything that occurs in it. -/
def Runs (e : Expr) : Prop :=
  Throughout Expr.children I.code e

/-- It holds of everything in the context. -/
structure HoldsIn (ctx : Context) : Prop where
  bindings : ctx.bindings.All I.Holds
  scopes : ∀ scope ∈ ctx.scopes, Bindings.All I.Holds scope
  declarations : I.declarations ctx.environment

/-- It holds of the answer, if there is one. -/
def Answered (m : HookM σ (Option Value)) : Prop :=
  Yields (fun answer => ∀ v ∈ answer, I.Holds v) m

/-- Asked about values and contexts of which it holds, the hooks answer values of which it holds. -/
structure Answers (hooks : Hooks σ) : Prop where
  get : ∀ ctx base key, I.HoldsIn ctx → (∀ b ∈ base, I.Holds b) → I.Holds key →
    I.Answered (hooks.get ctx base key)
  invoke : ∀ ctx base method args, I.HoldsIn ctx → I.Holds base → (∀ a ∈ args, I.Holds a) →
    I.Answered (hooks.invoke ctx base method args)
  call : ∀ ctx qualifier name args, I.HoldsIn ctx → (∀ a ∈ args, I.Holds a) →
    I.Answered (hooks.call ctx qualifier name args)
  implicit : ∀ ctx name, I.HoldsIn ctx → I.Answered (hooks.implicit ctx name)

end Invariant

mutual

/-- The application's own resolvers within a resolver. -/
def Resolver.applications : Resolver → List Nat
  | .standard => []
  | .chain members => Resolver.applicationsOfAll members
  | .host id => [id]

/-- The application's own resolvers within several. -/
def Resolver.applicationsOfAll : List Resolver → List Nat
  | [] => []
  | r :: rest => r.applications ++ Resolver.applicationsOfAll rest

end

/-- The application's own resolvers that a context with these declarations may ask. -/
def Environment.applications (environment : Environment) : List Nat :=
  environment.resolver.elim [] Resolver.applications

/-- The ways in which values come into being keep the invariant. -/
structure Invariant.Lawful (I : Invariant) (host : Host σ) : Prop where
  scalar : ∀ {v : Value}, v.isScalar = true → I.value v
  list : ∀ items, I.value (.list items)
  array : ∀ items, I.value (.array items)
  setOf : ∀ items, (∀ v ∈ items, I.Holds v) → I.value (.setOf host.objects items)
  noEntries : I.value (.map [])
  mapInsert : ∀ entries key v, I.Holds (.map entries) → I.Holds key → I.Holds v →
    I.value (.map (Value.mapInsert host.objects entries key v))
  lambda : ∀ l, I.value (.lambda l) ↔ I.Runs l.body
  adapter : ∀ a, I.value (.adapter a) → I.declarations a.bound.environment
  assign : ∀ {target value : Expr} {name : String}, I.code (.assign target value) →
    target.assigned? = some name → I.settable name
  application : ∀ {environment : Environment} {id : Nat}, I.declarations environment →
    id ∈ environment.applications → I.Answers (host.hooks id)

/-! ### Values -/

/-- A set holds nothing but the items it was made of. -/
theorem Value.mem_of_mem_distinct {objects : ObjectModel} {items : List Value} {v : Value}
    (mem : v ∈ distinct objects items) : v ∈ items := by
  revert mem
  unfold distinct
  refine List.foldlRecOn (motive := fun kept => v ∈ kept → v ∈ items) items _ nofun
    fun kept within item inItems mem => ?_
  split at mem
  · exact within mem
  · rcases List.mem_append.mp mem with early | last
    · exact within early
    · rw [List.mem_singleton.mp last]
      exact inItems

/-- An entry of a map with a key bound to a value is the new one or an old one. -/
theorem Value.mem_mapInsert {objects : ObjectModel} {entries : List (Value × Value)}
    {key v : Value} {e : Value × Value} (mem : e ∈ mapInsert objects entries key v) :
    ((key = e.1 ∨ ∃ e' ∈ entries, e'.1 = e.1) ∧ v = e.2) ∨ e ∈ entries := by
  induction entries with
  | nil =>
    obtain rfl : e = (key, v) := by simpa [mapInsert] using mem
    exact .inl ⟨.inl rfl, rfl⟩
  | cons first rest ih =>
    rw [mapInsert] at mem
    split at mem
    · rcases List.mem_cons.mp mem with rfl | mem
      · exact .inl ⟨.inr ⟨first, by simp, rfl⟩, rfl⟩
      · exact .inr (by simp [mem])
    · rcases List.mem_cons.mp mem with rfl | mem
      · exact .inr (by simp)
      · rcases ih mem with ⟨same | ⟨e', old, same⟩, value⟩ | old
        · exact .inl ⟨.inl same, value⟩
        · exact .inl ⟨.inr ⟨e', by simp [old], same⟩, value⟩
        · exact .inr (by simp [old])

namespace Invariant

variable {I : Invariant} {host : Host σ}

theorem Holds.all_list {items : List Value} (h : I.Holds (.list items)) : ∀ v ∈ items, I.Holds v :=
  fun _ mem => h.part mem

theorem Holds.entries {entries : List (Value × Value)} (h : I.Holds (.map entries)) :
    ∀ e ∈ entries, I.Holds e.1 ∧ I.Holds e.2 := by
  refine fun e mem => ⟨h.part ?_, h.part ?_⟩
  · exact List.mem_append_left _ (List.mem_map_of_mem mem)
  · exact List.mem_append_right _ (List.mem_map_of_mem mem)

theorem Holds.captured {l : Lambda} (h : I.Holds (.lambda l)) : Bindings.All I.Holds l.captured :=
  fun _ mem => h.part (List.mem_map_of_mem mem)

theorem Holds.lambda {a : Adapter} (h : I.Holds (.adapter a)) : I.Holds (.lambda a.lambda) :=
  h.part List.mem_cons_self

namespace Lawful

variable (h : I.Lawful host)
include h

theorem holds_scalar {v : Value} (scalar : v.isScalar = true) : I.Holds v :=
  .leaf (h.scalar scalar) (Value.parts_of_isScalar scalar)

theorem holds_list {items : List Value} (all : ∀ v ∈ items, I.Holds v) : I.Holds (.list items) :=
  Throughout.iff.mpr ⟨h.list items, all⟩

theorem holds_array {items : List Value} (all : ∀ v ∈ items, I.Holds v) : I.Holds (.array items) :=
  Throughout.iff.mpr ⟨h.array items, all⟩

theorem holds_lambda {l : Lambda} (body : I.Runs l.body) (captured : Bindings.All I.Holds l.captured) :
    I.Holds (.lambda l) := by
  refine Throughout.iff.mpr ⟨(h.lambda l).mpr body, fun v mem => ?_⟩
  obtain ⟨e, bound, rfl⟩ := List.mem_map.mp mem
  exact captured e bound

theorem holds_setOf {items : List Value} (all : ∀ v ∈ items, I.Holds v) :
    I.Holds (.setOf host.objects items) :=
  Throughout.iff.mpr ⟨h.setOf items all, fun v mem => all v (Value.mem_of_mem_distinct mem)⟩

theorem holds_mapInsert {entries : List (Value × Value)} {key v : Value}
    (all : I.Holds (.map entries)) (hkey : I.Holds key) (hv : I.Holds v) :
    I.Holds (.map (Value.mapInsert host.objects entries key v)) := by
  refine Throughout.iff.mpr ⟨h.mapInsert entries key v all hkey hv, fun w mem => ?_⟩
  rcases List.mem_append.mp mem with isKey | isValue
  · obtain ⟨e, stored, rfl⟩ := List.mem_map.mp isKey
    rcases Value.mem_mapInsert stored with ⟨same | ⟨e', old, same⟩, -⟩ | old
    · exact same ▸ hkey
    · exact same ▸ (all.entries e' old).1
    · exact (all.entries e old).1
  · obtain ⟨e, stored, rfl⟩ := List.mem_map.mp isValue
    rcases Value.mem_mapInsert stored with ⟨-, same⟩ | old
    · exact same ▸ hv
    · exact (all.entries e old).2

theorem holds_map {entries : List (Value × Value)}
    (all : ∀ e ∈ entries, I.Holds e.1 ∧ I.Holds e.2) :
    I.Holds (.map (entries.foldl (fun m e => Value.mapInsert host.objects m e.1 e.2) [])) := by
  have folded (entries made : List (Value × Value)) (all : ∀ e ∈ entries, I.Holds e.1 ∧ I.Holds e.2)
      (first : I.Holds (.map made)) :
      I.Holds (.map (entries.foldl (fun m e => Value.mapInsert host.objects m e.1 e.2) made)) := by
    induction entries generalizing made with
    | nil => exact first
    | cons e entries ih =>
      obtain ⟨hkey, hv⟩ := all e (by simp)
      exact ih _ (fun later mem => all later (by simp [mem])) (h.holds_mapInsert first hkey hv)
  exact folded entries [] all (Throughout.iff.mpr ⟨h.noEntries, nofun⟩)

end Lawful

theorem Holds.mapGet? {objects : ObjectModel} {entries : List (Value × Value)} {key v : Value}
    (h : I.Holds (.map entries)) (found : Value.mapGet? objects entries key = some v) :
    I.Holds v := by
  obtain ⟨e, first, rfl⟩ := Option.map_eq_some_iff.mp found
  exact (h.entries e (List.mem_of_find?_eq_some first)).2

/-! ### Contexts -/

namespace HoldsIn

variable {ctx : Context} (h : I.HoldsIn ctx)
include h

theorem binding? {name : String} {v : Value} (found : ctx.binding? name = some v) : I.Holds v :=
  h.bindings.get? found

theorem argument? {name : String} {v : Value} (found : ctx.argument? name = some v) : I.Holds v := by
  obtain ⟨scope, mem, found⟩ := List.exists_of_findSome?_eq_some found
  exact (h.scopes scope mem).get? found

theorem setVariable (name : String) {v : Value} (hv : I.Holds v) :
    I.HoldsIn (ctx.setVariable name v) :=
  ⟨h.bindings.insert name hv, h.scopes, h.declarations⟩

theorem pushScope {scope : Bindings Value} (all : scope.All I.Holds) :
    I.HoldsIn (ctx.pushScope scope) := by
  refine ⟨h.bindings, fun other mem => ?_, h.declarations⟩
  rcases List.mem_cons.mp mem with rfl | mem
  · exact all
  · exact h.scopes other mem

theorem popScope : I.HoldsIn ctx.popScope :=
  ⟨h.bindings, fun scope mem => h.scopes scope (List.mem_of_mem_tail mem), h.declarations⟩

theorem visibleArguments : Bindings.All I.Holds ctx.visibleArguments := by
  have folded (scopes : List (Bindings Value)) (all : ∀ scope ∈ scopes, Bindings.All I.Holds scope) :
      Bindings.All I.Holds
        (scopes.foldr (fun scope seen => Bindings.insertAll seen scope) []) := by
    induction scopes with
    | nil => exact .nil
    | cons scope scopes ih =>
      exact (ih fun other mem => all other (by simp [mem])).insertAll (all scope (by simp))
  exact folded ctx.scopes h.scopes

end HoldsIn

/-- The context that an adapter keeps. -/
theorem Lawful.holdsIn_toContext (h : I.Lawful host) {a : Adapter} (ha : I.Holds (.adapter a)) :
    I.HoldsIn a.bound.toContext := by
  refine ⟨fun e mem => ha.part ?_, fun scope mem e bound => ha.part ?_, h.adapter a ha.self⟩
  · exact List.mem_cons_of_mem _ (List.mem_append_left _ (List.mem_map_of_mem mem))
  · have arguments : scope = a.bound.arguments := by
      unfold SnapshotOf.toContext at mem
      split at mem <;> simp_all
    rw [arguments] at bound
    exact List.mem_cons_of_mem _ (List.mem_append_right _ (List.mem_map_of_mem bound))

/-! ### Resolvers -/

namespace Answered

theorem none : I.Answered (return none : HookM σ (Option Value)) :=
  Yields.pure nofun

theorem some {v : Value} (hv : I.Holds v) : I.Answered (return some v : HookM σ (Option Value)) :=
  Yields.pure (by rintro _ ⟨⟩; exact hv)

/-- The first answer of several computations. -/
theorem firstSome {asks : List (HookM σ (Option Value))} (each : ∀ ask ∈ asks, I.Answered ask) :
    I.Answered (.firstSome asks) := by
  induction asks with
  | nil => exact none
  | cons ask rest ih =>
    refine Yields.bind (each ask (by simp)) fun answer held => ?_
    cases answer with
    | none => exact ih fun later mem => each later (by simp [mem])
    | some v => exact some (held v rfl)

theorem watch {ask : HookM σ (Option Value)} (h : I.Answered ask) :
    I.Answered (host.watch ask) := by
  intro s answer after run
  unfold Host.watch at run
  rcases asked : ask (host.note .asked s) with ⟨e | found, later⟩
  · rw [asked] at run
    cases run
  · rw [asked] at run
    cases run
    exact h asked

end Answered

theorem Answers.declining : I.Answers (Hooks.declining (σ := σ)) where
  get _ _ _ _ _ _ := Answered.none
  invoke _ _ _ _ _ _ _ := Answered.none
  call _ _ _ _ _ _ := Answered.none
  implicit _ _ _ := Answered.none

/-- What holds of all members of a chain holds of the chain. -/
theorem Answers.chain {members : List (Hooks σ)} (each : ∀ hooks ∈ members, I.Answers hooks) :
    I.Answers (.chain members) := by
  have first {ask : Hooks σ → HookM σ (Option Value)}
      (asks : ∀ hooks, I.Answers hooks → I.Answered (ask hooks)) :
      I.Answered (.firstSome (members.map ask)) := by
    refine .firstSome fun m mem => ?_
    obtain ⟨hooks, member, rfl⟩ := List.mem_map.mp mem
    exact asks hooks (each hooks member)
  exact {
    get := fun ctx base key inCtx hb hk => first fun _ all => all.get ctx base key inCtx hb hk
    invoke := fun ctx base method args inCtx hb ha =>
      first fun _ all => all.invoke ctx base method args inCtx hb ha
    call := fun ctx qualifier name args inCtx ha =>
      first fun _ all => all.call ctx qualifier name args inCtx ha
    implicit := fun ctx name inCtx => first fun _ all => all.implicit ctx name inCtx }

namespace Lawful

theorem answers_standard (h : I.Lawful host) : I.Answers (Standard.hooks host) := by
  have held {m : HookM σ (Option Value)} (answering : Standard.Answering m) : I.Answered m := by
    intro s answer after run v mem
    cases answering run v mem with
    | scalar scalar => exact h.holds_scalar scalar
    | pieces all => exact h.holds_array fun v mem => h.holds_scalar (all v mem)
  exact { Answers.declining with
    invoke := fun ctx base method args _ _ _ =>
      held (Standard.answering_invoke host ctx base method args)
    call := by
      intro ctx qualifier name args _ _
      show I.Answered (if _ then _ else _)
      split
      · exact held (Standard.answering_function host ctx name args)
      · exact .none }

mutual

/-- A resolver answers as the application's own resolvers within it do. -/
theorem answers (h : I.Lawful host) : ∀ r : Resolver,
    (∀ id ∈ r.applications, I.Answers (host.hooks id)) → I.Answers (r.hooks host)
  | .standard, _ => h.answers_standard
  | .chain members, application => .chain (h.answersOfAll members application)
  | .host _, application => application _ List.mem_cons_self

theorem answersOfAll (h : I.Lawful host) : ∀ members : List Resolver,
    (∀ id ∈ Resolver.applicationsOfAll members, I.Answers (host.hooks id)) →
      ∀ hooks ∈ Resolver.hooksOfAll host members, I.Answers hooks
  | [], _ => nofun
  | r :: rest, application => by
    intro hooks mem
    rcases List.mem_cons.mp mem with rfl | mem
    · exact h.answers r fun id mem => application id (List.mem_append_left _ mem)
    · exact h.answersOfAll rest (fun id mem => application id (List.mem_append_right _ mem))
        hooks mem

end

/-- A request that a context puts to its resolver. -/
theorem answered_claim (h : I.Lawful host) {ctx : Context} (inCtx : I.HoldsIn ctx)
    {ask : Hooks σ → HookM σ (Option Value)}
    (asks : ∀ hooks, I.Answers hooks → I.Answered (ask hooks)) :
    I.Answered (ctx.claim host fun r => ask (r.hooks host)) := by
  unfold Context.claim
  refine Yields.after fun _ => ?_
  split
  · exact Answered.none
  · rename_i r resolver
    have application : ∀ id ∈ r.applications, I.Answers (host.hooks id) := by
      refine fun id mem => h.application inCtx.declarations ?_
      rw [Environment.applications, resolver]
      exact mem
    refine Yields.bind (Answered.watch (asks _ (h.answers r application))) fun found held => ?_
    dsimp only
    split
    · exact Yields.after fun _ => Yields.pure held
    · exact Yields.pure held

end Lawful

end Invariant

end ExprLang
