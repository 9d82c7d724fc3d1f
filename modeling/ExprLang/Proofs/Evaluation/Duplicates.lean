import ExprLang.Proofs.Equality.Distinct
import ExprLang.Proofs.Evaluation.Assigned

/-!
# Evaluation makes no duplicates

Sets and maps are looked up, and compared, as if they held nothing twice. Evaluation sees to it: it makes
sets of items that differ, binds the keys of maps one by one, and changes stored maps by their keys and
stored lists, never sets, by their places. What it does not make comes from resolvers, which have to give
values without duplicates. Those of the context are asked, and those of the contexts that adapters keep.

**Key theorem**: `eval_duplicateFree`.
-/

namespace ExprLang

open Value (Differ DifferEitherWay LawfulObjects)

variable {σ : Type}

/-- The elements of each set within the variables and arguments of the context, and the keys of each map
within them, are apart from each other. -/
def Context.DuplicateFree (D : Value → Value → Prop) (ctx : Context) : Prop :=
  ∀ v, ctx.Reaches v → v.HoldsApart D

theorem Context.DuplicateFree.either_way {m : ObjectModel} (lawful : LawfulObjects m) {ctx : Context}
    (h : ctx.DuplicateFree (Differ m)) : ctx.DuplicateFree (DifferEitherWay m) := by
  obtain ⟨bindings, scopes⟩ := Context.forall_reaches_iff.mp h
  have turned {v : Value} (all : v.DuplicateFree (Differ m)) : v.DuplicateFree (DifferEitherWay m) :=
    all.either_way lawful
  exact Context.forall_reaches_iff.mpr ⟨fun e mem => turned (bindings e mem),
    fun scope opened e mem => turned (scopes scope opened e mem)⟩

/-! ### The invariant -/

/-- Sets and maps hold nothing twice, and contexts, those that adapters keep among them, ask resolvers of
the application in `R` only. -/
def Invariant.duplicateFree (m : ObjectModel) (R : Set Nat) : Invariant where
  value
    | .adapter a => ∀ id ∈ a.bound.environment.applications, id ∈ R
    | v => v.HoldsApart (Differ m)
  code _ := True
  declarations environment := ∀ id ∈ environment.applications, id ∈ R
  settable _ := True

namespace Invariant

variable {host : Host σ} {m : ObjectModel} {R : Set Nat}

/-- Evaluation adds to sets and maps what they do not hold. -/
theorem lawful_duplicateFree
    (answers : ∀ id ∈ R, (duplicateFree host.objects R).Answers (host.hooks id)) :
    (duplicateFree host.objects R).Lawful host where
  scalar {v} scalar := by cases v <;> trivial
  list _ := trivial
  array _ := trivial
  setOf items _ := Value.pairwise_distinct host.objects items
  noEntries := .nil
  mapInsert entries key v all _ _ := by
    have apart : (entries.map Prod.fst).Pairwise (Differ host.objects) := all.self
    show List.Pairwise _ _
    rw [Value.keys_mapInsert]
    exact Value.pairwise_adjoin apart key
  lambda _ := ⟨fun _ _ _ => trivial, fun _ => trivial⟩
  adapter _ asked := asked
  assign _ _ := trivial
  application asked mem := answers _ (asked _ mem)

theorem value_duplicateFree_iff {v : Value} : (duplicateFree m R).value v ↔
    v.HoldsApart (Differ m) ∧ ∀ a, v = .adapter a → ∀ id ∈ a.bound.environment.applications, id ∈ R := by
  cases v with
  | adapter a =>
    refine ⟨fun asked => ⟨trivial, ?_⟩, fun h => h.2 a rfl⟩
    rintro _ ⟨⟩
    exact asked
  | _ => exact ⟨fun apart => ⟨apart, nofun⟩, And.left⟩

end Invariant

/-! ### Evaluation -/

/-- What an evaluation has come to holds nothing twice: the value, if there is one, and the context. -/
structure LeavesDuplicateFree (D : Value → Value → Prop)
    (run : Except (Halt EvalError) Value × Session σ) : Prop where
  result : ∀ v, run.1 = .ok v → v.DuplicateFree D
  context : run.2.context.DuplicateFree D

/-- In a context without duplicates whose resolvers give no duplicates, an expression evaluates to a value
without duplicates, if to any, and leaves a context without duplicates. `R` has to hold the application's
own resolvers that are asked in the context and in those that adapters within it keep; it may hold all of
them. An item of a set differs from all later ones, and if the application's objects are lawful from all
earlier ones too. -/
theorem eval_duplicateFree (host : Host σ) {ctx : Context} {R : Set Nat}
    (formed : ctx.DuplicateFree (Differ host.objects))
    (own : ∀ id ∈ ctx.environment.applications, id ∈ R)
    (asked : ∀ a, ctx.Reaches (.adapter a) → ∀ id ∈ a.bound.environment.applications, id ∈ R)
    (answers : ∀ id ∈ R, (Invariant.duplicateFree host.objects R).Answers (host.hooks id))
    (e : Expr) (s : Ambient σ) :
    let run := e.eval host ⟨ctx, s⟩
    LeavesDuplicateFree (Differ host.objects) run ∧
      (LawfulObjects host.objects → LeavesDuplicateFree (DifferEitherWay host.objects) run) := by
  intro run
  have all : ∀ v, ctx.Reaches v → (Invariant.duplicateFree host.objects R).value v := by
    intro v reach
    refine Invariant.value_duplicateFree_iff.mpr ⟨formed v reach, fun a same => ?_⟩
    exact asked a (same ▸ reach)
  obtain ⟨bindings, scopes⟩ := Context.forall_reaches_iff.mp all
  have runs : (Invariant.duplicateFree host.objects R).Runs e := fun _ _ => trivial
  have kept := (Invariant.lawful_duplicateFree answers).eval runs ⟨ctx, s⟩ ⟨bindings, scopes, own⟩
  have left : LeavesDuplicateFree (Differ host.objects) run := by
    refine ⟨fun v result w reach => ?_, fun v reach => ?_⟩
    · exact (Invariant.value_duplicateFree_iff.mp (kept.result v result w reach)).1
    · have within := Context.forall_reaches_iff.mpr ⟨kept.context.bindings, kept.context.scopes⟩
      exact (Invariant.value_duplicateFree_iff.mp (within v reach)).1
  exact ⟨left, fun lawful => ⟨fun v result => (left.result v result).either_way lawful,
    left.context.either_way lawful⟩⟩

/-! ### A set in a map -/

/-- An application whose resolver gives a value for one name. -/
def Host.naming (name : String) (v : Value) : Host Unit :=
  { Host.plain false with
    hooks := fun _ =>
      { Hooks.declining with
        get := fun _ base key =>
          return if base.isNone && key.text? == some name then some v else none } }

open Value Invariant in
/-- A set that a resolver gives is put into another set twice, and that one into a map under a key that
the map has. -/
theorem eval_duplicateFree_nested :
    let inner : Value := set [long 1, long 2]
    let host := Host.naming "x" inner
    let ctx : Context := ⟨[("m", map [(long 1, null)])], [],
      { Environment.empty with resolver := some (.host 0) }⟩
    let e : Expr := .assign (.access (.identifier "m") (.integer 1))
      (.set [.identifier "x", .identifier "x", .integer 1])
    let R : Set Nat := {0}
    let run := e.eval host ⟨ctx, ⟨true, 0, ()⟩⟩
    ctx.DuplicateFree (Differ host.objects) ∧
      (∀ id ∈ ctx.environment.applications, id ∈ R) ∧
      (∀ a, ctx.Reaches (adapter a) → ∀ id ∈ a.bound.environment.applications, id ∈ R) ∧
      (∀ id ∈ R, (duplicateFree host.objects R).Answers (host.hooks id)) ∧
      LawfulObjects host.objects ∧
      LeavesDuplicateFree (DifferEitherWay host.objects) run ∧
      run.1 = .ok (set [inner, long 1]) ∧
      run.2.context.binding? "m" = some (map [(long 1, set [inner, long 1])]) := by
  intro inner host ctx e R run
  have scalar {v : Value} (is : v.isScalar = true) : (duplicateFree host.objects R).Holds v := by
    refine .leaf ?_ (parts_of_isScalar is)
    cases v <;> trivial
  have given : (duplicateFree host.objects R).Holds inner := by
    refine Throughout.iff.mpr ⟨?_, fun v part => ?_⟩
    · show List.Pairwise _ _
      simp [Differ, Same, same, sameLeaf]
    · have either : v = long 1 ∨ v = long 2 := by simpa [inner, parts] using part
      rcases either with rfl | rfl
      · exact scalar rfl
      · exact scalar rfl
  have within : ∀ v, ctx.Reaches v → (duplicateFree host.objects R).value v := by
    refine Context.forall_reaches_iff.mpr ⟨fun e mem => ?_, fun scope mem => by cases mem⟩
    rw [List.mem_singleton.mp mem]
    refine Throughout.iff.mpr ⟨List.pairwise_singleton _ _, fun v part => ?_⟩
    have either : v = long 1 ∨ v = null := by simpa [parts] using part
    rcases either with rfl | rfl
    · exact scalar rfl
    · exact scalar rfl
  have formed : ctx.DuplicateFree (Differ host.objects) :=
    fun v reach => (value_duplicateFree_iff.mp (within v reach)).1
  have own : ∀ id ∈ ctx.environment.applications, id ∈ R := fun id mem => List.mem_singleton.mp mem
  have answers : ∀ id ∈ R, (duplicateFree host.objects R).Answers (host.hooks id) := by
    refine fun _ _ => { Answers.declining with get := fun _ base key _ _ _ => ?_ }
    show Answered _ (Pure.pure (if _ then _ else _))
    split
    · exact Answered.some given
    · exact Answered.none
  have left := eval_duplicateFree host formed own (fun a reach => within (adapter a) reach) answers e
    ⟨true, 0, ()⟩
  have made : Value.setOf host.objects [inner, inner, long 1] = set [inner, long 1] := by
    simp [Value.setOf, distinct, memberOf, inner, same, sameLeaf, allIn, isIn]
  have stored (v : Value) : mapInsert host.objects [(long 1, null)] (long 1) v = [(long 1, v)] := by
    simp [mapInsert, same, sameLeaf]
  refine ⟨formed, own, fun a reach => within (adapter a) reach, answers, lawfulObjects_plain,
    left.2 lawfulObjects_plain, ?_, ?_⟩
  · rw [← made]
    rfl
  · rw [← made, ← stored]
    rfl

end ExprLang
