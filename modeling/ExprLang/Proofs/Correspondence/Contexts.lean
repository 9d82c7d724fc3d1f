import ExprLang.Evaluation
import ExprLang.Proofs.Correspondence.Values
import Mathlib.Data.List.Nodup

/-!
# Contexts of two runs that correspond

Two contexts correspond (`Correspondence.Contexts`) if their variables have like values name by name, if
so have the arguments of calls that can be seen, hidden names apart, and if they have the same
declarations. How the arguments are spread over scopes is left open: a context and one of its own with what
a snapshot keeps of it have one stack of scopes and one single scope, and correspond.

The scopes of two lambda calls on corresponding scopes correspond again (`Scopes.call`), and lambdas made
under corresponding scopes are alike (`Contexts.lambda`).
-/

namespace ExprLang

/-! ### Bindings -/

namespace Bindings

variable {α β : Type}

theorem get?_append (b more : Bindings α) (name : String) :
    get? (b ++ more) name = (get? b name).or (get? more name) := by
  induction b with
  | nil => rfl
  | cons e rest ih =>
    obtain ⟨n, x⟩ := e
    rw [List.cons_append, get?, get?]
    split
    · rfl
    · exact ih

/-- Of several values that are added for a name the last one stays. -/
theorem get?_insertAll (b more : Bindings α) (name : String) :
    (b.insertAll more).get? name = (get? more.reverse name).or (b.get? name) := by
  unfold insertAll
  induction more generalizing b with
  | nil => rfl
  | cons e rest ih =>
    obtain ⟨n, x⟩ := e
    rw [List.foldl_cons, ih, get?_insert, List.reverse_cons, get?_append, Option.or_assoc, get?]
    split <;> rfl

theorem isSome_get?_iff {b : Bindings α} {name : String} :
    (b.get? name).isSome ↔ name ∈ b.map Prod.fst := by
  induction b with
  | nil => simp [get?]
  | cons e rest ih =>
    obtain ⟨n, x⟩ := e
    rw [get?, List.map_cons, List.mem_cons]
    split
    · simp_all
    · rename_i other
      rw [ih]
      simp [Ne.symm other]

theorem mem_names_insert {b : Bindings α} {name other : String} {a : α} :
    other ∈ (b.insert name a).map Prod.fst ↔ other = name ∨ other ∈ b.map Prod.fst := by
  rw [← isSome_get?_iff, get?_insert, ← isSome_get?_iff]
  by_cases same : name = other
  · simp [same]
  · simp [same, Ne.symm same]

namespace Distinct

theorem nil : Distinct ([] : Bindings α) :=
  List.nodup_nil

theorem insert {b : Bindings α} (h : b.Distinct) (name : String) (a : α) :
    (b.insert name a).Distinct := by
  induction b with
  | nil => exact List.nodup_singleton name
  | cons e rest ih =>
    obtain ⟨n, x⟩ := e
    obtain ⟨new, later⟩ := List.nodup_cons.mp h
    rw [Bindings.insert]
    split
    · exact h
    · rename_i other
      refine List.nodup_cons.mpr ⟨fun mem => ?_, ih later⟩
      exact (mem_names_insert.mp mem).elim other new

theorem insertAll {b : Bindings α} (h : b.Distinct) (more : Bindings α) :
    (b.insertAll more).Distinct := by
  unfold Bindings.insertAll
  induction more generalizing b with
  | nil => exact h
  | cons e rest ih => exact ih (h.insert e.1 e.2)

/-- Where no name is bound twice, the order does not matter. -/
theorem get?_reverse {b : Bindings α} (h : b.Distinct) (name : String) :
    get? b.reverse name = b.get? name := by
  induction b with
  | nil => rfl
  | cons e rest ih =>
    obtain ⟨n, x⟩ := e
    obtain ⟨new, later⟩ := List.nodup_cons.mp h
    rw [List.reverse_cons, get?_append, ih later]
    show (get? rest name).or (if n = name then some x else none) =
      if n = name then some x else get? rest name
    split
    · rename_i found
      have none : get? rest name = none := by
        rw [← Option.not_isSome_iff_eq_none, isSome_get?_iff, ← found]
        exact new
      rw [none]
      rfl
    · exact Option.or_none

end Distinct

/-- Lists with the same names in the same places give related values. -/
theorem rel_get? {R : α → β → Prop} {b : Bindings α} {c : Bindings β}
    (all : List.Forall₂ (fun e f => e.1 = f.1 ∧ R e.2 f.2) b c) (name : String) :
    Option.Rel R (b.get? name) (c.get? name) := by
  induction all with
  | nil => exact .none
  | cons related _ ih =>
    rw [get?, get?, related.1]
    split
    · exact .some related.2
    · exact ih

theorem rel_insert {R : α → β → Prop} {b : Bindings α} {c : Bindings β}
    (all : ∀ name, Option.Rel R (b.get? name) (c.get? name)) (name : String) {x : α} {y : β}
    (related : R x y) (other : String) :
    Option.Rel R ((b.insert name x).get? other) ((c.insert name y).get? other) := by
  rw [get?_insert, get?_insert]
  split
  · exact .some related
  · exact all other

end Bindings

theorem rel_or {α β : Type} {R : α → β → Prop} {x x' : Option α} {y y' : Option β}
    (first : Option.Rel R x y) (second : Option.Rel R x' y') :
    Option.Rel R (x.or x') (y.or y') := by
  cases first with
  | some related => exact .some related
  | none => exact second

theorem exists_of_rel_of_isSome {α β : Type} {R : α → β → Prop} {x : Option α} {y : Option β}
    (related : Option.Rel R x y) (present : x.isSome) :
    ∃ a b, x = some a ∧ y = some b ∧ R a b := by
  cases related with
  | none => cases present
  | some related => exact ⟨_, _, rfl, rfl, related⟩

/-! ### Arguments of calls -/

/-- The argument with a name in the innermost of several scopes that has one. -/
def argumentIn (scopes : List (Bindings Value)) (name : String) : Option Value :=
  scopes.findSome? fun scope => Bindings.get? scope name

theorem argumentIn_cons (scope : Bindings Value) (scopes : List (Bindings Value)) (name : String) :
    argumentIn (scope :: scopes) name = (scope.get? name).or (argumentIn scopes name) := by
  unfold argumentIn
  rw [List.findSome?_cons]
  cases scope.get? name <;> rfl

theorem Context.distinct_visibleArguments (ctx : Context) :
    Bindings.Distinct ctx.visibleArguments := by
  unfold visibleArguments
  induction ctx.scopes with
  | nil => exact .nil
  | cons scope scopes ih => exact ih.insertAll scope

/-- The arguments that can be seen are those that are found by name. -/
theorem Context.get?_visibleArguments {ctx : Context}
    (distinct : ∀ scope ∈ ctx.scopes, Bindings.Distinct scope) (name : String) :
    ctx.visibleArguments.get? name = ctx.argument? name := by
  show _ = argumentIn ctx.scopes name
  unfold visibleArguments
  induction scopes : ctx.scopes generalizing ctx with
  | nil => rfl
  | cons scope rest ih =>
    rw [scopes, List.forall_mem_cons] at distinct
    have inner := @ih ⟨[], rest, .empty⟩ distinct.2 rfl
    rw [List.foldr_cons, Bindings.get?_insertAll, inner, distinct.1.get?_reverse, argumentIn_cons]

/-- A context of its own has the arguments that were kept. -/
theorem SnapshotOf.argumentIn_toContext (s : Snapshot) (name : String) :
    argumentIn s.toContext.scopes name = Bindings.get? s.arguments name := by
  unfold toContext
  dsimp only
  split
  · rename_i empty
    rw [List.isEmpty_iff.mp empty]
    rfl
  · rw [argumentIn_cons]
    exact Option.or_none

theorem SnapshotOf.distinct_toContext {s : Snapshot} (distinct : Bindings.Distinct s.arguments) :
    ∀ scope ∈ s.toContext.scopes, Bindings.Distinct scope := by
  unfold toContext
  dsimp only
  split
  · exact nofun
  · intro scope mem
    rw [List.mem_singleton.mp mem]
    exact distinct

/-- The argument of a call for a name is the last one that a parameter of the name has, else what the
lambda has captured under the name. -/
theorem Eval.get?_scopeOf (l : Lambda) (args : List Value) (name : String) :
    (scopeOf l args).get? name =
      (Bindings.get? (l.params.zip args).reverse name).or (Bindings.get? l.captured name) :=
  Bindings.get?_insertAll l.captured _ name

/-! ### Scopes that correspond -/

variable {σ : Type}

namespace Correspondence

variable {C : Correspondence σ}

/-- The two stacks of scopes have like arguments, hidden names apart. -/
structure Scopes (C : Correspondence σ) (scopes scopes' : List (Bindings Value)) : Prop where
  distinct : ∀ scope ∈ scopes, Bindings.Distinct scope
  distinct' : ∀ scope ∈ scopes', Bindings.Distinct scope
  arguments : ∀ n, n ∉ C.hidden → Option.Rel C.Values (argumentIn scopes n) (argumentIn scopes' n)

/-- Code may read the name under these scopes: it is not hidden, or both stacks have like arguments for
it. -/
def Visible (C : Correspondence σ) (scopes scopes' : List (Bindings Value)) (n : String) : Prop :=
  n ∉ C.hidden ∨
    ∃ v v', argumentIn scopes n = some v ∧ argumentIn scopes' n = some v' ∧ C.Values v v'

/-- The two contexts differ no further than the runs may. -/
structure Contexts (C : Correspondence σ) (ctx ctx' : Context) : Prop where
  bindings : ∀ n, Option.Rel C.Values (ctx.binding? n) (ctx'.binding? n)
  scopes : C.Scopes ctx.scopes ctx'.scopes
  environment : ctx.environment = ctx'.environment
  declarations : C.declarations ctx.environment

/-- The arguments of calls go to the parameters of the same names. -/
theorem rel_zip {args args' : List Value} (all : List.Forall₂ C.Values args args')
    (params : List String) (n : String) :
    Option.Rel C.Values (Bindings.get? (params.zip args).reverse n)
      (Bindings.get? (params.zip args').reverse n) := by
  refine Bindings.rel_get? (List.rel_reverse ?_) n
  induction all generalizing params with
  | nil => simp
  | cons like _ ih =>
    cases params with
    | nil => exact .nil
    | cons param rest => exact .cons ⟨rfl, like⟩ (ih rest)

/-- Each parameter gets an argument if there are enough of them. -/
theorem isSome_zip {params : List String} {args : List Value} (enough : params.length ≤ args.length)
    {n : String} (mem : n ∈ params) :
    (Bindings.get? (params.zip args).reverse n).isSome := by
  rw [Bindings.isSome_get?_iff, List.map_reverse, List.mem_reverse, List.map_fst_zip enough]
  exact mem

namespace Scopes

variable {scopes scopes' : List (Bindings Value)} (h : C.Scopes scopes scopes')
include h

theorem argument {n : String} (visible : C.Visible scopes scopes' n) :
    Option.Rel C.Values (argumentIn scopes n) (argumentIn scopes' n) := by
  rcases visible with seen | ⟨v, v', found, found', like⟩
  · exact h.arguments n seen
  · rw [found, found']
    exact .some like

/-- The scopes of two calls of like lambdas with like arguments. -/
theorem call {l l' : Lambda} {args args' : List Value} (like : C.Values (.lambda l) (.lambda l'))
    (all : List.Forall₂ C.Values args args') (enough : l.params.length ≤ args.length) :
    C.Scopes (Eval.scopeOf l args :: scopes) (Eval.scopeOf l' args' :: scopes') ∧
      ∀ n ∈ l.body.reads,
        C.Visible (Eval.scopeOf l args :: scopes) (Eval.scopeOf l' args' :: scopes') n := by
  cases like with
  | scalar scalar => cases scalar
  | @lambda i j params body captured captured' _ distinct distinct' kept bound =>
    have parameters := rel_zip all params
    refine ⟨⟨List.forall_mem_cons.mpr ⟨distinct.insertAll _, h.distinct⟩,
      List.forall_mem_cons.mpr ⟨distinct'.insertAll _, h.distinct'⟩, fun n seen => ?_⟩,
      fun n read => or_iff_not_imp_left.mpr fun hidden => ?_⟩
    · rw [argumentIn_cons, argumentIn_cons, Eval.get?_scopeOf, Eval.get?_scopeOf]
      exact rel_or (rel_or (parameters n) (kept n (.inl seen))) (h.arguments n seen)
    · -- a name that the body reads is a parameter, or else the lambda itself reads it
      rw [argumentIn_cons, argumentIn_cons, Eval.get?_scopeOf, Eval.get?_scopeOf]
      by_cases param : n ∈ params
      · obtain ⟨v, v', found, found', like⟩ :=
          exists_of_rel_of_isSome (parameters n) (isSome_zip enough param)
        exact ⟨v, v', by rw [found]; rfl, by rw [found']; rfl, like⟩
      · have reads : n ∈ (Expr.lambda params body).reads :=
          List.mem_filter.mpr ⟨read, by simpa using param⟩
        have present := bound n (not_not.mp hidden) reads
        obtain ⟨v, v', found, found', like⟩ :=
          exists_of_rel_of_isSome (rel_or (parameters n) (kept n (.inr reads)))
            (by rw [Option.isSome_or, present, Bool.or_true])
        exact ⟨v, v', by rw [found]; rfl, by rw [found']; rfl, like⟩

end Scopes

namespace Contexts

variable {ctx ctx' : Context} (h : C.Contexts ctx ctx')
include h

/-- Lambdas that are made in the two contexts. -/
theorem lambda {i j : Nat} (ids : C.ids i j) {params : List String} {body : Expr}
    (visible : ∀ n ∈ (Expr.lambda params body).reads, C.Visible ctx.scopes ctx'.scopes n) :
    C.Values (.lambda ⟨i, params, body, ctx.visibleArguments⟩)
      (.lambda ⟨j, params, body, ctx'.visibleArguments⟩) := by
  refine .lambda ids ctx.distinct_visibleArguments ctx'.distinct_visibleArguments
    (fun n seen => ?_) fun n hidden read => ?_
  · rw [Context.get?_visibleArguments h.scopes.distinct,
      Context.get?_visibleArguments h.scopes.distinct']
    exact h.scopes.argument (seen.elim .inl (visible n))
  · rw [Context.get?_visibleArguments h.scopes.distinct]
    obtain ⟨v, _, found, _, _⟩ := (visible n read).resolve_left (not_not.mpr hidden)
    exact Option.isSome_of_eq_some found

theorem setVariable (name : String) {v v' : Value} (like : C.Values v v') :
    C.Contexts (ctx.setVariable name v) (ctx'.setVariable name v') :=
  ⟨Bindings.rel_insert h.bindings name like, h.scopes, h.environment, h.declarations⟩

end Contexts

/-- The contexts that like adapters keep. -/
theorem Contexts.of_adapter {a a' : Adapter} (like : C.Values (.adapter a) (.adapter a')) :
    C.Contexts a.bound.toContext a'.bound.toContext := by
  cases like with
  | scalar scalar => cases scalar
  | adapter _ _ bindings distinct distinct' arguments declarations =>
    refine ⟨bindings, ⟨SnapshotOf.distinct_toContext distinct,
      SnapshotOf.distinct_toContext distinct', fun n seen => ?_⟩, rfl, declarations⟩
    rw [SnapshotOf.argumentIn_toContext, SnapshotOf.argumentIn_toContext]
    exact arguments n seen

theorem Values.lambda_of_adapter {a a' : Adapter} (like : C.Values (.adapter a) (.adapter a')) :
    C.Values (.lambda a.lambda) (.lambda a'.lambda) := by
  cases like with
  | scalar scalar => cases scalar
  | adapter _ inner _ _ _ _ _ => exact inner

/-! ### What is in sight of a context -/

section

variable {ctx : Context} (fixed : ∀ v, ctx.Reaches v → C.Fixes v)
include fixed

theorem binding_values : ctx.bindings.All fun v => C.Values v v :=
  fun e mem => values_self fun v reach => fixed v (.inl ⟨e, mem, reach⟩)

theorem argument_values {name : String} {v : Value} (found : ctx.argument? name = some v) :
    C.Values v v := by
  obtain ⟨scope, mem, found⟩ := List.exists_of_findSome?_eq_some found
  have all : Bindings.All (fun v => C.Values v v) scope :=
    fun e bound => values_self fun v reach => fixed v (.inr ⟨scope, mem, e, bound, reach⟩)
  exact all.get? found

/-- A context and one of its own with what a snapshot keeps of it. -/
theorem Contexts.snapshot (distinct : ∀ scope ∈ ctx.scopes, Bindings.Distinct scope)
    (declared : C.declarations ctx.environment) : C.Contexts ctx ctx.snapshot.toContext := by
  refine ⟨rel_get?_self (binding_values fixed), ⟨distinct,
    SnapshotOf.distinct_toContext ctx.distinct_visibleArguments, fun n _ => ?_⟩, rfl, declared⟩
  rw [SnapshotOf.argumentIn_toContext]
  show Option.Rel C.Values (ctx.argument? n) (ctx.visibleArguments.get? n)
  rw [Context.get?_visibleArguments distinct]
  cases found : ctx.argument? n with
  | none => exact .none
  | some v => exact .some (argument_values fixed found)

end

end Correspondence

end ExprLang
