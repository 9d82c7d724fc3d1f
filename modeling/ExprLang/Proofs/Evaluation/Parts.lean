import ExprLang.Context
import Mathlib.Logic.Relation

/-!
# What values and expressions are made of

A value holds others: the elements of a collection, what a lambda has captured, the lambda of an
adapter and the variables and arguments that the adapter keeps. An expression has subexpressions, the
body of a lambda among them. Going from parts to their parts one comes to everything that evaluation
can come to (`Value.Reaches`, `Expr.Occurs`); `Throughout` says that something holds of all of it.
-/

namespace ExprLang

variable {α : Type}

/-- A property of everything that can be reached from `a` by going on to parts. -/
def Throughout (parts : α → List α) (P : α → Prop) (a : α) : Prop :=
  ∀ b, Relation.ReflTransGen (fun whole part => part ∈ parts whole) a b → P b

namespace Throughout

variable {parts : α → List α} {P : α → Prop} {a : α}

theorem self (h : Throughout parts P a) : P a :=
  h a .refl

theorem part (h : Throughout parts P a) {b : α} (mem : b ∈ parts a) : Throughout parts P b :=
  fun c reach => h c (.head mem reach)

theorem iff : Throughout parts P a ↔ P a ∧ ∀ b ∈ parts a, Throughout parts P b := by
  refine ⟨fun h => ⟨h.self, fun b mem => h.part mem⟩, fun ⟨self, parts⟩ b reach => ?_⟩
  rcases reach.cases_head with rfl | ⟨c, mem, rest⟩
  · exact self
  · exact parts c mem b rest

/-- Of what has no parts it has to hold by itself only. -/
theorem leaf (h : P a) (none : parts a = []) : Throughout parts P a :=
  iff.mpr ⟨h, by rw [none]; exact nofun⟩

end Throughout

/-! ### Bindings -/

namespace Bindings

variable {β : Type} {P : β → Prop}

/-- A property of everything that names are bound to. -/
def All (P : β → Prop) (b : Bindings β) : Prop :=
  ∀ e ∈ b, P e.2

namespace All

variable {b : Bindings β}

theorem nil : All P [] :=
  nofun

theorem get? (h : All P b) {name : String} {x : β} (found : b.get? name = some x) : P x := by
  induction b with
  | nil => cases found
  | cons e rest ih =>
    rw [Bindings.get?] at found
    split at found
    · cases found
      exact h e (by simp)
    · exact ih (fun later mem => h later (by simp [mem])) found

theorem insert (h : All P b) (name : String) {x : β} (hx : P x) : All P (b.insert name x) := by
  induction b with
  | nil =>
    intro e mem
    rw [Bindings.insert, List.mem_singleton] at mem
    rw [mem]
    exact hx
  | cons first rest ih =>
    have later : All P rest := fun e mem => h e (by simp [mem])
    rw [Bindings.insert]
    split
    · intro e mem
      rcases List.mem_cons.mp mem with rfl | mem
      · exact hx
      · exact later e mem
    · intro e mem
      rcases List.mem_cons.mp mem with rfl | mem
      · exact h _ (by simp)
      · exact ih later e mem

theorem insertAll (h : All P b) {more : Bindings β} (hmore : All P more) :
    All P (b.insertAll more) := by
  unfold Bindings.insertAll
  induction more generalizing b with
  | nil => exact h
  | cons e rest ih =>
    exact ih (h.insert e.1 (hmore e (by simp))) fun later mem => hmore later (by simp [mem])

theorem zip {values : List β} (h : ∀ x ∈ values, P x) (names : List String) :
    All P (names.zip values) :=
  fun _ mem => h _ (List.of_mem_zip mem).2

end All

end Bindings

/-! ### Values -/

namespace Value

/-- What a value holds, one level down. -/
def parts : Value → List Value
  | list items | set items | array items => items
  | map entries => entries.map Prod.fst ++ entries.map Prod.snd
  | lambda l => l.captured.map Prod.snd
  | adapter a => lambda a.lambda :: (a.bound.bindings.map Prod.snd ++ a.bound.arguments.map Prod.snd)
  | _ => []

/-- Whether the value is neither a collection nor a lambda nor an adapter. -/
def isScalar : Value → Bool
  | list _ | set _ | array _ | map _ | lambda _ | adapter _ => false
  | _ => true

theorem isScalar_of_isNumber {v : Value} (number : v.isNumber = true) : v.isScalar = true := by
  cases v <;> first | rfl | cases number

/-- Scalars have no parts. -/
theorem parts_of_isScalar {v : Value} (scalar : v.isScalar = true) : v.parts = [] := by
  cases v <;> first | rfl | cases scalar

/-- The second value is within the first one, or is itself. -/
def Reaches : Value → Value → Prop :=
  Relation.ReflTransGen fun whole part => part ∈ whole.parts

/-- Within a scalar there is nothing else. -/
theorem Reaches.eq_of_isScalar {v w : Value} (h : v.Reaches w) (scalar : v.isScalar = true) :
    w = v := by
  rcases h.cases_head with same | ⟨part, mem, -⟩
  · exact same.symm
  · rw [parts_of_isScalar scalar] at mem
    cases mem

end Value

/-- The value is within a variable or an argument of the context. -/
def Context.Reaches (ctx : Context) (v : Value) : Prop :=
  (∃ e ∈ ctx.bindings, e.2.Reaches v) ∨ ∃ scope ∈ ctx.scopes, ∃ e ∈ scope, e.2.Reaches v

/-! ### Expressions -/

namespace Expr

/-- The operands of an expression, or the body of a lambda. -/
@[simp] def children : Expr → List Expr
  | access object property => [object, property]
  | method object _ args => object :: args
  | function _ _ args => args
  | call callee args => callee :: args
  | unary _ operand => [operand]
  | binary _ left right => [left, right]
  | conditional condition yes no => [condition, yes, no]
  | instanceOf operand _ => [operand]
  | list items | set items | sequence items => items
  | map entries => entries.map Prod.fst ++ entries.map Prod.snd
  | lambda _ body => [body]
  | assign target value => [target, value]
  | _ => []

/-- The first expression occurs in the second one, or is itself. -/
def Occurs (sub e : Expr) : Prop :=
  Relation.ReflTransGen (fun whole part => part ∈ whole.children) e sub

/-- The variable that an assignment to the expression sets if nobody claims it: the name itself, or
the name whose value has the property. -/
def assigned? : Expr → Option String
  | identifier name => some name
  | access (identifier name) _ => some name
  | _ => none

/-- An assignment to the name, or to a property of its value, occurs in the expression. -/
def AssignsTo (e : Expr) (name : String) : Prop :=
  ∃ target value, (assign target value).Occurs e ∧ target.assigned? = some name

end Expr

end ExprLang
