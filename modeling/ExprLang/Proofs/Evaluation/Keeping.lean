import ExprLang.Proofs.Evaluation.Invariant

/-!
# Evaluations keep invariants

Every step of an evaluation keeps a lawful invariant: what it evaluates to is something that the
invariant holds of, the context it leaves is one, and variables that may not be set are as before. The
syntax is gone through once, with the invariant of the code that is run; calls within calls are an
induction on their depth.

**Key theorem**: `Invariant.Lawful.eval`.
-/

namespace ExprLang

open Eval

variable {σ α β : Type}

/-! ### Arithmetic -/

namespace Arithmetic

/-- A number at the end of a computation. -/
theorem isNumber_of_bind {r : Except EvalError α} {f : α → Except EvalError Value}
    (number : ∀ {a v}, f a = .ok v → v.isNumber = true) {v : Value} (h : (r >>= f) = .ok v) :
    v.isNumber = true := by
  cases r with
  | error e => cases h
  | ok a => exact number h

theorem isNumber_of_make {r : Except EvalError α} {g : α → Value}
    (number : ∀ a, (g a).isNumber = true) {v : Value} (h : (do return g (← r)) = .ok v) :
    v.isNumber = true :=
  isNumber_of_bind (fun {a w} made => by cases made; exact number a) h

theorem isNumber_of_combine {op : Operator} {rank : Rank} {a b v : Value}
    (h : combine op rank a b = .ok v) : v.isNumber = true := by
  cases rank with
  | long => exact isNumber_of_bind (isNumber_of_bind (isNumber_of_make fun _ => rfl)) h
  | double => exact isNumber_of_bind (isNumber_of_make fun _ => rfl) h
  | bigInteger => exact isNumber_of_bind (isNumber_of_bind (isNumber_of_make fun _ => rfl)) h
  | decimal => exact isNumber_of_bind (isNumber_of_bind (isNumber_of_make fun _ => rfl)) h

/-- Arithmetic gives numbers. -/
theorem isNumber_of_apply {op : BinaryOp} {a b v : Value} (h : apply op a b = .ok v) :
    v.isNumber = true := by
  unfold apply at h
  split at h
  · cases h
    rfl
  split at h
  · exact isNumber_of_combine h
  · cases h

theorem isNumber_of_negate {v w : Value} (h : negate v = .ok w) : w.isNumber = true := by
  unfold negate at h
  split at h
  case h_4 =>
    split at h
    · exact isNumber_of_make (fun _ => rfl) h
    · exact isNumber_of_make (fun _ => rfl) h
  case h_11 => exact isNumber_of_make (fun _ => rfl) h
  all_goals
    cases h
    rfl

end Arithmetic

namespace Invariant

/-- What an evaluation that keeps the invariant comes to. -/
structure Kept (I : Invariant) (Q : α → Prop) (before : Context)
    (run : Except (Halt EvalError) α × Session σ) : Prop where
  context : I.HoldsIn run.2.context
  unset : ∀ name, ¬ I.settable name → run.2.context.binding? name = before.binding? name
  result : ∀ a, run.1 = .ok a → Q a

/-- In a context that the invariant holds of, the evaluation keeps it, and a value that it gives has
the property. -/
def Keeps (I : Invariant) (Q : α → Prop) (m : EvalM σ α) : Prop :=
  ∀ s, I.HoldsIn s.context → I.Kept Q s.context (m s)

/-- Calls of lambdas that the invariant holds of keep it. -/
def KeepsCalls (I : Invariant) (call : Invoker σ) : Prop :=
  ∀ l args, I.Holds (.lambda l) → (∀ a ∈ args, I.Holds a) → I.Keeps I.Holds (call l args)

variable {I : Invariant} {host : Host σ} {Q : α → Prop}

theorem Kept.of_still {before : Context} {run : Except (Halt EvalError) α × Session σ}
    (held : I.HoldsIn before) (still : run.2.context = before)
    (result : ∀ a, run.1 = .ok a → Q a) : I.Kept Q before run :=
  ⟨still.symm ▸ held, fun _ _ => by rw [still], result⟩

namespace Keeps

/-- A result that depends on nothing. -/
theorem outcome {r : Except (Halt EvalError) α} (h : ∀ a, r = .ok a → Q a) :
    I.Keeps Q (fun s => (r, s) : EvalM σ α) :=
  fun _ held => .of_still held rfl h

theorem pure {a : α} (h : Q a) : I.Keeps Q (Pure.pure a : EvalM σ α) :=
  outcome (by rintro _ ⟨⟩; exact h)

theorem fail (e : EvalError) : I.Keeps Q (Eval.fail e : EvalM σ α) :=
  outcome nofun

theorem bind {P : β → Prop} {m : EvalM σ β} {f : β → EvalM σ α} (hm : I.Keeps P m)
    (hf : ∀ b, P b → I.Keeps Q (f b)) : I.Keeps Q (m >>= f) := by
  intro s held
  have first := hm s held
  rw [bind_apply]
  rcases run : m s with ⟨e | b, between⟩
  · rw [run] at first
    exact ⟨first.context, first.unset, nofun⟩
  · rw [run] at first
    have rest := hf b (first.result b rfl) between first.context
    exact ⟨rest.context, fun name kept => (rest.unset name kept).trans (first.unset name kept),
      rest.result⟩

/-- Whatever the first part gives, the second part gives a value with the property. -/
theorem after {m : EvalM σ β} {f : β → EvalM σ α} (hm : I.Keeps (fun _ => True) m)
    (hf : ∀ b, I.Keeps Q (f b)) : I.Keeps Q (m >>= f) :=
  hm.bind fun b _ => hf b

/-- A look at the context. -/
theorem look {f : Session σ → EvalM σ α}
    (hf : ∀ s : Session σ, I.HoldsIn s.context → I.Keeps Q (f s)) : I.Keeps Q (get >>= f) :=
  fun s held => hf s held s held

/-- A computation on the surroundings. -/
theorem within {f : Context → HookM σ α} (hf : ∀ ctx, I.HoldsIn ctx → Yields Q (f ctx)) :
    I.Keeps Q (Eval.within f) := by
  refine fun s held => .of_still held rfl fun a result => ?_
  unfold Eval.within at result
  rcases run : f s.context s.ambient with ⟨e | b, after⟩
  · rw [run] at result
    cases result
  · rw [run] at result
    cases result
    exact hf s.context held run

/-- A computation on the surroundings of whose result nothing need be known. -/
theorem within_any {f : Context → HookM σ α} : I.Keeps (fun _ => True) (Eval.within f) :=
  within fun _ _ _ _ _ _ => trivial

theorem claim_any {ask : Hooks σ → Context → HookM σ (Option α)} :
    I.Keeps (fun _ => True) (Eval.claim host ask) :=
  within_any

/-- A change of a variable that may be set. -/
theorem setVariable {name : String} (settable : I.settable name) {v : Value} (hv : I.Holds v) :
    I.Keeps (fun _ => True)
      (modifyContext fun ctx => ctx.setVariable name v : EvalM σ Unit) := by
  refine fun s held => ⟨held.setVariable name hv, fun other kept => ?_, fun _ _ => trivial⟩
  show Bindings.get? (s.context.bindings.insert name v) other = _
  rw [Bindings.get?_insert, if_neg]
  · rfl
  · rintro rfl
    exact kept settable

end Keeps

namespace Lawful

variable (h : I.Lawful host)
include h

theorem keeps_scalar {v : Value} (scalar : v.isScalar = true) :
    I.Keeps I.Holds (return v : EvalM σ Value) :=
  .pure (h.holds_scalar scalar)

/-- A scalar, whatever it is computed from. -/
theorem keeps_make {m : EvalM σ α} {g : α → Value} (hm : I.Keeps (fun _ => True) m)
    (scalar : ∀ a, (g a).isScalar = true) : I.Keeps I.Holds (do return g (← m)) :=
  hm.after fun a => h.keeps_scalar (scalar a)

theorem keeps_claim {ask : Hooks σ → Context → HookM σ (Option Value)}
    (asks : ∀ hooks ctx, I.HoldsIn ctx → I.Answers hooks → I.Answered (ask hooks ctx)) :
    I.Keeps (fun answer => ∀ v ∈ answer, I.Holds v) (Eval.claim host ask) :=
  .within fun ctx held => h.answered_claim held fun hooks => asks hooks ctx held

/-! ### Names and properties -/

theorem keeps_identifier (name : String) : I.Keeps I.Holds (Eval.identifier host name) := by
  have key : I.Holds (.string name) := h.holds_scalar rfl
  refine .look fun s held => ?_
  split
  · rename_i v found
    exact .pure (held.argument? found)
  refine .bind (h.keeps_claim fun _ ctx inCtx all => all.get ctx none _ inCtx nofun key)
    fun answer answered => ?_
  split
  · exact .pure (answered _ rfl)
  refine .look fun s held => ?_
  split
  · rename_i v found
    exact .pure (held.binding? found)
  · exact .fail _

theorem keeps_implicit (name : String) : I.Keeps I.Holds (Eval.implicit host name) := by
  refine .bind (h.keeps_claim fun _ ctx inCtx all => all.implicit ctx name inCtx)
    fun answer answered => ?_
  split
  · exact .pure (answered _ rfl)
  · exact .fail _

omit h in
theorem keeps_index (base key : Value) : I.Keeps (fun _ => True) (Eval.index host base key) :=
  .within_any

theorem keeps_property {base key : Value} (hbase : I.Holds base) (hkey : I.Holds key) :
    I.Keeps I.Holds (Eval.property host base key) := by
  have absent : I.Holds .null := h.holds_scalar rfl
  have element {items : List Value} (all : ∀ v ∈ items, I.Holds v) (i : Option Nat) :
      I.Keeps I.Holds (return (i.bind fun i => items[i]?).getD .null : EvalM σ Value) := by
    refine .pure ?_
    cases found : i.bind fun i => items[i]? with
    | none => exact absent
    | some v =>
      obtain ⟨j, -, found⟩ := Option.bind_eq_some_iff.mp found
      exact all v (List.mem_of_getElem? found)
  refine .bind (h.keeps_claim fun _ ctx inCtx all =>
    all.get ctx (some base) key inCtx (by rintro _ ⟨⟩; exact hbase) hkey) fun answer answered => ?_
  split
  · exact .pure (answered _ rfl)
  split
  · exact .pure absent
  · refine .pure ?_
    cases found : Value.mapGet? host.objects _ key with
    | none => exact absent
    | some v => exact hbase.mapGet? found
  · exact (keeps_index _ key).after (element hbase.all_list)
  · exact (keeps_index _ key).after (element fun v mem => hbase.part mem)
  · exact (keeps_index _ key).after (element fun v mem => hbase.part mem)
  · exact .fail _

/-! ### Operators -/

/-- A number that depends on nothing but the operands. -/
theorem keeps_ofExcept {r : Except EvalError Value} (number : ∀ {v}, r = .ok v → v.isNumber = true) :
    I.Keeps I.Holds (Eval.ofExcept r : EvalM σ Value) := by
  refine .outcome fun v result => h.holds_scalar (Value.isScalar_of_isNumber ?_)
  cases r with
  | error e => cases result
  | ok w =>
    cases result
    exact number rfl

omit h in
theorem keeps_truth (v : Value) : I.Keeps (fun _ => True) (Eval.truth host v) :=
  .within_any

theorem keeps_binary (op : BinaryOp) (a b : Value) :
    I.Keeps I.Holds (Eval.binary host op a b) := by
  have made {γ : Type} {f : Context → HookM σ γ} {g : γ → Value}
      (scalar : ∀ c, (g c).isScalar = true) :
      I.Keeps I.Holds (Eval.within fun ctx => return g (← f ctx)) :=
    .within fun _ _ => Yields.make fun c => h.holds_scalar (scalar c)
  have ordered (op : BinaryOp) : I.Keeps I.Holds
      (if a.isNull || b.isNull then return .boolean false
        else Eval.within fun ctx =>
          return .boolean (admits op (← Comparison.compareValues host ctx a b))) := by
    split
    · exact h.keeps_scalar rfl
    · exact made fun _ => rfl
  unfold Eval.binary
  split
  · exact made fun _ => rfl
  · exact made fun _ => rfl
  · exact ordered .less
  · exact ordered .greater
  · exact ordered .lessEqual
  · exact ordered .greaterEqual
  · exact .within fun _ _ => Yields.after fun _ => Yields.make fun _ => h.holds_scalar rfl
  · exact h.keeps_ofExcept Arithmetic.isNumber_of_apply

theorem keeps_unary (op : UnaryOp) (v : Value) : I.Keeps I.Holds (Eval.unary host op v) := by
  cases op with
  | negate => exact h.keeps_ofExcept Arithmetic.isNumber_of_negate
  | not => exact h.keeps_make (keeps_truth v) fun _ => rfl
  | empty => exact h.keeps_scalar rfl

theorem keeps_instanceOf (v : Value) (name : String) :
    I.Keeps I.Holds (Eval.instanceOf host v name) := by
  refine Keeps.within_any.after fun found => ?_
  split
  · exact h.keeps_scalar rfl
  · exact .fail _

theorem keeps_lambda (params : List String) {body : Expr} (hbody : I.Runs body) :
    I.Keeps I.Holds (Eval.lambda params body : EvalM σ Value) :=
  .within fun _ held => Yields.make fun _ => h.holds_lambda hbody held.visibleArguments

/-! ### Assignment -/

omit h in
theorem keeps_assignIdentifier {name : String} (settable : I.settable name) {v : Value}
    (hv : I.Holds v) : I.Keeps (fun _ => True) (Eval.assignIdentifier host name v) := by
  refine Keeps.claim_any.after fun done => ?_
  split
  · exact .pure trivial
  · exact .setVariable settable hv

theorem holds_stored? {collection key v changed : Value} {i : Option Nat}
    (hcollection : I.Holds collection) (hkey : I.Holds key) (hv : I.Holds v)
    (stored : Eval.stored? host collection i key v = some changed) : I.Holds changed := by
  have replaced {items : List Value} (all : ∀ w ∈ items, I.Holds w) (i : Nat) :
      ∀ w ∈ items.set i v, I.Holds w := by
    intro w mem
    rcases List.mem_or_eq_of_mem_set mem with old | rfl
    · exact all w old
    · exact hv
  unfold Eval.stored? at stored
  split at stored
  · cases stored
    exact h.holds_mapInsert hcollection hkey hv
  · split at stored
    · cases stored
      exact h.holds_list (replaced hcollection.all_list _)
    · cases stored
  · split at stored
    · cases stored
      exact h.holds_array (replaced (fun w mem => hcollection.part mem) _)
    · cases stored
  · cases stored

theorem keeps_storeInVariable {name : String} (settable : I.settable name) {base key v : Value}
    (hkey : I.Holds key) (hv : I.Holds v) :
    I.Keeps (fun _ => True) (Eval.storeInVariable host name base key v) := by
  unfold Eval.storeInVariable
  dsimp only
  split
  -- lists and arrays: the key is an index, which is had before anything is stored
  all_goals try refine (keeps_index _ key).after fun _ => ?_
  all_goals
    refine Keeps.after (.pure trivial) fun i? => .look fun s held => ?_
    split
    · rename_i collection _ found
      split
      · rename_i changed stored
        refine Keeps.after (.setVariable settable ?_) fun _ => .pure trivial
        exact h.holds_stored? (held.binding? found) hkey hv stored
      · exact .pure trivial
    · exact .pure trivial

theorem keeps_assignProperty {object key : Expr}
    (settable : ∀ name, (Expr.access object key).assigned? = some name → I.settable name)
    {base k v : Value} (hkey : I.Holds k) (hv : I.Holds v) :
    I.Keeps (fun _ => True) (Eval.assignProperty host object base k v) := by
  have finish (done : Bool) : I.Keeps (fun _ => True)
      (if done then return () else Eval.fail (.propertyNotWritable base.kindName k.text) :
        EvalM σ Unit) := by
    split
    · exact .pure trivial
    · exact .fail _
  refine Keeps.claim_any.after fun done => ?_
  split
  · exact .pure trivial
  · dsimp only
    split
    · exact (h.keeps_storeInVariable (settable _ rfl) hkey hv).after finish
    · exact Keeps.after (.pure trivial) finish

/-! ### Calls -/

section

variable {call : Invoker σ} (calls : I.KeepsCalls call)
include calls

theorem keeps_callAdapter {a : Adapter} {args : List Value} (ha : I.Holds (.adapter a))
    (hargs : ∀ v ∈ args, I.Holds v) : I.Keeps I.Holds (Eval.callAdapter call a args) := by
  intro s held
  have called := calls a.lambda args ha.lambda hargs
    ⟨a.bound.toContext, { s.ambient with resolved := false }⟩ (h.holdsIn_toContext ha)
  exact .of_still held rfl called.result

theorem keeps_callValue {callee : Value} {args : List Value} (hcallee : I.Holds callee)
    (hargs : ∀ v ∈ args, I.Holds v) : I.Keeps I.Holds (Eval.callValue call callee args) := by
  unfold Eval.callValue
  split
  · exact calls _ args hcallee hargs
  · exact h.keeps_callAdapter calls hcallee hargs
  · exact .fail _

theorem keeps_callProperty {base : Value} {name : String} {args : List Value}
    (hbase : I.Holds base) (hargs : ∀ v ∈ args, I.Holds v) :
    I.Keeps I.Holds (Eval.callProperty host call base name args) := by
  intro s held
  have key : I.Holds (.string name) := h.holds_scalar rfl
  have looked := h.keeps_property hbase key s held
  unfold Eval.callProperty
  rcases run : Eval.property host base (.string name) s with ⟨(e | _) | v, after⟩
  · rw [run] at looked
    exact ⟨looked.context, looked.unset, nofun⟩
  · rw [run] at looked
    exact ⟨looked.context, looked.unset, nofun⟩
  · rw [run] at looked
    cases v with
    | lambda l =>
      have called := calls l args (looked.result _ rfl) hargs after looked.context
      exact ⟨called.context, fun other kept =>
        (called.unset other kept).trans (looked.unset other kept), called.result⟩
    | _ => exact ⟨looked.context, looked.unset, nofun⟩

theorem keeps_method {base : Value} {name : String} {args : List Value} (hbase : I.Holds base)
    (hargs : ∀ v ∈ args, I.Holds v) : I.Keeps I.Holds (Eval.method host call base name args) := by
  refine .bind (h.keeps_claim fun _ ctx inCtx all =>
    all.invoke ctx base name args inCtx hbase hargs) fun answer answered => ?_
  split
  · exact .pure (answered _ rfl)
  split
  · unfold Eval.invokeAdapter
    split
    · exact h.keeps_callAdapter calls hbase hargs
    · exact .fail _
  · exact h.keeps_callProperty calls hbase hargs

theorem keeps_function {qualifier : Option String} {name : String} {args : List Value}
    (hargs : ∀ v ∈ args, I.Holds v) :
    I.Keeps I.Holds (Eval.function host call qualifier name args) := by
  refine .look fun s held => ?_
  dsimp only
  split
  · rename_i callee found
    refine h.keeps_callValue calls ?_ hargs
    split at found
    · obtain ⟨found, -⟩ := Option.filter_eq_some_iff.mp found
      rcases Option.or_eq_some_iff.mp found with argument | ⟨-, variable_⟩
      · exact held.argument? argument
      · exact held.binding? variable_
    · cases found
  refine .bind (h.keeps_claim fun _ ctx inCtx all => all.call ctx qualifier name args inCtx hargs)
    fun answer answered => ?_
  split
  · exact .pure (answered _ rfl)
  · exact .fail _

end

/-! ### Expressions -/

omit h in
/-- A choice by the truth of a value. -/
theorem keeps_choose {P : Value → Prop} {m : EvalM σ Value} {yes no : EvalM σ α}
    (condition : I.Keeps P m) (hyes : I.Keeps Q yes) (hno : I.Keeps Q no) :
    I.Keeps Q (do
      let v ← m
      if ← Eval.truth host v then yes else no) := by
  refine condition.bind fun v _ => (keeps_truth v).after fun holds => ?_
  cases holds with
  | true => exact hyes
  | false => exact hno

/-- The truth of a value as a value. -/
theorem keeps_decision {P : Value → Prop} {m : EvalM σ Value} (operand : I.Keeps P m) :
    I.Keeps I.Holds (do
      let v ← m
      return .boolean (← Eval.truth host v)) :=
  operand.bind fun v _ => h.keeps_make (keeps_truth v) fun _ => rfl

omit h in
mutual

/-- Every expression, where the calls of lambdas are known to keep the invariant. -/
theorem keeps_expr (h : I.Lawful host) {call : Invoker σ} (calls : I.KeepsCalls call) :
    ∀ e : Expr, I.Runs e → I.Keeps I.Holds (Eval.expr host call e)
  | .integer n, _ => by
    refine .pure ?_
    split <;> exact h.holds_scalar rfl
  | .float _, _ => h.keeps_scalar rfl
  | .decimal _, _ => h.keeps_scalar rfl
  | .string _, _ => h.keeps_scalar rfl
  | .boolean _, _ => h.keeps_scalar rfl
  | .null, _ => h.keeps_scalar rfl
  | .key _, _ => h.keeps_scalar rfl
  | .identifier name, _ => h.keeps_identifier name
  | .implicit name, _ => h.keeps_implicit name
  | .access object key, runs =>
    .bind (h.keeps_expr calls object (runs.part (by simp))) fun _ hbase =>
      .bind (h.keeps_expr calls key (runs.part (by simp))) fun _ hkey =>
        h.keeps_property hbase hkey
  | .method object name args, runs =>
    .bind (h.keeps_expr calls object (runs.part (by simp))) fun _ hbase =>
      .bind (h.keeps_all calls args fun e mem => runs.part (by simp [mem]))
        fun _ hargs => h.keeps_method calls hbase hargs
  | .function qualifier name args, runs =>
    .bind (h.keeps_all calls args fun e mem => runs.part mem) fun _ hargs =>
      h.keeps_function calls hargs
  | .call callee args, runs =>
    .bind (h.keeps_expr calls callee (runs.part (by simp))) fun _ hcallee =>
      .bind (h.keeps_all calls args fun e mem => runs.part (by simp [mem]))
        fun _ hargs => h.keeps_callValue calls hcallee hargs
  | .unary op operand, runs =>
    .bind (h.keeps_expr calls operand (runs.part (by simp))) fun v _ =>
      h.keeps_unary op v
  | .binary op left right, runs => by
    have hleft := h.keeps_expr calls left (runs.part (by simp))
    have hright := h.keeps_expr calls right (runs.part (by simp))
    have operands (op : BinaryOp) : I.Keeps I.Holds (do
        let a ← Eval.expr host call left
        let b ← Eval.expr host call right
        Eval.binary host op a b) :=
      hleft.bind fun a _ => hright.bind fun b _ => h.keeps_binary op a b
    cases op with
    | and => exact keeps_choose hleft (h.keeps_decision hright) (h.keeps_scalar rfl)
    | or => exact keeps_choose hleft (h.keeps_scalar rfl) (h.keeps_decision hright)
    | _ => exact operands _
  | .conditional condition yes no, runs =>
    keeps_choose (h.keeps_expr calls condition (runs.part (by simp)))
      (h.keeps_expr calls yes (runs.part (by simp)))
      (h.keeps_expr calls no (runs.part (by simp)))
  | .instanceOf operand name, runs =>
    .bind (h.keeps_expr calls operand (runs.part (by simp))) fun v _ =>
      h.keeps_instanceOf v name
  | .list items, runs =>
    .bind (h.keeps_all calls items fun e mem => runs.part mem) fun _ all => .pure (h.holds_list all)
  | .set items, runs =>
    .bind (h.keeps_all calls items fun e mem => runs.part mem) fun _ all => .pure (h.holds_setOf all)
  | .map items, runs => by
    refine .bind (h.keeps_entries calls items fun e mem => ?_) fun _ all => .pure (h.holds_map all)
    exact ⟨runs.part (List.mem_append_left _ (List.mem_map_of_mem mem)),
      runs.part (List.mem_append_right _ (List.mem_map_of_mem mem))⟩
  | .lambda params body, runs => h.keeps_lambda params (runs.part (by simp))
  | .assign target value, runs =>
    .bind (h.keeps_expr calls value (runs.part (by simp))) fun v hv =>
      .after (h.keeps_assign calls target v (runs.part (by simp))
        (fun _ => h.assign runs.self) hv) fun _ => .pure hv
  | .sequence items, runs => by
    refine .bind (h.keeps_all calls items fun e mem => runs.part mem) fun vs all => .pure ?_
    rw [List.getLastD_eq_getLast?]
    cases last : vs.getLast? with
    | none => exact h.holds_scalar rfl
    | some v => exact all v (List.mem_of_getLast? last)

theorem keeps_all (h : I.Lawful host) {call : Invoker σ} (calls : I.KeepsCalls call) :
    ∀ es : List Expr, (∀ e ∈ es, I.Runs e) →
      I.Keeps (fun vs => ∀ v ∈ vs, I.Holds v) (Eval.all host call es)
  | [], _ => .pure nofun
  | e :: es, runs =>
    .bind (h.keeps_expr calls e (runs e (by simp))) fun v hv =>
      .bind (h.keeps_all calls es fun later mem => runs later (by simp [mem])) fun vs hvs =>
        .pure (by simpa using ⟨hv, hvs⟩)

theorem keeps_entries (h : I.Lawful host) {call : Invoker σ} (calls : I.KeepsCalls call) :
    ∀ es : List (Expr × Expr), (∀ e ∈ es, I.Runs e.1 ∧ I.Runs e.2) →
      I.Keeps (fun vs => ∀ v ∈ vs, I.Holds v.1 ∧ I.Holds v.2) (Eval.entries host call es)
  | [], _ => .pure nofun
  | e :: es, runs =>
    .bind (h.keeps_entry calls e (runs e (by simp))) fun v hv =>
      .bind (h.keeps_entries calls es fun later mem => runs later (by simp [mem])) fun vs hvs =>
        .pure (List.forall_mem_cons.mpr ⟨hv, hvs⟩)

theorem keeps_entry (h : I.Lawful host) {call : Invoker σ} (calls : I.KeepsCalls call) :
    ∀ e : Expr × Expr, I.Runs e.1 ∧ I.Runs e.2 →
      I.Keeps (fun v => I.Holds v.1 ∧ I.Holds v.2) (Eval.entry host call e)
  | (k, v), runs =>
    .bind (h.keeps_expr calls k runs.1) fun _ hkey =>
      .bind (h.keeps_expr calls v runs.2) fun _ hv => .pure ⟨hkey, hv⟩

/-- An assignment to an expression, where what it sets may be set. -/
theorem keeps_assign (h : I.Lawful host) {call : Invoker σ} (calls : I.KeepsCalls call) :
    ∀ (target : Expr) (v : Value), I.Runs target →
      (∀ name, target.assigned? = some name → I.settable name) → I.Holds v →
        I.Keeps (fun _ => True) (Eval.assign host call target v)
  | .identifier name, v, _, settable, hv => keeps_assignIdentifier (settable name rfl) hv
  | .access object key, v, runs, settable, hv =>
    .bind (h.keeps_expr calls object (runs.part (by simp))) fun _ _ =>
      .bind (h.keeps_expr calls key (runs.part (by simp))) fun _ hkey =>
        h.keeps_assignProperty settable hkey hv
  -- no other expression has a place
  | .integer _, _, _, _, _ | .float _, _, _, _, _ | .decimal _, _, _, _, _ | .string _, _, _, _, _
  | .boolean _, _, _, _, _ | .null, _, _, _, _ | .implicit _, _, _, _, _ | .key _, _, _, _, _
  | .method _ _ _, _, _, _, _ | .function _ _ _, _, _, _, _ | .call _ _, _, _, _, _
  | .unary _ _, _, _, _, _ | .binary _ _ _, _, _, _, _ | .conditional _ _ _, _, _, _, _
  | .instanceOf _ _, _, _, _, _ | .list _, _, _, _, _ | .set _, _, _, _, _ | .map _, _, _, _, _
  | .lambda _ _, _, _, _, _ | .assign _ _, _, _, _, _ | .sequence _, _, _, _, _ => .fail _

end

/-! ### Calls within calls -/

/-- Every call of a lambda, by induction on how deep calls may be nested. -/
theorem keeps_invoke (depth : Nat) {l : Lambda} {args : List Value} (hl : I.Holds (.lambda l))
    (hargs : ∀ a ∈ args, I.Holds a) : I.Keeps I.Holds (Eval.invoke host depth l args) := by
  induction depth generalizing l args with
  | zero => exact .outcome nofun
  | succ depth ih =>
    intro s held
    show I.Kept _ _ (Eval.invokeWith host (Eval.invoke host depth) l args s)
    unfold Eval.invokeWith
    split
    · exact Keeps.fail _ s held
    · have arguments : Bindings.All I.Holds (scopeOf l args) :=
        hl.captured.insertAll (.zip hargs l.params)
      have body : I.Runs l.body := (h.lambda l).mp hl.self
      have run := h.keeps_expr (fun _ _ => ih) l.body body
        { s with context := s.context.pushScope (scopeOf l args) } (held.pushScope arguments)
      exact ⟨run.context.popScope, run.unset, run.result⟩

/-- Every expression: in a context that the invariant holds of, an expression that it holds of
evaluates to a value that it holds of, if to any, and leaves a context that it holds of, in which the
variables that may not be set are as before. -/
theorem eval {e : Expr} (runs : I.Runs e) : I.Keeps I.Holds (e.eval host) :=
  h.keeps_expr (fun _ _ => h.keeps_invoke callDepth) e runs

end Lawful

end Invariant

end ExprLang
