import ExprLang.Proofs.Evaluation.Frame
import ExprLang.Proofs.Evaluation.Parts
import ExprLang.Proofs.Evaluation.ReadBack

/-!
# Assignments that are refused

An assignment sets a variable as the last thing it does: when its operands have been evaluated, the key
has been made an index, and the variable has been found to hold a collection that can take the entry.
So what fails before that has set nothing (`Commits`), unless the operands have. Those that neither
assign nor call do nothing to the context (`still_expr`): names, literals, and what operators make of
them.

**Key theorem**: `failed_assignment_changes_nothing`.
-/

namespace ExprLang

open Eval

variable {σ α β : Type}

/-- What changes the context is an evaluation with a result that has the property; with any other
outcome the context is left as it was. -/
def Commits (Q : α → Prop) (m : EvalM σ α) : Prop :=
  ∀ s, (m s).2.context = s.context ∨ ∃ a, (m s).1 = .ok a ∧ Q a

/-- The evaluation leaves the context as it was, whatever comes of it. -/
abbrev Still (m : EvalM σ α) : Prop :=
  Commits (fun _ => False) m

namespace Commits

variable {P : α → Prop} {Q : β → Prop}

theorem context_eq {m : EvalM σ α} (h : Commits P m) {s : Session σ}
    (other : ∀ a, (m s).1 = .ok a → ¬ P a) : (m s).2.context = s.context := by
  rcases h s with same | ⟨a, result, holds⟩
  · exact same
  · exact absurd holds (other a result)

/-- Whoever leaves the context as it was commits nothing. -/
theorem of_still {m : EvalM σ α} (still : ∀ s, (m s).2.context = s.context) : Commits P m :=
  fun s => .inl (still s)

theorem pure (a : α) : Commits P (Pure.pure a : EvalM σ α) :=
  of_still fun _ => rfl

theorem fail (e : EvalError) : Commits P (Eval.fail e : EvalM σ α) :=
  of_still fun _ => rfl

theorem within (f : Context → HookM σ α) : Commits P (Eval.within f) :=
  of_still fun _ => rfl

/-- One evaluation after another: once the first one has changed the context, the second one has to
succeed. -/
theorem bind {m : EvalM σ α} {f : α → EvalM σ β} (hm : Commits P m)
    (succeeds : ∀ a, P a → ∀ s, ∃ b, (f a s).1 = .ok b ∧ Q b) (hf : ∀ a, Commits Q (f a)) :
    Commits Q (m >>= f) := by
  intro s
  have first := hm s
  rw [bind_apply]
  generalize m s = run at first
  obtain ⟨e | a, between⟩ := run
  · rcases first with same | ⟨a, ⟨⟩, -⟩
    exact .inl same
  · rcases first with same | ⟨a, ⟨⟩, changed⟩
    · rw [← (same : between.context = s.context)]
      exact hf a between
    · exact .inr (succeeds a changed between)

/-- After an evaluation that leaves the context as it was, the rest decides. -/
theorem after {m : EvalM σ α} {f : α → EvalM σ β} (hm : Still m) (hf : ∀ a, Commits Q (f a)) :
    Commits Q (m >>= f) :=
  bind hm nofun hf

/-- A look at the context. -/
theorem look {f : Session σ → EvalM σ α} (hf : ∀ s, Commits P (f s)) : Commits P (get >>= f) :=
  fun s => hf s s

end Commits

/-! ### Steps -/

namespace Eval

open Commits

variable (host : Host σ)

theorem still_identifier (name : String) : Still (identifier host name) := by
  refine .look fun s => ?_
  split
  · exact .pure _
  refine .after (.within _) fun found => ?_
  split
  · exact .pure _
  refine .look fun s => ?_
  split
  · exact .pure _
  · exact .fail _

theorem still_implicit (name : String) : Still (implicit host name) := by
  refine .after (.within _) fun found => ?_
  split
  · exact .pure _
  · exact .fail _

theorem still_index (base key : Value) : Still (index host base key) :=
  .within _

theorem still_property (base key : Value) : Still (property host base key) := by
  refine .after (.within _) fun found => ?_
  split
  · exact .pure _
  split
  · exact .pure _
  · exact .pure _
  · exact .after (still_index host _ key) fun _ => .pure _
  · exact .after (still_index host _ key) fun _ => .pure _
  · exact .after (still_index host _ key) fun _ => .pure _
  · exact .fail _

theorem still_ofExcept (r : Except EvalError α) : Still (ofExcept r : EvalM σ α) :=
  .of_still fun _ => rfl

theorem still_truth (v : Value) : Still (truth host v) :=
  .within _

theorem still_binary (op : BinaryOp) (a b : Value) : Still (binary host op a b) := by
  unfold binary
  split
  · exact .within _
  · exact .within _
  iterate 4
    split
    · exact .pure _
    · exact .within _
  · exact .within _
  · exact still_ofExcept _

theorem still_unary (op : UnaryOp) (v : Value) : Still (unary host op v) := by
  cases op with
  | negate => exact still_ofExcept _
  | not => exact .after (still_truth host v) fun _ => .pure _
  | empty => exact .pure _

theorem still_instanceOf (v : Value) (name : String) : Still (instanceOf host v name) := by
  refine .after (.within _) fun found => ?_
  split
  · exact .pure _
  · exact .fail _

/-- A choice by the truth of a value. -/
theorem still_choose {m : EvalM σ Value} {yes no : EvalM σ α} (condition : Still m)
    (hyes : Still yes) (hno : Still no) :
    Still (do
      let v ← m
      if ← truth host v then yes else no) := by
  refine .after condition fun v => .after (still_truth host v) fun holds => ?_
  cases holds with
  | true => exact hyes
  | false => exact hno

end Eval

/-! ### Operands -/

/-- Whether the evaluation of the expression may set variables by itself: an assignment does, and a call
does what its lambda does. -/
def Expr.isActive : Expr → Bool
  | .assign _ _ | .method _ _ _ | .function _ _ _ | .call _ _ => true
  | _ => false

/-- Neither an assignment nor a call occurs in the expression. -/
def Expr.Passive (e : Expr) : Prop :=
  Throughout Expr.children (fun sub => sub.isActive = false) e

namespace Expr.Passive

theorem identifier (name : String) : Passive (.identifier name) :=
  .leaf rfl rfl

theorem of_literal {e : Expr} {v : Value} (literal : e.literal? = some v) : e.Passive := by
  cases e with
  | integer | float | decimal | string | boolean | null | key => exact .leaf rfl rfl
  | _ => cases literal

theorem access {object key : Expr} (hobject : object.Passive) (hkey : key.Passive) :
    Passive (.access object key) :=
  Throughout.iff.mpr ⟨rfl, by simpa using ⟨hobject, hkey⟩⟩

end Expr.Passive

namespace Eval

open Commits

variable (host : Host σ) (call : Invoker σ)

mutual

/-- An expression without assignments and calls does nothing to the context. -/
theorem still_expr : ∀ e : Expr, e.Passive → Still (expr host call e)
  | .integer _, _ | .float _, _ | .decimal _, _ | .string _, _ | .boolean _, _ | .null, _
  | .key _, _ => .pure _
  | .identifier name, _ => still_identifier host name
  | .implicit name, _ => still_implicit host name
  | .access object key, passive =>
    .after (still_expr object (passive.part (by simp))) fun _ =>
      .after (still_expr key (passive.part (by simp))) fun _ => still_property host _ _
  | .unary op operand, passive =>
    .after (still_expr operand (passive.part (by simp))) fun _ => still_unary host op _
  | .binary op left right, passive => by
    have hleft := still_expr left (passive.part (by simp))
    have hright := still_expr right (passive.part (by simp))
    have decided : Still (do
        let b ← expr host call right
        return .boolean (← truth host b) : EvalM σ Value) :=
      .after hright fun b => .after (still_truth host b) fun _ => .pure _
    cases op with
    | and => exact still_choose host hleft decided (.pure _)
    | or => exact still_choose host hleft (.pure _) decided
    | _ => exact .after hleft fun _ => .after hright fun _ => still_binary host _ _ _
  | .conditional condition yes no, passive =>
    still_choose host (still_expr condition (passive.part (by simp)))
      (still_expr yes (passive.part (by simp))) (still_expr no (passive.part (by simp)))
  | .instanceOf operand name, passive =>
    .after (still_expr operand (passive.part (by simp))) fun _ => still_instanceOf host _ name
  | .list items, passive | .set items, passive | .sequence items, passive =>
    .after (still_all items fun _ mem => passive.part mem) fun _ => .pure _
  | .map items, passive => by
    refine .after (still_entries items fun e mem => ?_) fun _ => .pure _
    exact ⟨passive.part (List.mem_append_left _ (List.mem_map_of_mem mem)),
      passive.part (List.mem_append_right _ (List.mem_map_of_mem mem))⟩
  | .lambda _ _, _ => .within _
  | .assign _ _, passive | .method _ _ _, passive | .function _ _ _, passive
  | .call _ _, passive => Bool.noConfusion passive.self

theorem still_all : ∀ es : List Expr, (∀ e ∈ es, e.Passive) → Still (all host call es)
  | [], _ => .pure _
  | e :: es, passive =>
    .after (still_expr e (passive e (by simp))) fun _ =>
      .after (still_all es fun later mem => passive later (by simp [mem])) fun _ => .pure _

theorem still_entries : ∀ es : List (Expr × Expr), (∀ e ∈ es, e.1.Passive ∧ e.2.Passive) →
    Still (entries host call es)
  | [], _ => .pure _
  | e :: es, passive =>
    .after (still_entry e (passive e (by simp))) fun _ =>
      .after (still_entries es fun later mem => passive later (by simp [mem])) fun _ => .pure _

theorem still_entry : ∀ e : Expr × Expr, e.1.Passive ∧ e.2.Passive → Still (entry host call e)
  | (key, value), passive =>
    .after (still_expr key passive.1) fun _ => .after (still_expr value passive.2) fun _ => .pure _

end

/-! ### Assignments -/

theorem commits_assignIdentifier (name : String) (v : Value) :
    Commits (fun _ => True) (assignIdentifier host name v) := by
  refine .after (.within _) fun claimed => ?_
  split
  · exact .pure ()
  · exact fun s => .inr ⟨(), rfl, trivial⟩

/-- An entry is set only if it is told that it has been. -/
theorem commits_storeInVariable (name : String) (base key v : Value) :
    Commits (· = true) (storeInVariable host name base key v) := by
  unfold storeInVariable
  dsimp only
  split
  -- lists and arrays: the key is an index, which is had before anything is stored
  all_goals try refine .after (still_index host _ key) fun _ => ?_
  all_goals
    refine .after (.pure _) fun i? => .look fun s => ?_
    split
    · split
      · exact fun s => .inr ⟨true, rfl, rfl⟩
      · exact .pure false
    · exact .pure false

theorem commits_assignProperty (object : Expr) (base key v : Value) :
    Commits (fun _ => True) (assignProperty host object base key v) := by
  have told {m : EvalM σ Bool} (stores : Commits (· = true) m) : Commits (fun _ => True) (do
      let done ← m
      if done then return ()
      else Eval.fail (.propertyNotWritable base.kindName key.text) : EvalM σ Unit) := by
    refine stores.bind ?_ fun done => ?_
    · rintro _ rfl s
      exact ⟨(), rfl, trivial⟩
    · cases done with
      | true => exact .pure ()
      | false => exact .fail _
  refine .after (.within _) fun claimed => ?_
  split
  · exact .pure ()
  dsimp only
  split
  · exact told (commits_storeInVariable host _ base key v)
  · exact told (.pure false)

/-- An assignment sets something only if it succeeds. -/
theorem commits_assign {target : Expr} (passive : target.Passive) (v : Value) :
    Commits (fun _ => True) (assign host call target v) := by
  cases target with
  | identifier name => exact commits_assignIdentifier host name v
  | access object key =>
    exact .after (still_expr host call object (passive.part (by simp))) fun base =>
      .after (still_expr host call key (passive.part (by simp))) fun k =>
        commits_assignProperty host object base k v
  | _ => exact .fail _

end Eval

/-- An assignment that fails, for whatever reason, leaves every variable and the arguments of the calls
in progress as they were, if what it assigns to and what it assigns is made of names, literals and
operators. -/
theorem failed_assignment_changes_nothing (host : Host σ) {target value : Expr}
    (place : target.Passive) (given : value.Passive) {s after : Session σ} {halt : Halt EvalError}
    (run : (Expr.assign target value).eval host s = (.error halt, after)) :
    after.context = s.context := by
  have commits : Commits (fun _ => True) ((Expr.assign target value).eval host) := by
    refine .after (still_expr host _ value given) fun v => ?_
    exact (commits_assign host _ place v).bind (fun _ _ s => ⟨v, rfl, trivial⟩) fun _ => .pure v
  have still := commits.context_eq (s := s) (by rw [run]; nofun)
  rwa [run] at still

/-- Within a call, an element behind the end of a list is not set, and nothing else is. -/
theorem failed_assignment_changes_nothing_behind_end :
    let host : Host Unit := .plain false
    let ctx : Context := ⟨[("l", .list [.long 1]), ("i", .long 1)], [[("x", .long 7)]], .empty⟩
    let target : Expr := .access (.identifier "l") (.identifier "i")
    let value : Expr := .integer 5
    let s : Session Unit := ⟨ctx, ⟨true, 0, ()⟩⟩
    let run := (Expr.assign target value).eval host s
    target.Passive ∧ value.Passive ∧
      run.1 = .error (.error (.propertyNotWritable "List" "1")) ∧ run.2.context = ctx := by
  intro host ctx target value s run
  have place : target.Passive := .access (.identifier "l") (.identifier "i")
  have given : value.Passive := .of_literal (v := .long 5) rfl
  have failed : run = (.error (.error (.propertyNotWritable "List" "1")), run.2) := rfl
  exact ⟨place, given, rfl, failed_assignment_changes_nothing host place given failed⟩

end ExprLang
