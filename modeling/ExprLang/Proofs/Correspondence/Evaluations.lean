import ExprLang.Proofs.Correspondence.Steps

/-!
# Evaluations of two runs that correspond

Two evaluations of one expression under corresponding scopes come to like values, or fail with the same
error, and leave corresponding variables; the scopes are the same afterwards as before. The code may read
no hidden name but those that have like arguments in both runs (`Correspondence.Visible`).

Expressions are gone through case by case (`Lawful.expr`). What leads out of the syntax is the call of a
lambda, and the lambdas that are called are alike, so that their bodies are the same and read nothing
hidden: calls within calls are an induction on their depth (`Lawful.calls`).
-/

namespace ExprLang

open Eval

variable {σ α β : Type}

namespace Correspondence

variable {C : Correspondence σ} {host : Host σ} {later : Time.Instant}
  {scopes scopes' : List (Bindings Value)}

/-- Values lambdas with like arguments can be called under any scopes. -/
def Calls (C : Correspondence σ) (call call' : Invoker σ) : Prop :=
  ∀ scopes scopes' {l l' args args'}, C.Values (.lambda l) (.lambda l') →
    List.Forall₂ C.Values args args' →
      Matching (C.Sessions scopes scopes') C.Values (call l args) (call' l' args')

namespace Lawful

section

variable (h : C.Lawful host later)
include h

/-! ### Calls -/

section

variable {call call' : Invoker σ} (calls : C.Calls call call') {args args' : List Value}
  (all : List.Forall₂ C.Values args args')
include calls all

/-- Adapters are called in the contexts that they keep, where the other run may be under other
scopes. -/
theorem callAdapter {a a' : Adapter} (like : C.Values (.adapter a) (.adapter a')) :
    Matching (C.Sessions scopes scopes') C.Values (Eval.callAdapter call a args)
      (Eval.callAdapter call' a' args') := by
  intro s s' start
  -- flags and contexts are put back afterwards; numbers and the application's state go on
  have kept : C.Sessions a.bound.toContext.scopes a'.bound.toContext.scopes
      ⟨a.bound.toContext, { s.ambient with resolved := false }⟩
      ⟨a'.bound.toContext, { s'.ambient with resolved := false }⟩ :=
    ⟨rfl, rfl, .of_adapter like, h.near_setFlag start.near false⟩
  obtain ⟨outcomes, after⟩ := calls _ _ like.lambda_of_adapter all kept
  exact ⟨outcomes, start.scopes, start.scopes', start.contexts, start.near.flag, after.near.fresh,
    after.near.world⟩

theorem invokeAdapter {a a' : Adapter} (like : C.Values (.adapter a) (.adapter a')) (name : String) :
    Matching (C.Sessions scopes scopes') C.Values (Eval.invokeAdapter call a name args)
      (Eval.invokeAdapter call' a' name args') := by
  have interface : a.interface = a'.interface := by
    cases like with
    | scalar scalar _ => cases scalar
    | adapter => rfl
  unfold Eval.invokeAdapter AdapterOf.methodName?
  rw [interface]
  split
  · exact h.callAdapter calls all like
  · exact fail rfl

theorem callValue {callee callee' : Value} (like : C.Values callee callee') :
    Matching (C.Sessions scopes scopes') C.Values (Eval.callValue call callee args)
      (Eval.callValue call' callee' args') := by
  have uncallable (text : callee.text = callee'.text) (kind : callee.kindName = callee'.kindName) :
      Matching (C.Sessions scopes scopes') C.Values
        (Eval.fail (.conversion callee.text callee.kindName "Lambda") : EvalM σ Value)
        (Eval.fail (.conversion callee'.text callee'.kindName "Lambda")) :=
    fail (by rw [text, kind])
  have text := like.text_eq
  have whole := like
  cases like with
  | lambda => exact calls _ _ whole all
  | adapter => exact h.callAdapter calls all whole
  | scalar scalar _ =>
    cases callee with
    | lambda _ | adapter _ => cases scalar
    | _ => exact uncallable text rfl
  | _ => exact uncallable text rfl

section

variable {base base' : Value} (like : C.Values base base')
include like

theorem callProperty (name : String) :
    Matching (C.Sessions scopes scopes') C.Values (Eval.callProperty host call base name args)
      (Eval.callProperty (host.showing later) call' base' name args') := by
  intro s s' start
  obtain ⟨outcomes, after⟩ := h.property like (.string name) start
  unfold Eval.callProperty
  rw [like.kindName_eq]
  generalize Eval.property host base (.string name) s = run,
    Eval.property (host.showing later) base' (.string name) s' = run' at outcomes after ⊢
  obtain ⟨r, left⟩ := run
  obtain ⟨r', left'⟩ := run'
  dsimp only at outcomes after
  cases outcomes with
  | error e =>
    cases e with
    | exhausted => exact ⟨.error _, after⟩
    | error e =>
      exact ⟨.error _, after.scopes, after.scopes', after.contexts, h.near_note after.near _ _⟩
  | ok like =>
    have whole := like
    cases like with
    | lambda => exact calls _ _ whole all after
    | scalar scalar _ =>
      rename_i v _
      cases v with
      | lambda _ => cases scalar
      | _ => exact ⟨.error _, after⟩
    | _ => exact ⟨.error _, after⟩

theorem method (name : String) :
    Matching (C.Sessions scopes scopes') C.Values (Eval.method host call base name args)
      (Eval.method (host.showing later) call' base' name args') := by
  refine (h.request fun _ _ _ _ respects contexts => respects.invoke name contexts like all).bind
    fun _ _ answers => ?_
  have otherwise : Matching (C.Sessions scopes scopes') C.Values
      (Eval.callProperty host call base name args)
      (Eval.callProperty (host.showing later) call' base' name args') :=
    h.callProperty calls all like name
  cases answers with
  | some like => exact .pure like
  | none =>
    have whole := like
    cases like with
    | adapter => exact h.invokeAdapter calls all whole name
    | scalar scalar _ =>
      cases base with
      | adapter _ => cases scalar
      | _ => exact otherwise
    | _ => exact otherwise

end

theorem function (qualifier : Option String) (name : String)
    (visible : qualifier = none → C.Visible scopes scopes' name) :
    Matching (C.Sessions scopes scopes') C.Values (Eval.function host call qualifier name args)
      (Eval.function (host.showing later) call' qualifier name args') := by
  refine look fun s s' start => ?_
  have found : Option.Rel C.Values (if qualifier.isNone then callable? s.context name else none)
      (if qualifier.isNone then callable? s'.context name else none) := by
    split
    · rename_i unqualified
      exact rel_callable? start (visible (Option.isNone_iff_eq_none.mp unqualified))
    · exact .none
  dsimp only
  generalize (if qualifier.isNone then callable? s.context name else none) = callee,
    (if qualifier.isNone then callable? s'.context name else none) = callee' at found
  cases found with
  | some like => exact h.callValue calls all like
  | none =>
    refine (h.request fun _ _ _ _ respects contexts =>
      respects.call qualifier name contexts all).bind fun _ _ answers => ?_
    cases answers with
    | some like => exact .pure like
    | none => exact fail rfl

end

/-! ### Expressions -/

/-- A choice by the truth of a value. -/
theorem choose {Q : α → β → Prop} {m m' : EvalM σ Value} {yes no : EvalM σ α} {yes' no' : EvalM σ β}
    (condition : Matching (C.Sessions scopes scopes') C.Values m m')
    (hyes : Matching (C.Sessions scopes scopes') Q yes yes')
    (hno : Matching (C.Sessions scopes scopes') Q no no') :
    Matching (C.Sessions scopes scopes') Q
      (do
        let v ← m
        if ← Eval.truth host v then yes else no)
      (do
        let v ← m'
        if ← Eval.truth (host.showing later) v then yes' else no') := by
  refine condition.bind fun v v' like => (h.truth like).bind_eq fun holds => ?_
  cases holds with
  | true => exact hyes
  | false => exact hno

/-- The truth of a value as a value. -/
theorem decision {m m' : EvalM σ Value} (operand : Matching (C.Sessions scopes scopes') C.Values m m') :
    Matching (C.Sessions scopes scopes') C.Values
      (do
        let v ← m
        return .boolean (← Eval.truth host v))
      (do
        let v ← m'
        return .boolean (← Eval.truth (host.showing later) v)) :=
  operand.bind fun _ _ like => (h.truth like).bind_eq fun _ => .pure (.scalar rfl nofun)

end

mutual

/-- Every expression that reads nothing hidden. -/
theorem expr (h : C.Lawful host later) {call call' : Invoker σ} (calls : C.Calls call call') :
    ∀ e : Expr, C.Legible scopes scopes' e.reads →
      Matching (C.Sessions scopes scopes') C.Values (Eval.expr host call e)
        (Eval.expr (host.showing later) call' e)
  | .integer n, _ => by
    unfold Eval.expr
    split <;> exact .pure (.scalar rfl nofun)
  | .float _, _ => .pure (.scalar rfl nofun)
  | .decimal _, _ => .pure (.scalar rfl nofun)
  | .string _, _ => .pure (.scalar rfl nofun)
  | .boolean _, _ => .pure (.scalar rfl nofun)
  | .null, _ => .pure (.scalar rfl nofun)
  | .key _, _ => .pure (.scalar rfl nofun)
  | .identifier name, legible => h.identifier (legible name (List.mem_singleton_self name))
  | .implicit name, _ => h.implicit name
  | .access object key, legible => by
    obtain ⟨first, second⟩ := List.forall_mem_append.mp legible
    exact (h.expr calls object first).bind fun _ _ likeBase => (h.expr calls key second).bind
      fun _ _ likeKey => h.property likeBase likeKey
  | .method object name args, legible => by
    obtain ⟨first, second⟩ := List.forall_mem_append.mp legible
    exact (h.expr calls object first).bind fun _ _ like => (h.all calls args second).bind
      fun _ _ likes => h.method calls likes like name
  | .function none name args, legible => by
    obtain ⟨first, second⟩ := List.forall_mem_cons.mp legible
    exact (h.all calls args second).bind fun _ _ likes =>
      h.function calls likes none name fun _ => first
  | .function (some qualifier) name args, legible =>
    (h.all calls args legible).bind fun _ _ likes =>
      h.function calls likes (some qualifier) name nofun
  | .call callee args, legible => by
    obtain ⟨first, second⟩ := List.forall_mem_append.mp legible
    exact (h.expr calls callee first).bind fun _ _ like => (h.all calls args second).bind
      fun _ _ likes => h.callValue calls likes like
  | .unary op operand, legible => (h.expr calls operand legible).bind fun _ _ like => h.unary like op
  | .binary op left right, legible => by
    obtain ⟨first, second⟩ := List.forall_mem_append.mp legible
    have operands (op : BinaryOp) : Matching (C.Sessions scopes scopes') C.Values
        (do
          let a ← Eval.expr host call left
          let b ← Eval.expr host call right
          Eval.binary host op a b)
        (do
          let a ← Eval.expr (host.showing later) call' left
          let b ← Eval.expr (host.showing later) call' right
          Eval.binary (host.showing later) op a b) :=
      (h.expr calls left first).bind fun _ _ like => (h.expr calls right second).bind
        fun _ _ like' => h.binary like op like'
    cases op with
    | and =>
      exact h.choose (h.expr calls left first) (h.decision (h.expr calls right second))
        (.pure (.scalar rfl nofun))
    | or =>
      exact h.choose (h.expr calls left first) (.pure (.scalar rfl nofun))
        (h.decision (h.expr calls right second))
    | _ => exact operands _
  | .conditional condition yes no, legible => by
    obtain ⟨others, third⟩ := List.forall_mem_append.mp legible
    obtain ⟨first, second⟩ := List.forall_mem_append.mp others
    exact h.choose (h.expr calls condition first) (h.expr calls yes second) (h.expr calls no third)
  | .instanceOf operand name, legible =>
    (h.expr calls operand legible).bind fun _ _ like => h.instanceOf like name
  | .list items, legible => (h.all calls items legible).bind fun _ _ likes => .pure (.list likes)
  | .set items, legible =>
    (h.all calls items legible).bind fun _ _ likes => .pure (.setOf h.oneToOne likes)
  | .map items, legible =>
    (h.entries calls items legible).bind fun _ _ likes => .pure (.map_of_inserts h.oneToOne likes)
  | .lambda _ _, legible => h.lambda legible
  | .assign target value, legible => by
    obtain ⟨first, second⟩ := List.forall_mem_append.mp legible
    exact (h.expr calls value second).bind fun _ _ like =>
      (h.assign calls target first like).bind fun _ _ _ => .pure like
  | .sequence items, legible =>
    (h.all calls items legible).bind fun _ _ likes => .pure (.getLastD likes)

theorem all (h : C.Lawful host later) {call call' : Invoker σ} (calls : C.Calls call call') :
    ∀ es : List Expr, C.Legible scopes scopes' (Expr.readsOfAll es) →
      Matching (C.Sessions scopes scopes') (List.Forall₂ C.Values) (Eval.all host call es)
        (Eval.all (host.showing later) call' es)
  | [], _ => .pure .nil
  | e :: es, legible => by
    obtain ⟨first, second⟩ := List.forall_mem_append.mp legible
    exact (h.expr calls e first).bind fun _ _ like => (h.all calls es second).bind
      fun _ _ likes => .pure (.cons like likes)

theorem entries (h : C.Lawful host later) {call call' : Invoker σ} (calls : C.Calls call call') :
    ∀ es : List (Expr × Expr), C.Legible scopes scopes' (Expr.readsOfEntries es) →
      Matching (C.Sessions scopes scopes') (List.Forall₂ C.Entries) (Eval.entries host call es)
        (Eval.entries (host.showing later) call' es)
  | [], _ => .pure .nil
  | e :: es, legible => by
    obtain ⟨first, second⟩ := List.forall_mem_append.mp legible
    exact (h.entry calls e first).bind fun _ _ like => (h.entries calls es second).bind
      fun _ _ likes => .pure (.cons like likes)

theorem entry (h : C.Lawful host later) {call call' : Invoker σ} (calls : C.Calls call call') :
    ∀ e : Expr × Expr, C.Legible scopes scopes' (Expr.readsOfEntry e) →
      Matching (C.Sessions scopes scopes') C.Entries (Eval.entry host call e)
        (Eval.entry (host.showing later) call' e)
  | (k, v), legible => by
    obtain ⟨first, second⟩ := List.forall_mem_append.mp legible
    exact (h.expr calls k first).bind fun _ _ key => (h.expr calls v second).bind
      fun _ _ value => .pure ⟨key, value⟩

theorem assign (h : C.Lawful host later) {call call' : Invoker σ} (calls : C.Calls call call') :
    ∀ target : Expr, C.Legible scopes scopes' target.readsToAssign → ∀ {v v' : Value}, C.Values v v' →
      Matching (C.Sessions scopes scopes') Eq (Eval.assign host call target v)
        (Eval.assign (host.showing later) call' target v')
  | .identifier name, _, _, _, like => h.assignIdentifier name like
  | .access object key, legible, _, _, like => by
    obtain ⟨first, second⟩ := List.forall_mem_append.mp legible
    exact (h.expr calls object first).bind fun _ _ likeBase => (h.expr calls key second).bind
      fun _ _ likeKey => h.assignProperty likeBase likeKey like object
  -- no other expression has a place
  | .integer _, _, _, _, _ | .float _, _, _, _, _ | .decimal _, _, _, _, _ | .string _, _, _, _, _
  | .boolean _, _, _, _, _ | .null, _, _, _, _ | .implicit _, _, _, _, _ | .key _, _, _, _, _
  | .method _ _ _, _, _, _, _ | .function _ _ _, _, _, _, _ | .call _ _, _, _, _, _
  | .unary _ _, _, _, _, _ | .binary _ _ _, _, _, _, _ | .conditional _ _ _, _, _, _, _
  | .instanceOf _ _, _, _, _, _ | .list _, _, _, _, _ | .set _, _, _, _, _ | .map _, _, _, _, _
  | .lambda _ _, _, _, _, _ | .assign _ _, _, _, _, _ | .sequence _, _, _, _, _ => fail rfl

end

/-! ### Calls within calls -/

/-- Every call of a lambda, by induction on how deep calls may be nested. -/
theorem calls (h : C.Lawful host later) (depth : Nat) :
    C.Calls (Eval.invoke host depth) (Eval.invoke (host.showing later) depth) := by
  intro scopes scopes' l l' args args' like all
  induction depth generalizing scopes scopes' l l' args args' with
  | zero => exact .throw _
  | succ depth ih =>
    have code : l.params = l'.params ∧ l.body = l'.body := by
      cases like with
      | scalar scalar _ => cases scalar
      | lambda => exact ⟨rfl, rfl⟩
    show Matching _ _ (Eval.invokeWith host _ l args) (Eval.invokeWith (host.showing later) _ l' args')
    unfold Eval.invokeWith
    rw [← code.1, ← all.length_eq]
    split
    · exact fail rfl
    · rename_i enough
      intro s s' start
      -- what the body reads is a parameter, captured by both lambdas, or read alike by their callers
      obtain ⟨inner, legible⟩ := start.frame.call like all (Nat.not_lt.mp enough)
      have body := h.expr (fun _ _ _ _ _ _ => ih _ _) l.body legible
      obtain ⟨outcomes, after⟩ := body (start.pushScope inner)
      rw [← code.2]
      exact ⟨outcomes, after.popScope start.frame⟩

end Lawful

end Correspondence

end ExprLang
