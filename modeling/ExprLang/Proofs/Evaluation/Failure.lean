import ExprLang.Proofs.Evaluation.Journal

/-!
# What becomes of a resolver's failure

A resolver that fails ends the evaluation: nobody is asked after it, and its error reaches the
caller, unless a test of equality drops it. Two places replace the error by one of their own on its
way: an index that cannot be had, and a method that is looked for among the properties of a value.

**Key theorem** (`failure_reaches_caller_or_is_replaced`): for every expression, every context and
every application, a failure that no test of equality drops is followed by no request, and the
evaluation fails; it fails with the error of the resolver exactly if what the two places have put in
its place since comes to the same error.

- `Escaping` is the shape of the notes of an evaluation that fails, as a run adds them.
- `Accounts.evaluative` says that every step of an evaluation keeps to it; that every evaluation
  does is then `Evaluative.eval`.
- The notes are those of a journal, and the outcome is that of the application as it is
  (`eval_journaled`).
-/

namespace ExprLang

open Eval

variable {σ α β : Type}

/-! ### The shape of the notes of a failing evaluation -/

/-- The error that a place puts in the place of the one it drops. -/
def Recovery.replacement : Recovery → EvalError → EvalError
  | .equality, e => e
  | .index base key, _ => .propertyNotFound base.kindName key.text
  | .method base name, _ => .methodNotFound base.kindName name

/-- The error that is on its way after a note. -/
def EvalError.after (e : EvalError) : Note → EvalError
  | .dropped place _ => place.replacement e
  | _ => e

/-- Failures that nothing has dropped leave the error as it is. -/
theorem foldl_after_failures {e err : EvalError} {ns : List Note}
    (h : ∀ n ∈ ns, n = .failed err) : ns.foldl EvalError.after e = e := by
  induction ns with
  | nil => rfl
  | cons n ns ih =>
    obtain rfl := h n (by simp)
    exact ih fun later mem => h later (by simp [mem])

/-- Notes of an evaluation that fails with an error: resolvers pass it on, and indexing and the
search for methods replace it. -/
inductive Escaping : EvalError → List Note → Prop where
  | settled {ns : List Note} (e : EvalError) : Settled ns → Escaping e ns
  | failed {ns : List Note} {e : EvalError} : Escaping e ns → Escaping e (ns ++ [.failed e])
  | dropped {ns : List Note} {e : EvalError} {place : Recovery} : place ≠ .equality →
      Escaping e ns → Escaping (place.replacement e) (ns ++ [.dropped place e])

theorem Escaping.after {first rest : List Note} {e : EvalError} (h : Escaping e rest)
    (hfirst : Settled first) : Escaping e (first ++ rest) := by
  induction h with
  | settled e hrest => exact .settled e (hfirst.append hrest)
  | failed _ ih => simpa using ih.failed
  | dropped place _ ih => simpa using ih.dropped place

theorem Failing.escaping {ns : List Note} {e : EvalError} (h : Failing e ns) : Escaping e ns := by
  obtain ⟨before, k, settled, rfl⟩ := h
  induction k with
  | zero => simpa using Escaping.settled e settled
  | succ k ih =>
    rw [List.replicate_succ', ← List.append_assoc]
    exact ih.failed

/-- A test of equality drops the error: it passes through the resolvers that are asked one within
another, and then comes to the test. -/
def DroppedByEquality (e : EvalError) (rest : List Note) : Prop :=
  ∃ k later, rest = List.replicate k (.failed e) ++ .dropped .equality e :: later

theorem DroppedByEquality.append {e : EvalError} {rest : List Note} (h : DroppedByEquality e rest)
    (more : List Note) : DroppedByEquality e (rest ++ more) := by
  obtain ⟨k, later, rfl⟩ := h
  exact ⟨k, later ++ more, by simp⟩

/-- Where a note stands in a list with one more note at its end. -/
theorem split_concat {ns before rest : List Note} {last n : Note}
    (h : ns ++ [last] = before ++ n :: rest) :
    (rest = [] ∧ last = n) ∨ ∃ later, rest = later ++ [last] ∧ ns = before ++ n :: later := by
  rcases List.eq_nil_or_concat rest with rfl | ⟨later, other, rfl⟩
  · obtain ⟨-, same⟩ := List.append_inj' h rfl
    cases same
    exact .inl ⟨rfl, rfl⟩
  · rw [List.concat_eq_append, ← List.cons_append, ← List.append_assoc] at h
    obtain ⟨rfl, same⟩ := List.append_inj' h rfl
    cases same
    exact .inr ⟨later, by simp, rfl⟩

/-- After a failure among failures with one error there are only failures with that error. -/
theorem rest_of_replicate {before rest : List Note} {e err : EvalError} {k : Nat}
    (h : List.replicate k (.failed e) = before ++ .failed err :: rest) :
    err = e ∧ ∃ j, rest = List.replicate j (.failed err) := by
  have each : ∀ n ∈ before ++ .failed err :: rest, n = .failed e := by
    rw [← h]
    exact fun n => List.eq_of_mem_replicate
  obtain rfl : err = e := by simpa using each (.failed err) (by simp)
  exact ⟨rfl, rest.length, List.eq_replicate_iff.mpr ⟨rfl, fun n mem => each n (by simp [mem])⟩⟩

/-- In settled notes a test of equality has dropped every failure. -/
theorem Settled.droppedByEquality {ns before rest : List Note} {err : EvalError} (h : Settled ns)
    (split : ns = before ++ .failed err :: rest) : DroppedByEquality err rest := by
  induction h generalizing rest with
  | nil => simp at split
  | asked _ ih =>
    rcases split_concat split with ⟨-, other⟩ | ⟨later, rfl, earlier⟩
    · cases other
    · exact (ih earlier).append _
  | @equality ns e k _ ih =>
    rcases split_concat split with ⟨-, other⟩ | ⟨later, rfl, earlier⟩
    · cases other
    rcases List.append_eq_append_iff.mp earlier with ⟨front, rfl, block⟩ | ⟨back, rfl, block⟩
    · -- it is one of the failures that this test drops
      obtain ⟨rfl, j, rfl⟩ := rest_of_replicate block
      exact ⟨j, [], rfl⟩
    · cases back with
      | nil =>
        have all_of_it : List.replicate k (.failed e) = [] ++ .failed err :: later := block.symm
        obtain ⟨rfl, j, rfl⟩ := rest_of_replicate all_of_it
        exact ⟨j, [], rfl⟩
      | cons n back =>
        -- it has been dropped before
        obtain ⟨rfl, rfl⟩ : .failed err = n ∧ later = back ++ List.replicate k (.failed e) := by
          simpa using block
        rw [List.append_assoc]
        exact (ih rfl).append _

/-- In the notes of a failing evaluation nobody is asked after a failure that no test of equality
has dropped; the error of the evaluation is what has become of that failure. -/
theorem Escaping.after_failure {ns before rest : List Note} {e err : EvalError} (h : Escaping e ns)
    (split : ns = before ++ .failed err :: rest) (kept : ¬ DroppedByEquality err rest) :
    .asked ∉ rest ∧ e = rest.foldl EvalError.after err ∧
      ((∀ n ∈ rest, n = .failed err) ∨
        ∃ place dropped, place ≠ .equality ∧ .dropped place dropped ∈ rest) := by
  induction h generalizing rest with
  | settled e settled => exact absurd (settled.droppedByEquality split) kept
  | @failed ns e h ih =>
    rcases split_concat split with ⟨rfl, same⟩ | ⟨later, rfl, earlier⟩
    · cases same
      exact ⟨by simp, rfl, .inl (by simp)⟩
    · obtain ⟨unasked, become, fate⟩ := ih earlier fun dropped => kept (dropped.append _)
      refine ⟨by simpa using unasked, ?_, ?_⟩
      · rw [List.foldl_append, ← become]
        rfl
      rcases fate with failures | ⟨place, dropped, other, mem⟩
      · have same : e = err := become.trans (foldl_after_failures failures)
        refine .inl fun n mem => ?_
        rcases List.mem_append.mp mem with early | last
        · exact failures n early
        · simpa [same] using last
      · exact .inr ⟨place, dropped, other, by simp [mem]⟩
  | @dropped ns e place other h ih =>
    rcases split_concat split with ⟨-, wrong⟩ | ⟨later, rfl, earlier⟩
    · cases wrong
    · obtain ⟨unasked, become, -⟩ := ih earlier fun dropped => kept (dropped.append _)
      refine ⟨by simpa using unasked, ?_, .inr ⟨place, e, other, by simp⟩⟩
      rw [List.foldl_append, ← become]
      rfl

/-! ### Evaluations and their notes -/

/-- The notes of an evaluation, by its outcome. -/
def Concludes (r : Except (Halt EvalError) α) (ns : List Note) : Prop :=
  match r with
  | .ok _ | .error .exhausted => Settled ns
  | .error (.error e) => Escaping e ns

theorem Concludes.after {r : Except (Halt EvalError) α} {first rest : List Note}
    (h : Concludes r rest) (hfirst : Settled first) : Concludes r (first ++ rest) := by
  rcases r with (e | _) | a
  · exact Escaping.after h hfirst
  · exact hfirst.append h
  · exact hfirst.append h

theorem concludes_nil (r : Except (Halt EvalError) α) : Concludes r [] := by
  rcases r with (e | _) | a
  · exact .settled e .nil
  · exact Settled.nil
  · exact Settled.nil

/-- An evaluation adds notes that fit its outcome. -/
def Accounts (m : EvalM (Journal σ) α) : Prop :=
  ∀ s, ∃ ns, (m s).2.ambient.world.notes = s.ambient.world.notes ++ ns ∧ Concludes (m s).1 ns

namespace Accounts

/-- An evaluation without notes, whatever its outcome. -/
theorem of_silent {m : EvalM (Journal σ) α}
    (h : ∀ s, (m s).2.ambient.world.notes = s.ambient.world.notes) : Accounts m :=
  fun s => ⟨[], by simpa using h s, concludes_nil _⟩

theorem bind {m : EvalM (Journal σ) α} {f : α → EvalM (Journal σ) β} (hm : Accounts m)
    (hf : ∀ a, Accounts (f a)) : Accounts (m >>= f) := by
  intro s
  obtain ⟨first, kept, ended⟩ := hm s
  rw [bind_apply]
  rcases run : m s with ⟨e | a, between⟩
  · rw [run] at kept ended
    refine ⟨first, kept, ?_⟩
    rcases e with e | _
    · exact ended
    · exact ended
  · rw [run] at kept ended
    obtain ⟨rest, more, finished⟩ := hf a between
    refine ⟨first ++ rest, ?_, finished.after ended⟩
    rw [more, kept, List.append_assoc]

theorem within {f : Context → HookM (Journal σ) α} (h : ∀ ctx, Reports (f ctx)) :
    Accounts (within f) := by
  intro s
  obtain ⟨ns, kept, ended⟩ := h s.context s.ambient
  refine ⟨ns, kept, ?_⟩
  unfold Eval.within
  rcases run : f s.context s.ambient with ⟨e | a, after⟩
  · rw [run] at ended
    exact Failing.escaping ended
  · rw [run] at ended
    exact ended

/-- The key of a list-like value: an error of converting it is replaced. -/
theorem index (host : Host σ) (base key : Value) : Accounts (index host.journaled base key) := by
  intro s
  obtain ⟨ns, kept, ended⟩ :=
    (Reports.resolving host).toNumber s.context ⟨.long, true⟩ key s.ambient
  unfold Eval.index Eval.within
  dsimp only
  rcases run : Coercion.toNumber host.journaled s.context ⟨.long, true⟩ key s.ambient with
    ⟨e | n, after⟩
  · rw [run] at kept ended
    refine ⟨ns ++ [.dropped (.index base key) e], ?_, ?_⟩
    · show after.world.notes ++ [.dropped (.index base key) e] = _
      rw [kept, List.append_assoc]
    · have arrived : Escaping e ns := Failing.escaping ended
      have replaced : Escaping ((Recovery.index base key).replacement e)
          (ns ++ [.dropped (.index base key) e]) := arrived.dropped (by simp)
      exact replaced
  · rw [run] at kept ended
    refine ⟨ns, ?_, ?_⟩
    · cases n <;> exact kept
    · cases n with
      | long n => exact ended
      | _ => exact Escaping.settled _ ended

/-- A method among the properties of a value: an error of looking for it is replaced. -/
theorem callProperty {host : Host σ} {call : Invoker (Journal σ)} (base : Value) (name : String)
    (args : List Value) (looked : Accounts (property host.journaled base (.string name)))
    (calls : ∀ l args, Accounts (call l args)) :
    Accounts (callProperty host.journaled call base name args) := by
  intro s
  obtain ⟨first, kept, ended⟩ := looked s
  unfold Eval.callProperty
  rcases run : property host.journaled base (.string name) s with ⟨(e | _) | v, after⟩
  · rw [run] at kept ended
    refine ⟨first ++ [.dropped (.method base name) e], ?_, ?_⟩
    · show after.ambient.world.notes ++ [.dropped (.method base name) e] = _
      rw [kept, List.append_assoc]
    · have arrived : Escaping e first := ended
      have replaced : Escaping ((Recovery.method base name).replacement e)
          (first ++ [.dropped (.method base name) e]) := arrived.dropped (by simp)
      exact replaced
  · rw [run] at kept ended
    exact ⟨first, kept, ended⟩
  · rw [run] at kept ended
    cases v with
    | lambda l =>
      obtain ⟨rest, more, finished⟩ := calls l args after
      refine ⟨first ++ rest, ?_, finished.after ended⟩
      rw [more, kept, List.append_assoc]
    | _ => exact ⟨first, kept, Escaping.settled _ ended⟩

/-- Every step of an evaluation keeps to the shape of the notes. -/
theorem evaluative (host : Host σ) :
    Evaluative host.journaled host.journaled (fun _ m _ => Reports m) fun _ m _ => Accounts m where
  surroundings := Reports.resolving host
  outcome _ := of_silent fun _ => rfl
  bind := bind
  look looked := bind (of_silent fun _ => rfl) fun s => looked s.context s.ambient s.ambient
  within := within
  variable_ _ _ := of_silent fun _ => rfl
  index := index host
  callProperty base name args looked calls := callProperty base name args looked calls
  callAdapter a args calls := by
    intro s
    exact calls a.lambda args ⟨a.bound.toContext, { s.ambient with resolved := false }⟩
  body l args evaluated := by
    intro s
    unfold invokeWith
    split
    · exact of_silent (fun _ => rfl) s
    · exact evaluated { s with context := s.context.pushScope (scopeOf l args) }

end Accounts

/-! ### The fate of a failure -/

/-- The notes of an evaluation, as a journal keeps them. -/
def Expr.notes (e : Expr) (host : Host σ) (s : Session σ) : List Note :=
  (e.eval host.journaled s.journaled).2.ambient.world.notes

/-- The notes of an evaluation fit its outcome, which does not depend on who notes it. -/
theorem concludes_eval (host : Host σ) (e : Expr) (s : Session σ) :
    Concludes (e.eval host s).1 (e.notes host s) := by
  obtain ⟨ns, noted, ended⟩ := (Accounts.evaluative host).eval e s.journaled
  have all_notes : e.notes host s = ns := by
    rw [Expr.notes, noted]
    rfl
  rw [eval_journaled, all_notes]
  exact ended

/-- What follows the failure of a resolver that no test of equality drops: no request, and the end
of the evaluation, with the same error unless an index or the search for a method replaces it. -/
theorem failure_reaches_caller_or_is_replaced (host : Host σ) (e : Expr) (s : Session σ)
    {before rest : List Note} {err : EvalError}
    (split : e.notes host s = before ++ .failed err :: rest)
    (kept : ¬ DroppedByEquality err rest) :
    .asked ∉ rest ∧
      (e.eval host s).1 = .error (.error (rest.foldl EvalError.after err)) ∧
      ((e.eval host s).1 = .error (.error err) ↔ rest.foldl EvalError.after err = err) ∧
      ((∀ n ∈ rest, n = .failed err) ∨
        ∃ place dropped, place ≠ .equality ∧ .dropped place dropped ∈ rest) := by
  have ended := concludes_eval host e s
  rcases outcome : (e.eval host s).1 with (error | _) | v
  · rw [outcome] at ended
    obtain ⟨unasked, rfl, fate⟩ := Escaping.after_failure ended split kept
    exact ⟨unasked, rfl, by simp, fate⟩
  · rw [outcome] at ended
    exact absurd (Settled.droppedByEquality ended split) kept
  · rw [outcome] at ended
    exact absurd (Settled.droppedByEquality ended split) kept

/-- An application whose resolver fails to read properties and declines everything else. -/
def Host.unreadable (e : EvalError) : Host Unit :=
  { Host.plain false with hooks := fun _ => { Hooks.declining with get := fun _ _ _ => throw e } }

/-- A call of a method whose name the resolver fails to look up: the error is replaced. -/
theorem failure_replaced_by_method :
    let ctx := Context.ofEnvironment { Environment.empty with resolver := some (.host 0) }
    let host := Host.unreadable (.host "boom")
    let call := Expr.method .null "m" []
    let s : Session Unit := ⟨ctx, ⟨false, 0, ()⟩⟩
    let rest : List Note := [.failed (.host "boom"), .dropped (.method .null "m") (.host "boom")]
    call.notes host s = [.asked, .asked, .asked, .asked] ++ .failed (.host "boom") :: rest ∧
      ¬ DroppedByEquality (.host "boom") rest ∧
      (call.eval host s).1 = .error (.error (.methodNotFound "Null" "m")) := by
  intro ctx host call s rest
  have noted : call.notes host s =
      [.asked, .asked, .asked, .asked] ++ .failed (.host "boom") :: rest := by
    rfl
  have kept : ¬ DroppedByEquality (.host "boom") rest := by
    rintro ⟨k, later, same⟩
    rcases k with _ | _ | k <;> simp [rest, List.replicate] at same
  exact ⟨noted, kept, (failure_reaches_caller_or_is_replaced host call s noted kept).2.1⟩

end ExprLang
