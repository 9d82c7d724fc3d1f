import ExprLang.Halt
import Mathlib.Data.List.Forall2

/-!
# How computations run one after another

Computations on the surroundings (`HookM`) and evaluations (`EvalM`) are functions of a state that
give a result or an error together with the state they leave. A sequence goes on from the state that
its first part leaves, and stops with the error of its first part.
-/

namespace ExprLang

variable {ε τ α β : Type}

/-- A sequence, by the outcome of its first part. -/
theorem bind_apply (m : ExceptT ε (StateM τ) α) (f : α → ExceptT ε (StateM τ) β) (s : τ) :
    (m >>= f) s = match m s with
      | (.ok a, after) => f a after
      | (.error e, after) => (.error e, after) := by
  show (ExceptT.bind m f) s = _
  unfold ExceptT.bind ExceptT.mk
  show (match m s with | (r, after) => ExceptT.bindCont f r after) = _
  rcases m s with ⟨r | r, after⟩ <;> rfl

/-- A look at the state. -/
theorem get_bind_apply (f : τ → ExceptT ε (StateM τ) α) (s : τ) : (get >>= f) s = f s s :=
  rfl

/-- A computation that has no errors. -/
theorem liftM_apply (m : StateM τ α) (s : τ) :
    (liftM m : ExceptT ε (StateM τ) α) s = (.ok (m s).1, (m s).2) :=
  rfl

/-- A sequence that gives a result has a first part that gives one, from which the rest goes on. -/
theorem bind_ok {m : ExceptT ε (StateM τ) α} {f : α → ExceptT ε (StateM τ) β} {s after : τ} {b : β}
    (h : (m >>= f) s = (.ok b, after)) :
    ∃ a between, m s = (.ok a, between) ∧ f a between = (.ok b, after) := by
  rw [bind_apply] at h
  rcases first : m s with ⟨e | a, between⟩
  · rw [first] at h
    cases h
  · rw [first] at h
    exact ⟨a, between, rfl, h⟩

/-! ### Results with a property -/

/-- Every result that the computation gives has the property; nothing is said of its errors. -/
def Yields (Q : α → Prop) (m : ExceptT ε (StateM τ) α) : Prop :=
  ∀ ⦃s a after⦄, m s = (.ok a, after) → Q a

namespace Yields

variable {P : α → Prop} {Q : β → Prop}

theorem pure {a : α} (h : P a) : Yields (ε := ε) (τ := τ) P (Pure.pure a) := by
  intro s b after run
  cases run
  exact h

theorem throw (e : ε) : Yields (τ := τ) P (MonadExcept.throw e : ExceptT ε (StateM τ) α) := by
  intro s a after run
  cases run

theorem bind {m : ExceptT ε (StateM τ) α} {f : α → ExceptT ε (StateM τ) β} (hm : Yields P m)
    (hf : ∀ a, P a → Yields Q (f a)) : Yields Q (m >>= f) := by
  intro s b after run
  obtain ⟨a, between, first, rest⟩ := bind_ok run
  exact hf a (hm first) rest

/-- A result that is given in its final form. -/
theorem outcome {r : Except ε α} (h : ∀ a, r = .ok a → P a) :
    Yields P (fun s => (r, s) : ExceptT ε (StateM τ) α) := by
  intro s a after run
  cases run
  exact h a rfl

/-- Whatever the first part gives, the second part gives a result with the property. -/
theorem after {m : ExceptT ε (StateM τ) α} {f : α → ExceptT ε (StateM τ) β}
    (h : ∀ a, Yields Q (f a)) : Yields Q (m >>= f) :=
  bind (P := fun _ => True) (fun _ _ _ _ => trivial) fun a _ => h a

/-- A value with the property, whatever it is made of. -/
theorem make {m : ExceptT ε (StateM τ) α} {g : α → β} (h : ∀ a, Q (g a)) :
    Yields Q (m >>= fun a => Pure.pure (g a)) :=
  after fun a => pure (h a)

/-- The results of computations that run one after another, where each gives one with the
property. -/
theorem mapM {f : α → ExceptT ε (StateM τ) β} (hf : ∀ a, Yields Q (f a)) (as : List α) :
    Yields (fun bs => ∀ b ∈ bs, Q b) (as.mapM f) := by
  induction as with
  | nil => exact pure (by simp)
  | cons a as ih =>
    rw [List.mapM_cons]
    refine bind (hf a) fun b hb => bind ih fun bs hbs => pure ?_
    simpa using ⟨hb, hbs⟩

end Yields

/-! ### Runs on a part of the state -/

/-- Through a view of its states, the first computation does what the second one does. -/
def SeenAs {τ' : Type} (view : τ → τ') (m : ExceptT ε (StateM τ) α)
    (m' : ExceptT ε (StateM τ') α) : Prop :=
  ∀ s, m' (view s) = ((m s).1, view (m s).2)

namespace SeenAs

variable {τ' : Type} {view : τ → τ'}

theorem outcome (r : Except ε α) :
    SeenAs view (fun s => (r, s) : ExceptT ε (StateM τ) α) fun s => (r, s) :=
  fun _ => rfl

theorem bind {m : ExceptT ε (StateM τ) α} {m' : ExceptT ε (StateM τ') α}
    {f : α → ExceptT ε (StateM τ) β} {f' : α → ExceptT ε (StateM τ') β} (hm : SeenAs view m m')
    (hf : ∀ a, SeenAs view (f a) (f' a)) : SeenAs view (m >>= f) (m' >>= f') := by
  intro s
  rw [bind_apply, bind_apply, hm s]
  rcases m s with ⟨e | a, between⟩
  · rfl
  · exact hf a between

end SeenAs

/-! ### Two runs side by side -/

/-- Both outcomes are results that are related, or both are one and the same error. -/
inductive Outcomes {α' : Type} (Q : α → α' → Prop) : Except ε α → Except ε α' → Prop where
  | ok {a : α} {a' : α'} : Q a a' → Outcomes Q (.ok a) (.ok a')
  | error (e : ε) : Outcomes Q (.error e) (.error e)

/-- From related states the two computations come to related outcomes and leave related states. -/
def Matching {α' : Type} (S : τ → τ → Prop) (Q : α → α' → Prop) (m : ExceptT ε (StateM τ) α)
    (m' : ExceptT ε (StateM τ) α') : Prop :=
  ∀ ⦃s s'⦄, S s s' → Outcomes Q (m s).1 (m' s').1 ∧ S (m s).2 (m' s').2

namespace Outcomes

variable {α' : Type} {Q Q' : α → α' → Prop} {r : Except ε α} {r' : Except ε α'}

theorem imp (h : Outcomes Q r r') (weaker : ∀ a b, Q a b → Q' a b) : Outcomes Q' r r' := by
  cases h with
  | ok related => exact .ok (weaker _ _ related)
  | error e => exact .error e

theorem mapError {ε' : Type} (h : Outcomes Q r r') (f : ε → ε') :
    Outcomes Q (r.mapError f) (r'.mapError f) := by
  cases h with
  | ok related => exact .ok related
  | error e => exact .error (f e)

theorem of_eq {r r' : Except ε α} (same : r = r') : Outcomes Eq r r' := by
  rw [← same]
  cases r with
  | ok a => exact .ok rfl
  | error e => exact .error e

theorem eq {r r' : Except ε α} (h : Outcomes Eq r r') : r = r' := by
  cases h with
  | ok same => rw [same]
  | error e => rfl

end Outcomes

namespace Matching

variable {α' β' : Type} {S : τ → τ → Prop} {Q : α → α' → Prop} {P : β → β' → Prop}

/-- Two results that depend on nothing. -/
theorem outcome {r : Except ε α} {r' : Except ε α'} (h : Outcomes Q r r') :
    Matching S Q (fun s => (r, s) : ExceptT ε (StateM τ) α) fun s => (r', s) :=
  fun _ _ start => ⟨h, start⟩

/-- From one and the same state a computation has one outcome. -/
theorem refl (m : ExceptT ε (StateM τ) α) : Matching Eq Eq m m := by
  intro s s' same
  rw [same]
  exact ⟨.of_eq rfl, rfl⟩

theorem pure {a : α} {a' : α'} (h : Q a a') :
    Matching S Q (Pure.pure a : ExceptT ε (StateM τ) α) (Pure.pure a') :=
  outcome (.ok h)

theorem throw (e : ε) : Matching S Q (MonadExcept.throw e : ExceptT ε (StateM τ) α)
    (MonadExcept.throw e) :=
  outcome (.error e)

theorem throw_of_eq {e e' : ε} (same : e = e') :
    Matching S Q (MonadExcept.throw e : ExceptT ε (StateM τ) α) (MonadExcept.throw e') :=
  same ▸ throw e

theorem bind {m : ExceptT ε (StateM τ) α} {m' : ExceptT ε (StateM τ) α'}
    {f : α → ExceptT ε (StateM τ) β} {f' : α' → ExceptT ε (StateM τ) β'} (hm : Matching S Q m m')
    (hf : ∀ a a', Q a a' → Matching S P (f a) (f' a')) : Matching S P (m >>= f) (m' >>= f') := by
  intro s s' start
  obtain ⟨outcomes, between⟩ := hm start
  rw [bind_apply, bind_apply]
  generalize m s = run, m' s' = run' at outcomes between ⊢
  obtain ⟨r, after⟩ := run
  obtain ⟨r', after'⟩ := run'
  dsimp only at outcomes between
  cases outcomes with
  | ok related => exact hf _ _ related between
  | error e => exact ⟨.error e, between⟩

/-- Where the first parts give equal results, the rest need be compared for that result only. -/
theorem bind_eq {m m' : ExceptT ε (StateM τ) α} {f : α → ExceptT ε (StateM τ) β}
    {f' : α → ExceptT ε (StateM τ) β'} (hm : Matching S Eq m m')
    (hf : ∀ a, Matching S P (f a) (f' a)) : Matching S P (m >>= f) (m' >>= f') :=
  bind hm fun a _ same => same ▸ hf a

theorem imp {Q' : α → α' → Prop} {m : ExceptT ε (StateM τ) α} {m' : ExceptT ε (StateM τ) α'}
    (h : Matching S Q m m') (weaker : ∀ a b, Q a b → Q' a b) : Matching S Q' m m' := by
  intro s s' start
  obtain ⟨outcomes, after⟩ := h start
  exact ⟨outcomes.imp weaker, after⟩

/-- Computations that run one after another, on related elements of two lists. -/
theorem mapM {γ γ' : Type} {R : γ → γ' → Prop} {f : γ → ExceptT ε (StateM τ) β}
    {f' : γ' → ExceptT ε (StateM τ) β'} (hf : ∀ c c', R c c' → Matching S P (f c) (f' c'))
    {cs : List γ} {cs' : List γ'} (related : List.Forall₂ R cs cs') :
    Matching S (List.Forall₂ P) (cs.mapM f) (cs'.mapM f') := by
  induction related with
  | nil => exact pure .nil
  | cons first _ ih =>
    rw [List.mapM_cons, List.mapM_cons]
    exact bind (hf _ _ first) fun _ _ hb => bind ih fun _ _ hbs => pure (.cons hb hbs)

/-- The search of two lists for an element that passes a test. -/
theorem anyM {γ γ' : Type} {R : γ → γ' → Prop} {f : γ → ExceptT ε (StateM τ) Bool}
    {f' : γ' → ExceptT ε (StateM τ) Bool} (hf : ∀ c c', R c c' → Matching S Eq (f c) (f' c'))
    {cs : List γ} {cs' : List γ'} (related : List.Forall₂ R cs cs') :
    Matching S Eq (cs.anyM f) (cs'.anyM f') := by
  induction related with
  | nil => exact pure rfl
  | cons first _ ih =>
    refine bind_eq (hf _ _ first) fun found => ?_
    cases found with
    | true => exact pure rfl
    | false => exact ih

end Matching

end ExprLang
