import ExprLang.Proofs.Effects
import ExprLang.Proofs.Evaluation.Parts
import ExprLang.Standard

/-!
# What the standard resolver answers

The standard resolver makes its answers itself: they are scalars and arrays of scalars, and hold
nothing of the values that it is asked about.
-/

namespace ExprLang.Standard

variable {σ α : Type}

/-- What the standard resolver may answer. -/
inductive Answer : Value → Prop where
  | scalar {v : Value} : v.isScalar = true → Answer v
  | pieces {items : List Value} : (∀ v ∈ items, v.isScalar = true) → Answer (.array items)

/-- The answer of the computation is one that the standard resolver may give. -/
abbrev Answering (m : HookM σ (Option Value)) : Prop :=
  Yields (fun answer => ∀ v ∈ answer, Answer v) m

theorem answering_none : Answering (return none : HookM σ (Option Value)) :=
  Yields.pure nofun

theorem answering_some {v : Value} (h : Answer v) :
    Answering (return some v : HookM σ (Option Value)) :=
  Yields.pure (by rintro _ ⟨⟩; exact h)

/-- An answer that is a scalar, whatever it is computed from. -/
theorem answering_make {m : HookM σ α} {g : α → Value} (h : ∀ a, (g a).isScalar = true) :
    Answering (do return some (g (← m))) :=
  Yields.after fun a => answering_some (.scalar (h a))

theorem answer_of_splitBy {source s : String} {v : Value} (h : splitBy source s = .ok v) :
    Answer v := by
  unfold splitBy at h
  split at h
  · cases h
    refine .pieces fun v mem => ?_
    obtain ⟨cs, -, rfl⟩ := List.mem_map.mp mem
    rfl
  · cases h

variable (host : Host σ) (ctx : Context)

theorem yields_charAt (s : String) (index : Value) : Yields Answer (charAt host ctx s index) := by
  refine Yields.after fun position => ?_
  dsimp only
  split
  all_goals
    refine Yields.after fun i => ?_
    split
    · exact Yields.pure (.scalar rfl)
    · exact Yields.throw _

theorem answering_textMethod (s method : String) (args : List Value) :
    Answering (textMethod host ctx s method args) := by
  unfold textMethod
  split
  · exact answering_some (.scalar rfl)
  · exact answering_some (.scalar rfl)
  · exact answering_some (.scalar rfl)
  · exact answering_some (.scalar rfl)
  · exact answering_some (.scalar rfl)
  · exact answering_make fun _ => rfl
  · exact answering_make fun _ => rfl
  · exact answering_make fun _ => rfl
  · exact Yields.after fun _ => answering_make fun _ => rfl
  · exact Yields.after fun _ => Yields.bind (Yields.outcome fun _ => answer_of_splitBy) fun _ =>
      answering_some
  · exact Yields.bind (yields_charAt host ctx s _) fun _ => answering_some
  · exact answering_none

theorem answering_invoke (base : Value) (method : String) (args : List Value) :
    Answering (invoke host ctx base method args) := by
  have collection (items : List Value) : Answering (collectionMethod host ctx items method args) := by
    unfold collectionMethod
    split
    · exact answering_some (.scalar rfl)
    · exact answering_some (.scalar rfl)
    · exact answering_make fun _ => rfl
    · exact answering_none
  unfold invoke
  split
  · exact answering_textMethod host ctx _ method args
  · exact collection _
  · exact collection _
  · exact collection _
  · unfold mapMethod
    split
    · exact answering_some (.scalar rfl)
    · exact answering_some (.scalar rfl)
    · exact answering_make fun _ => rfl
    · exact answering_none
  · exact answering_none

theorem answering_function (name : String) (args : List Value) :
    Answering (function host ctx name args) := by
  unfold function
  split
  · exact answering_make fun _ => rfl
  · exact answering_make fun _ => rfl
  · exact answering_make fun _ => rfl
  · exact Yields.after fun _ => Yields.after fun _ => answering_make fun _ => rfl
  · exact Yields.after fun _ => answering_make fun _ => rfl
  · exact answering_none

end ExprLang.Standard
