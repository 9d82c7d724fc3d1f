import ExprLang.Proofs.Evaluation.Stepwise
import ExprLang.Proofs.Resolution.Journal

/-!
# A journal changes nothing

An application that keeps a journal does what it does without one: its resolvers give the same
answers and its state is the same, up to the notes. **Key theorem** (`eval_journaled`): every
expression is evaluated to the same outcome with a journal and without, and leaves the same context
and the same surroundings. So what the notes say about a run with a journal is true of the run
without one.
-/

namespace ExprLang

open Eval

variable {σ α : Type}

/-- The surroundings without the journal. -/
def Ambient.unnoted (s : Ambient (Journal σ)) : Ambient σ :=
  ⟨s.resolved, s.fresh, s.world.world⟩

/-- The first computation keeps a journal and does otherwise what the second one does. -/
abbrev Unnoticed (m : HookM (Journal σ) α) (m' : HookM σ α) : Prop :=
  SeenAs Ambient.unnoted m m'

namespace Unnoticed

/-! ### Requests -/

theorem unaware (m : HookM σ α) : Unnoticed m.unaware m :=
  fun _ => rfl

/-- A request, where the log of the second application is told of it and the journal too. -/
theorem watch {host : Host (Journal σ)} {host' : Host σ}
    (told : ∀ n j, (host.log n j).world = host'.log n j.world) {ask : HookM (Journal σ) α}
    {ask' : HookM σ α} (h : Unnoticed ask ask') :
    Unnoticed (host.watch ask) (host'.watch ask') := by
  have noted (n : Note) (s : Ambient (Journal σ)) :
      (host.note n s).unnoted = host'.note n s.unnoted := by
    simp only [Ambient.unnoted, Host.note, told]
  intro s
  unfold Host.watch
  rw [← noted, h]
  rcases ask (host.note .asked s) with ⟨e | a, after⟩
  · exact congrArg _ (noted (.failed e) after).symm
  · rfl

/-- A request that is noted in the journal only. -/
theorem journal (host : Host σ) (m : HookM σ α) : Unnoticed (host.journal.watch m.unaware) m := by
  let silent : Host σ := { host with log := fun _ world => world }
  have told : Unnoticed (host.journal.watch m.unaware) (silent.watch m) :=
    watch (fun _ _ => rfl) (unaware m)
  have unwatched : silent.watch m = m := Host.watch_of_silent (fun _ _ => rfl) m
  rwa [unwatched] at told

theorem application (host : Host σ) (id : Nat) :
    (host.journaled.hooks id).Related (fun _ => Unnoticed) (host.hooks id) where
  convert _ _ _ := journal host _
  get _ _ _ := journal host _
  set _ _ _ _ := journal host _
  invoke _ _ _ _ := journal host _
  call _ _ _ _ := journal host _
  implicit _ _ := journal host _
  type _ _ := journal host _

/-! ### Coercions and comparisons -/

theorem keepingFlag {body : HookM (Journal σ) α} {body' : HookM σ α} (h : Unnoticed body body') :
    Unnoticed (.keepingFlag body) (.keepingFlag body') := by
  intro s
  have run := h { s with resolved := false }
  unfold HookM.keepingFlag
  rw [show { s.unnoted with resolved := false } =
    Ambient.unnoted { s with resolved := false } from rfl, run]
  rfl

theorem sequential : Sequential fun _ => Unnoticed (σ := σ) where
  result := SeenAs.outcome
  bind := SeenAs.bind

theorem offerConversion (host : Host σ) (ctx : Context) (v : Value) (t : ValueType) :
    Unnoticed (ctx.offerConversion host.journaled v t) (ctx.offerConversion host v t) := by
  unfold Context.offerConversion
  split
  · exact sequential.pure none
  · have claimed := sequential.convert (application host) ctx v t
    refine keepingFlag (sequential.bind (watch (fun _ _ => rfl) (claimed _)) fun found => ?_)
    split
    · exact sequential.pure _
    · -- the flag is the same on both sides
      intro s
      rfl

theorem equals {host : Host σ} {ctx : Context} {a b : Value}
    (h : Unnoticed (Comparison.tryEquals host.journaled ctx a b)
      (Comparison.tryEquals host ctx a b)) :
    Unnoticed (monadLift (Comparison.equals host.journaled ctx a b) : HookM (Journal σ) Bool)
      (monadLift (Comparison.equals host ctx a b)) := by
  intro s
  have same : Comparison.equals host ctx a b s.unnoted =
      ((Comparison.equals host.journaled ctx a b s).1,
        (Comparison.equals host.journaled ctx a b s).2.unnoted) := by
    unfold Comparison.equals
    rw [h s]
    rcases Comparison.tryEquals host.journaled ctx a b s with ⟨e | equal, after⟩ <;> rfl
  show (Except.ok (Comparison.equals host ctx a b s.unnoted).1,
    (Comparison.equals host ctx a b s.unnoted).2) = _
  rw [same]
  rfl

/-- Every step of coercions, comparisons and requests does the same without the journal. -/
theorem resolving (host : Host σ) : Resolving host.journaled host fun _ => Unnoticed where
  toSequential := sequential
  alike := ⟨rfl, rfl, rfl, rfl⟩
  fresh _ := rfl
  offer := offerConversion host
  equality _ _ _ := equals
  application := application host
  flag _ _ := rfl
  watch := watch fun _ _ => rfl

end Unnoticed

/-! ### Evaluations -/

/-- The state of an evaluation without the journal. -/
def Session.unnoted (s : Session (Journal σ)) : Session σ :=
  ⟨s.context, s.ambient.unnoted⟩

/-- The state of an evaluation that begins to keep a journal. -/
def Session.journaled (s : Session σ) : Session (Journal σ) :=
  ⟨s.context, ⟨s.ambient.resolved, s.ambient.fresh, ⟨s.ambient.world, []⟩⟩⟩

/-- The first evaluation keeps a journal and does otherwise what the second one does. -/
abbrev Unremarked (m : EvalM (Journal σ) α) (m' : EvalM σ α) : Prop :=
  SeenAs Session.unnoted m m'

namespace Unremarked

theorem within {f : Context → HookM (Journal σ) α} {f' : Context → HookM σ α}
    (h : ∀ ctx, Unnoticed (f ctx) (f' ctx)) : Unremarked (within f) (within f') := by
  intro s
  have run : f' s.unnoted.context s.unnoted.ambient =
      ((f s.context s.ambient).1, (f s.context s.ambient).2.unnoted) := h s.context s.ambient
  unfold Eval.within
  rw [run]
  rfl

theorem index (host : Host σ) (base key : Value) :
    Unremarked (index host.journaled base key) (index host base key) := by
  intro s
  have run : Coercion.toNumber host s.unnoted.context ⟨.long, true⟩ key s.unnoted.ambient = _ :=
    (Unnoticed.resolving host).toNumber s.context ⟨.long, true⟩ key s.ambient
  unfold Eval.index Eval.within
  dsimp only
  rw [run]
  rcases Coercion.toNumber host.journaled s.context ⟨.long, true⟩ key s.ambient with
    ⟨e | n, after⟩
  · rfl
  · cases n <;> rfl

theorem callProperty {host : Host σ} {call : Invoker (Journal σ)} {call' : Invoker σ}
    (base : Value) (name : String) (args : List Value)
    (looked : Unremarked (property host.journaled base (.string name))
      (property host base (.string name)))
    (calls : ∀ l args, Unremarked (call l args) (call' l args)) :
    Unremarked (callProperty host.journaled call base name args)
      (callProperty host call' base name args) := by
  intro s
  unfold Eval.callProperty
  rw [looked s]
  rcases property host.journaled base (.string name) s with ⟨(e | _) | v, after⟩
  · rfl
  · rfl
  · cases v with
    | lambda l => exact calls l args after
    | _ => rfl

theorem callAdapter {call : Invoker (Journal σ)} {call' : Invoker σ} (a : Adapter)
    (args : List Value) (calls : ∀ l args, Unremarked (call l args) (call' l args)) :
    Unremarked (callAdapter call a args) (callAdapter call' a args) := by
  intro s
  have run : call' a.lambda args
      ⟨a.bound.toContext, { s.unnoted.ambient with resolved := false }⟩ = _ :=
    calls a.lambda args ⟨a.bound.toContext, { s.ambient with resolved := false }⟩
  unfold Eval.callAdapter
  rw [run]
  rfl

/-- Every step of an evaluation does the same without the journal. -/
theorem evaluative (host : Host σ) :
    Evaluative host.journaled host (fun _ => Unnoticed) fun _ => Unremarked where
  surroundings := Unnoticed.resolving host
  outcome := SeenAs.outcome
  bind := SeenAs.bind
  look looked s := looked s.context s.ambient s.unnoted.ambient s
  within := within
  variable_ _ _ _ := rfl
  index := index host
  callProperty := callProperty
  callAdapter := callAdapter
  body l args evaluated := by
    intro s
    unfold invokeWith
    split
    · rfl
    · have run : expr host _ l.body
          { s.unnoted with context := s.unnoted.context.pushScope (scopeOf l args) } = _ :=
        evaluated { s with context := s.context.pushScope (scopeOf l args) }
      dsimp only
      rw [run]
      rfl

end Unremarked

/-- An expression is evaluated to the same outcome with a journal and without, and leaves the same
state. -/
theorem eval_journaled (host : Host σ) (e : Expr) (s : Session σ) :
    e.eval host s = ((e.eval host.journaled s.journaled).1,
      (e.eval host.journaled s.journaled).2.unnoted) :=
  (Unremarked.evaluative host).eval e s.journaled

end ExprLang
