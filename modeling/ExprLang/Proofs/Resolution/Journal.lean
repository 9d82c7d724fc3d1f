import ExprLang.Proofs.Effects
import ExprLang.Proofs.Resolution.Resolvers

/-!
# What the log is told

An application whose log keeps every note (`Host.journaled`), and what the notes of a run look like.
The resolvers of the application are told of too: one of them that a context asks, by itself or in a
chain, leaves notes of its own besides those of the context's resolver.

**Key theorem** (`Reports.resolving`): whatever coercions, comparisons and resolvers do, a run that
gives a result leaves notes in which every failure has been dropped by a test of equality
(`Settled`), and a run that fails leaves such notes followed by failures with its error alone
(`Failing`). So between a failure and the end of the run nobody is asked.
-/

namespace ExprLang

variable {σ α β : Type}

/-! ### The shape of the notes -/

/-- Notes without a failure that is still on its way: tests of equality have dropped them all. -/
inductive Settled : List Note → Prop where
  | nil : Settled []
  | asked {ns : List Note} : Settled ns → Settled (ns ++ [.asked])
  /-- A test of equality has dropped an error, which failed in `k` resolvers, one within another. -/
  | equality {ns : List Note} (e : EvalError) (k : Nat) : Settled ns →
      Settled (ns ++ List.replicate k (.failed e) ++ [.dropped .equality e])

/-- Notes that end with the failures of an error that is on its way; an error of the language itself
has none. -/
def Failing (e : EvalError) (ns : List Note) : Prop :=
  ∃ before k, Settled before ∧ ns = before ++ List.replicate k (.failed e)

theorem Settled.append {first rest : List Note} (hfirst : Settled first) (hrest : Settled rest) :
    Settled (first ++ rest) := by
  induction hrest with
  | nil => simpa using hfirst
  | asked _ ih => simpa using ih.asked
  | equality e k _ ih => simpa using ih.equality e k

theorem Settled.failing {ns : List Note} (h : Settled ns) (e : EvalError) : Failing e ns :=
  ⟨ns, 0, h, by simp⟩

theorem Failing.after {first rest : List Note} {e : EvalError} (h : Failing e rest)
    (hfirst : Settled first) : Failing e (first ++ rest) := by
  obtain ⟨before, k, settled, rfl⟩ := h
  exact ⟨first ++ before, k, hfirst.append settled, by simp⟩

/-- The error passes through one resolver more. -/
theorem Failing.again {ns : List Note} {e : EvalError} (h : Failing e ns) :
    Failing e (ns ++ [.failed e]) := by
  obtain ⟨before, k, settled, rfl⟩ := h
  refine ⟨before, k + 1, settled, ?_⟩
  rw [List.replicate_succ', List.append_assoc]

/-- A test of equality drops the error. -/
theorem Failing.drop {ns : List Note} {e : EvalError} (h : Failing e ns) :
    Settled (ns ++ [.dropped .equality e]) := by
  obtain ⟨before, k, settled, rfl⟩ := h
  exact settled.equality e k

/-- The notes of a run, by its outcome. -/
def Ends (r : Except EvalError α) (ns : List Note) : Prop :=
  match r with
  | .ok _ => Settled ns
  | .error e => Failing e ns

theorem Ends.after {r : Except EvalError α} {first rest : List Note} (h : Ends r rest)
    (hfirst : Settled first) : Ends r (first ++ rest) := by
  cases r with
  | ok a => exact hfirst.append h
  | error e => exact Failing.after h hfirst

/-! ### Applications that keep a journal -/

/-- Nobody sees a log that does nothing. -/
theorem Host.watch_of_silent {host : Host σ} (silent : ∀ n world, host.log n world = world)
    (ask : HookM σ α) : host.watch ask = ask := by
  funext s
  have still (n : Note) (s : Ambient σ) : host.note n s = s := by rw [Host.note, silent]
  unfold Host.watch
  rw [still]
  rcases ask s with ⟨e | a, after⟩
  · exact congrArg _ (still (.failed e) after)
  · rfl

/-- A state of the application with all notes so far, the latest one last. -/
structure Journal (σ : Type) where
  world : σ
  notes : List Note

namespace Journal

/-- The journal with one more note. -/
def add (n : Note) (j : Journal σ) : Journal σ :=
  ⟨j.world, j.notes ++ [n]⟩

/-- The journal with one more note, of which the application's own log is told too. -/
def log (host : Host σ) (n : Note) (j : Journal σ) : Journal σ :=
  ⟨host.log n j.world, j.notes ++ [n]⟩

end Journal

/-- A computation of an application that does not know of the journal. -/
def HookM.unaware (m : HookM σ α) : HookM (Journal σ) α :=
  fun s =>
    let (result, after) := m ⟨s.resolved, s.fresh, s.world.world⟩
    (result, ⟨after.resolved, after.fresh, ⟨after.world, s.world.notes⟩⟩)

/-- The hooks of a resolver that does not know of the journal; the journal knows of them. -/
def Hooks.journaled (host : Host (Journal σ)) (hooks : Hooks σ) : Hooks (Journal σ) where
  convert ctx v t := host.watch (hooks.convert ctx v t).unaware
  get ctx base key := host.watch (hooks.get ctx base key).unaware
  set ctx base key v := host.watch (hooks.set ctx base key v).unaware
  invoke ctx base method args := host.watch (hooks.invoke ctx base method args).unaware
  call ctx qualifier name args := host.watch (hooks.call ctx qualifier name args).unaware
  implicit ctx name := host.watch (hooks.implicit ctx name).unaware
  type ctx name := host.watch (hooks.type ctx name).unaware

/-- The application with a journal that is all it has of a log, and without resolvers. -/
def Host.journal (host : Host σ) : Host (Journal σ) where
  objects := host.objects
  now := host.now
  coerceToZero := host.coerceToZero
  edit := host.edit
  hooks _ := .declining
  log := Journal.add

/-- The application with a journal, in which its resolvers are noted too. -/
def Host.journaled (host : Host σ) : Host (Journal σ) :=
  { host.journal with
    hooks := fun id => (host.hooks id).journaled host.journal
    log := Journal.log host }

/-! ### Runs and their notes -/

/-- A run adds notes that fit its outcome. -/
def Reports (m : HookM (Journal σ) α) : Prop :=
  ∀ s, ∃ ns, (m s).2.world.notes = s.world.notes ++ ns ∧ Ends (m s).1 ns

namespace Reports

theorem ofExcept (r : Except EvalError α) : Reports (σ := σ) (HookM.ofExcept r) := by
  intro s
  refine ⟨[], by simp [HookM.ofExcept], ?_⟩
  cases r with
  | ok a => exact .nil
  | error e => exact Settled.nil.failing e

theorem bind {m : HookM (Journal σ) α} {f : α → HookM (Journal σ) β} (hm : Reports m)
    (hf : ∀ a, Reports (f a)) : Reports (m >>= f) := by
  intro s
  obtain ⟨first, kept, ended⟩ := hm s
  rw [bind_apply]
  rcases run : m s with ⟨e | a, between⟩
  · rw [run] at kept ended
    exact ⟨first, kept, ended⟩
  · rw [run] at kept ended
    obtain ⟨rest, more, finished⟩ := hf a between
    refine ⟨first ++ rest, ?_, finished.after ended⟩
    rw [more, kept, List.append_assoc]

theorem sequential :
    Sequential fun _ (m : HookM (Journal σ) _) (_ : HookM (Journal σ) _) => Reports m where
  result := ofExcept
  bind := bind

/-- A run without notes, whatever its outcome. -/
theorem of_silent {m : HookM (Journal σ) α} (h : ∀ s, (m s).2.world.notes = s.world.notes) :
    Reports m := by
  intro s
  refine ⟨[], by simpa using h s, ?_⟩
  rcases (m s).1 with e | a
  · exact Settled.nil.failing e
  · exact .nil

theorem unaware (m : HookM σ α) : Reports m.unaware :=
  of_silent fun _ => rfl

/-- A request, after what it runs, where every note goes to the journal. -/
theorem watch {host : Host (Journal σ)} (noted : ∀ n j, (host.log n j).notes = j.notes ++ [n])
    {ask : HookM (Journal σ) α} (h : Reports ask) : Reports (host.watch ask) := by
  intro s
  obtain ⟨ns, kept, ended⟩ := h (host.note .asked s)
  have asked : Settled [.asked] := Settled.nil.asked
  have told : (host.note .asked s).world.notes = s.world.notes ++ [.asked] := noted _ _
  rw [told, List.append_assoc] at kept
  unfold Host.watch
  rcases run : ask (host.note .asked s) with ⟨e | a, after⟩
  · rw [run] at kept ended
    have passed : Failing e ([.asked] ++ ns) := Failing.after ended asked
    refine ⟨[.asked] ++ ns ++ [.failed e], ?_, ?_⟩
    · show (host.log (.failed e) after.world).notes = _
      rw [noted, kept, List.append_assoc]
    · exact passed.again
  · rw [run] at kept ended
    refine ⟨[.asked] ++ ns, kept, ?_⟩
    exact asked.append ended

/-- What a resolver of the application does is noted, and what it does by itself is not. -/
theorem application (host : Host σ) (id : Nat) :
    (host.journaled.hooks id).Related (fun _ m _ => Reports m) (host.journaled.hooks id) where
  convert _ _ _ := watch (fun _ _ => rfl) (unaware _)
  get _ _ _ := watch (fun _ _ => rfl) (unaware _)
  set _ _ _ _ := watch (fun _ _ => rfl) (unaware _)
  invoke _ _ _ _ := watch (fun _ _ => rfl) (unaware _)
  call _ _ _ _ := watch (fun _ _ => rfl) (unaware _)
  implicit _ _ := watch (fun _ _ => rfl) (unaware _)
  type _ _ := watch (fun _ _ => rfl) (unaware _)

/-- The flag is not noted. -/
theorem keepingFlag {body : HookM (Journal σ) α} (h : Reports body) : Reports (.keepingFlag body) :=
  fun s => h { s with resolved := false }

theorem offerConversion (host : Host σ) (ctx : Context) (v : Value) (t : ValueType) :
    Reports (ctx.offerConversion host.journaled v t) := by
  unfold Context.offerConversion
  split
  · exact ofExcept (.ok none)
  · have claimed := sequential.convert (application host) ctx v t
    refine keepingFlag (bind (watch (fun _ _ => rfl) (claimed _)) fun found => ?_)
    split
    · exact ofExcept (.ok _)
    · refine bind (of_silent fun s => rfl) fun s => ?_
      exact ofExcept (.ok _)

/-- A test of equality, after what it runs: if that fails, the error is dropped. -/
theorem equals {host : Host σ} {ctx : Context} {a b : Value}
    (h : Reports (Comparison.tryEquals host.journaled ctx a b)) :
    Reports (σ := σ) (α := Bool) (monadLift (Comparison.equals host.journaled ctx a b)) := by
  intro s
  obtain ⟨ns, kept, ended⟩ := h s
  show ∃ ns, (Comparison.equals host.journaled ctx a b s).2.world.notes = _ ∧ Settled ns
  unfold Comparison.equals
  rcases run : Comparison.tryEquals host.journaled ctx a b s with ⟨e | equal, after⟩
  · rw [run] at kept ended
    refine ⟨ns ++ [.dropped .equality e], ?_, Failing.drop ended⟩
    show after.world.notes ++ [.dropped .equality e] = _
    rw [kept, List.append_assoc]
  · rw [run] at kept ended
    exact ⟨ns, kept, ended⟩

/-- What coercions, comparisons and resolvers do fits their outcome. -/
theorem resolving (host : Host σ) :
    Resolving host.journaled host.journaled fun _ m _ => Reports m where
  result := ofExcept
  bind := bind
  alike := .refl _
  fresh := of_silent fun _ => rfl
  offer := offerConversion host
  equality _ _ _ h := equals h
  application := application host
  flag _ := of_silent fun _ => rfl
  watch := watch fun _ _ => rfl

end Reports

end ExprLang
