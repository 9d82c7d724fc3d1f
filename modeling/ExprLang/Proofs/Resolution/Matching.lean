import ExprLang.Proofs.Resolution.Chain
import ExprLang.Proofs.Resolution.Resolvers

/-!
# Surroundings that make no difference

Two runs may start from surroundings that differ, in the state of the application say, and still come to
the same. A relation between surroundings is a congruence (`Congruence`) if related surroundings agree in
what the language itself reads of them, the flag and the next number, and stay related when it changes
them or when the log is told of something. What offers, requests and tests of equality do then comes to
the same as far as resolvers answer alike, and if the application's own resolvers do so, every resolver,
coercion and comparison does (`Congruence.resolving`).
-/

namespace ExprLang

variable {σ α β : Type} {host : Host σ}

namespace Matching

variable {host' : Host σ} {S : Ambient σ → Ambient σ → Prop}

/-- A request that the log is told of, where telling the log keeps the states related. -/
theorem watch {Q : α → β → Prop} {m : HookM σ α} {m' : HookM σ β}
    (told : ∀ {s s'} note, S s s' → S (host.note note s) (host'.note note s'))
    (asked : Matching S Q m m') : Matching S Q (host.watch m) (host'.watch m') := by
  intro s s' start
  obtain ⟨outcomes, after⟩ := asked (told .asked start)
  unfold Host.watch
  generalize m (host.note .asked s) = run, m' (host'.note .asked s') = run' at outcomes after ⊢
  obtain ⟨r, left⟩ := run
  obtain ⟨r', left'⟩ := run'
  dsimp only at outcomes after
  cases outcomes with
  | ok related => exact ⟨.ok related, after⟩
  | error e => exact ⟨.error e, told _ after⟩

/-- Tests of equality drop the same errors if they run into the same ones. -/
theorem equals {ctx ctx' : Context} {a b a' b' : Value}
    (told : ∀ {s s'} note, S s s' → S (host.note note s) (host'.note note s'))
    (tried : Matching S Eq (Comparison.tryEquals host ctx a b)
      (Comparison.tryEquals host' ctx' a' b')) :
    Matching S Eq (monadLift (Comparison.equals host ctx a b) : HookM σ Bool)
      (monadLift (Comparison.equals host' ctx' a' b')) := by
  intro s s' start
  obtain ⟨outcomes, after⟩ := tried start
  show Outcomes Eq (.ok (Comparison.equals host ctx a b s).1)
      (.ok (Comparison.equals host' ctx' a' b' s').1) ∧
    S (Comparison.equals host ctx a b s).2 (Comparison.equals host' ctx' a' b' s').2
  unfold Comparison.equals
  generalize Comparison.tryEquals host ctx a b s = run,
    Comparison.tryEquals host' ctx' a' b' s' = run' at outcomes after ⊢
  obtain ⟨r, left⟩ := run
  obtain ⟨r', left'⟩ := run'
  dsimp only at outcomes after
  cases outcomes with
  | ok same => exact ⟨.ok same, after⟩
  | error e => exact ⟨.ok rfl, told _ after⟩

end Matching

/-- Related surroundings agree in what the language reads of them, and stay related when it changes
them. -/
structure Congruence (host : Host σ) (A : Ambient σ → Ambient σ → Prop) : Prop where
  resolved : ∀ {s s'}, A s s' → s.resolved = s'.resolved
  fresh : ∀ {s s'}, A s s' → s.fresh = s'.fresh
  setResolved : ∀ {s s'} resolved, A s s' →
    A { s with resolved := resolved } { s' with resolved := resolved }
  setFresh : ∀ {s s'} fresh, A s s' → A { s with fresh := fresh } { s' with fresh := fresh }
  note : ∀ {s s'} note, A s s' → A (host.note note s) (host.note note s')

namespace Congruence

/-- Surroundings that do not differ at all. -/
theorem eq (host : Host σ) : Congruence host Eq where
  resolved := congrArg Ambient.resolved
  fresh := congrArg Ambient.fresh
  setResolved resolved same := by rw [same]
  setFresh fresh same := by rw [same]
  note n := congrArg (host.note n)

variable {A : Ambient σ → Ambient σ → Prop} (h : Congruence host A)
include h

theorem freshId : Matching A Eq (HookM.freshId (σ := σ)) HookM.freshId := by
  intro s s' start
  have next : A { s with fresh := s.fresh + 1 } { s' with fresh := s'.fresh + 1 } := by
    rw [← h.fresh start]
    exact h.setFresh (s.fresh + 1) start
  exact ⟨.of_eq (congrArg Except.ok (h.fresh start)), next⟩

theorem flag (resolved : Bool) :
    Matching A Eq (HookM.setResolved resolved : HookM σ Unit) (HookM.setResolved resolved) :=
  fun _ _ start => ⟨.ok rfl, h.setResolved resolved start⟩

/-- The flag is put back to what it was in both runs. -/
theorem keepingFlag {Q : α → β → Prop} {m : HookM σ α} {m' : HookM σ β} (body : Matching A Q m m') :
    Matching A Q (HookM.keepingFlag m) (HookM.keepingFlag m') := by
  intro s s' start
  obtain ⟨outcomes, after⟩ := body (h.setResolved false start)
  refine ⟨outcomes, ?_⟩
  have back := h.setResolved s.resolved after
  unfold HookM.keepingFlag
  rw [← h.resolved start]
  exact back

/-- Resolvers that answer alike claim the same, as they leave the same flag. -/
theorem claimed {m m' : HookM σ (Option Value)} (asked : Matching A Eq m m') :
    Matching A Eq (HookM.claimed m) (HookM.claimed m') := by
  refine asked.bind_eq fun answer => ?_
  cases answer with
  | some v => exact .pure rfl
  | none =>
    intro s s' start
    have flags : (if s.resolved then some Value.null else none) =
        if s'.resolved then some Value.null else none := by
      rw [h.resolved start]
    exact ⟨.of_eq (congrArg Except.ok flags), start⟩

/-- If the application's own resolvers do the same from related surroundings, then so does every
resolver, coercion and comparison. -/
theorem resolving
    (application : ∀ id, (host.hooks id).Related (fun _ m m' => Matching A Eq m m') (host.hooks id)) :
    Resolving host host fun _ m m' => Matching A Eq m m' := by
  have sequential : Sequential (fun _ (m m' : HookM σ _) => Matching A Eq m m') :=
    ⟨fun _ => .outcome (.of_eq rfl), fun first rest => first.bind_eq rest⟩
  exact { sequential with
    alike := .refl host
    fresh := h.freshId
    offer := by
      intro ctx v t
      unfold Context.offerConversion
      split
      · exact .pure rfl
      · rename_i r _
        exact h.keepingFlag (h.claimed
          ((sequential.convert application ctx v t r).watch h.note))
    equality := fun _ _ _ tried => tried.equals h.note
    application := application
    flag := h.flag
    watch := fun asked => asked.watch h.note }

end Congruence

end ExprLang
