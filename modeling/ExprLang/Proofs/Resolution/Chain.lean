import ExprLang.Proofs.Effects
import ExprLang.Proofs.Resolution.Journal

/-!
# Conversions offered to a chain of resolvers

A resolver claims a conversion by an answer, or by raising the flag, which claims null. A chain asks
its members in turn and stops at an answer or a failure; who claims by the flag alone does not stop it.
So the first member that does not decline decides what becomes of the offer, as it does by itself, if
it answers or fails; if it claims by the flag alone, the members behind it are still asked, and may
answer, fail or lower the flag again.

**Key theorem**: `first_claim_of_chain`.
-/

namespace ExprLang

variable {σ : Type}

/-- The surroundings with the flag lowered. -/
def Ambient.lowered (s : Ambient σ) : Ambient σ :=
  { s with resolved := false }

namespace HookM

/-- What a computation claims: its answer, else null if it leaves the flag raised. -/
def claimed (ask : HookM σ (Option Value)) : HookM σ (Option Value) := do
  match ← ask with
  | some claimed => return some claimed
  | none => return if (← get).resolved then some .null else none

/-- What a computation claims that finds the flag lowered; the flag is put back afterwards. -/
def offered (ask : HookM σ (Option Value)) : HookM σ (Option Value) :=
  .keepingFlag (claimed ask)

/-- Offered something in turn, the computations claim nothing. -/
inductive Declining : List (HookM σ (Option Value)) → Ambient σ → Ambient σ → Prop where
  | nil (s : Ambient σ) : Declining [] s s
  | cons {ask : HookM σ (Option Value)} {rest : List (HookM σ (Option Value))}
      {s between after : Ambient σ} : offered ask s = (.ok none, between) →
      Declining rest between after → Declining (ask :: rest) s after

variable {ask : HookM σ (Option Value)} {asks rest : List (HookM σ (Option Value))}
  {s between : Ambient σ}

/-! ### One after another -/

theorem claimed_of_ok_none {after : Ambient σ} (run : ask s = (.ok none, after)) :
    claimed ask s = (.ok (if after.resolved then some .null else none), after) := by
  unfold claimed
  rw [bind_apply, run]
  rfl

theorem claimed_of_ne_ok_none (answered : (ask s).1 ≠ .ok none) : claimed ask s = ask s := by
  unfold claimed
  rw [bind_apply]
  rcases run : ask s with ⟨e | _ | v, after⟩
  · rfl
  · rw [run] at answered
    exact absurd rfl answered
  · rfl

theorem offered_apply :
    offered ask s = ((claimed ask s.lowered).1,
      { (claimed ask s.lowered).2 with resolved := s.resolved }) :=
  rfl

/-- Who declines gives no answer and leaves the flag lowered. -/
theorem run_of_declined (declined : offered ask s = (.ok none, between)) :
    ask s.lowered = (.ok none, between.lowered) ∧ between.resolved = s.resolved := by
  rw [offered_apply] at declined
  by_cases silent : (ask s.lowered).1 = .ok none
  · rcases run : ask s.lowered with ⟨r, after⟩
    rw [run] at silent
    obtain rfl : r = .ok none := silent
    rw [claimed_of_ok_none run] at declined
    cases flag : after.resolved with
    | true =>
      rw [flag] at declined
      cases declined
    | false =>
      obtain rfl : { after with resolved := s.resolved } = between := congrArg Prod.snd declined
      refine ⟨?_, rfl⟩
      rw [Ambient.lowered, ← flag]
  · rw [claimed_of_ne_ok_none silent] at declined
    exact absurd (congrArg Prod.fst declined) silent

theorem firstSome_of_ok_none {α : Type} {ask : HookM σ (Option α)}
    {rest : List (HookM σ (Option α))} {s after : Ambient σ} (run : ask s = (.ok none, after)) :
    firstSome (ask :: rest) s = firstSome rest after := by
  rw [firstSome, bind_apply, run]

theorem firstSome_of_ne_ok_none {α : Type} {ask : HookM σ (Option α)}
    {rest : List (HookM σ (Option α))} {s : Ambient σ} (answered : (ask s).1 ≠ .ok none) :
    firstSome (ask :: rest) s = ask s := by
  rw [firstSome, bind_apply]
  rcases run : ask s with ⟨e | _ | v, after⟩
  · rfl
  · rw [run] at answered
    exact absurd rfl answered
  · rfl

/-- Those who decline leave the offer to the rest as if they had not been there. -/
theorem offered_after_declining (declining : Declining asks s between) :
    offered (firstSome (asks ++ rest)) s = offered (firstSome rest) between := by
  induction declining with
  | nil => rfl
  | cons declined _ ih =>
    obtain ⟨run, flag⟩ := run_of_declined declined
    rw [← ih, offered_apply, offered_apply, List.cons_append, flag]
    unfold claimed
    rw [bind_apply, bind_apply, firstSome_of_ok_none run]

/-- The first of several computations decides what becomes of an offer if it answers or fails. -/
theorem offered_of_answered (answered : (ask s.lowered).1 ≠ .ok none) :
    offered (firstSome (ask :: rest)) s = offered ask s := by
  have same : firstSome (ask :: rest) s.lowered = ask s.lowered := firstSome_of_ne_ok_none answered
  have answered' : (firstSome (ask :: rest) s.lowered).1 ≠ .ok none := by rwa [same]
  rw [offered_apply, offered_apply, claimed_of_ne_ok_none answered,
    claimed_of_ne_ok_none answered', same]

/-- If the first one leaves nothing but the flag, the rest go on from there. -/
theorem offered_of_unanswered {after : Ambient σ} (run : ask s.lowered = (.ok none, after)) :
    (offered (firstSome (ask :: rest)) s).1 = (claimed (firstSome rest) after).1 := by
  rw [offered_apply]
  unfold claimed
  rw [bind_apply, bind_apply, firstSome_of_ok_none run]

end HookM

/-! ### Chains -/

/-- The context with a resolver of its own. -/
def Context.asking (ctx : Context) (r : Resolver) : Context :=
  { ctx with environment := { ctx.environment with resolver := some r } }

variable {host : Host σ} {ctx : Context}

theorem Resolver.conversions_eq_map (host : Host σ) (ctx : Context) (v : Value) (t : ValueType)
    (members : List Resolver) :
    Resolver.conversions host ctx v t members = members.map (Resolver.convert host ctx v t) := by
  induction members with
  | nil => rfl
  | cons r rest ih => rw [Resolver.conversions, ih, List.map_cons]

/-- An offer is what the resolver of the context claims. -/
theorem Context.offerConversion_eq_offered (silent : ∀ n world, host.log n world = world)
    {r : Resolver} (asked : ctx.environment.resolver = some r) (v : Value) (t : ValueType) :
    ctx.offerConversion host v t = HookM.offered (r.convert host ctx v t) := by
  unfold Context.offerConversion
  rw [asked]
  dsimp only
  rw [Host.watch_of_silent silent]
  rfl

/-- In a chain the first claim wins, unless it is made by the flag alone: if all members decline, so
does the chain; and the first one that does not decline decides the outcome, as it does by itself,
exactly if it does not claim by the flag alone, or those behind it come to null as well. -/
theorem first_claim_of_chain (host : Host σ) (silent : ∀ n world, host.log n world = world)
    {ctx : Context} {members : List Resolver}
    (chained : ctx.environment.resolver = some (.chain members)) (v : Value) (t : ValueType)
    (s between : Ambient σ) :
    let ask : Resolver → HookM σ (Option Value) := Resolver.convert host ctx v t
    (HookM.Declining (members.map ask) s between →
      ctx.offerConversion host v t s = (.ok none, between)) ∧
    (∀ before r rest, members = before ++ r :: rest →
      HookM.Declining (before.map ask) s between → (HookM.offered (ask r) between).1 ≠ .ok none →
        ((ctx.offerConversion host v t s).1 = (HookM.offered (ask r) between).1 ↔
          ∀ raised, ask r between.lowered = (.ok none, raised) →
            (HookM.claimed (.firstSome (rest.map ask)) raised).1 = .ok (some .null))) ∧
    ∀ r, r.convert host (ctx.asking r) v t = ask r →
      (ctx.asking r).offerConversion host v t = HookM.offered (ask r) := by
  intro ask
  have offer : ctx.offerConversion host v t = HookM.offered (.firstSome (members.map ask)) := by
    rw [Context.offerConversion_eq_offered silent chained, Resolver.convert,
      Resolver.conversions_eq_map]
  refine ⟨fun declining => ?_, fun before r rest split declining claims => ?_, fun r same => ?_⟩
  · rw [offer, ← List.append_nil (members.map ask), HookM.offered_after_declining declining]
    rfl
  · rw [offer, split, List.map_append, List.map_cons, HookM.offered_after_declining declining]
    by_cases answered : (ask r between.lowered).1 = .ok none
    · -- a claim by the flag alone is one of null
      rcases run : ask r between.lowered with ⟨result, raised⟩
      rw [run] at answered
      obtain rfl : result = .ok none := answered
      have alone : (HookM.offered (ask r) between).1 = .ok (some .null) := by
        rw [HookM.offered_apply, HookM.claimed_of_ok_none run] at claims ⊢
        cases flag : raised.resolved with
        | true => rfl
        | false => simp [flag] at claims
      rw [HookM.offered_of_unanswered run, alone]
      exact ⟨fun same raised' again => by cases again; exact same, fun all => all raised rfl⟩
    · rw [HookM.offered_of_answered answered]
      exact ⟨fun _ raised run => absurd (congrArg Prod.fst run) answered, fun _ => rfl⟩
  · rw [Context.offerConversion_eq_offered silent rfl, same]

/-- An application with two resolvers of its own: the first one raises the flag, the second one
answers. -/
def Host.flagging (answer : Value) : Host Unit :=
  { Host.plain false with
    hooks := fun id => { Hooks.declining with
      convert := fun _ _ _ =>
        if id = 0 then do HookM.setResolved true; return none else return some answer } }

/-- Behind a claim of null by the flag alone another member answers, and its answer is taken. -/
theorem first_claim_of_chain_passed_over :
    let host := Host.flagging (.long 1)
    let members : List Resolver := [.standard, .host 0, .host 1]
    let ctx := (Context.ofEnvironment .empty).asking (.chain members)
    let s : Ambient Unit := ⟨true, 0, ()⟩
    let ask : Resolver → HookM Unit (Option Value) :=
      Resolver.convert host ctx (.string "1") .string
    (∀ n world, host.log n world = world) ∧
      ctx.environment.resolver = some (.chain members) ∧
      HookM.Declining ([Resolver.standard].map ask) s s ∧
      (HookM.offered (ask (.host 0)) s).1 = .ok (some .null) ∧
      (ctx.offerConversion host (.string "1") .string s).1 ≠
        (HookM.offered (ask (.host 0)) s).1 := by
  intro host members ctx s ask
  have silent : ∀ n world, host.log n world = world := fun _ _ => rfl
  have declining : HookM.Declining ([Resolver.standard].map ask) s s := .cons rfl (.nil s)
  have null : (HookM.offered (ask (.host 0)) s).1 = .ok (some .null) := rfl
  have decided := (first_claim_of_chain host silent rfl (.string "1") .string s s).2.1
    [.standard] (.host 0) [.host 1] rfl declining (by rw [null]; nofun)
  refine ⟨silent, rfl, declining, null, fun same => ?_⟩
  have behind := decided.mp same ⟨true, 0, ()⟩ rfl
  cases behind

end ExprLang
