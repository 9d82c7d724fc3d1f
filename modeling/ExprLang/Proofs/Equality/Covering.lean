import Mathlib.Data.Fintype.Fin
import Mathlib.Data.List.Forall2

/-!
# Equivalences on parts of a type, and lists that cover each other

A relation that is an equivalence on some of the elements of a type only (`EquivalenceOn`), and what
becomes of it on lists: lists related element by element, and lists of which the second has a
counterpart for each element of the first (`Covers`). Covering needs counting to be symmetric
(`Covers.symm`): the lists are of one length and no element of the first has its like in it.
-/

namespace ExprLang

/-- The relation is an equivalence on the elements with the property. -/
structure EquivalenceOn {α : Type} (R : α → α → Prop) (S : α → Prop) : Prop where
  refl : ∀ a, S a → R a a
  symm : ∀ a b, S a → S b → R a b → R b a
  trans : ∀ a b c, S a → S b → S c → R a b → R b c → R a c

/-- Each element of the first list has its like in the second. -/
def Covers {α : Type} (R : α → α → Prop) (as bs : List α) : Prop :=
  ∀ a ∈ as, ∃ b ∈ bs, R b a

variable {α : Type} {R : α → α → Prop} {S : α → Prop} {as bs cs : List α}

namespace EquivalenceOn

/-- Pairs that agree in both parts. -/
theorem pairs (h : EquivalenceOn R S) :
    EquivalenceOn (fun p q : α × α => R p.1 q.1 ∧ R p.2 q.2) fun p => S p.1 ∧ S p.2 where
  refl _ hp := ⟨h.refl _ hp.1, h.refl _ hp.2⟩
  symm _ _ hp hq same := ⟨h.symm _ _ hp.1 hq.1 same.1, h.symm _ _ hp.2 hq.2 same.2⟩
  trans _ _ _ hp hq hr first second :=
    ⟨h.trans _ _ _ hp.1 hq.1 hr.1 first.1 second.1, h.trans _ _ _ hp.2 hq.2 hr.2 first.2 second.2⟩

/-! ### Element by element -/

theorem forall₂_refl (h : EquivalenceOn R S) (ha : ∀ a ∈ as, S a) : List.Forall₂ R as as :=
  List.forall₂_same.mpr fun a mem => h.refl a (ha a mem)

theorem forall₂_symm (h : EquivalenceOn R S) (ha : ∀ a ∈ as, S a) (hb : ∀ b ∈ bs, S b)
    (same : List.Forall₂ R as bs) : List.Forall₂ R bs as := by
  induction same with
  | nil => exact .nil
  | @cons a b as bs first _ ih =>
    rw [List.forall_mem_cons] at ha hb
    exact .cons (h.symm a b ha.1 hb.1 first) (ih ha.2 hb.2)

theorem forall₂_trans (h : EquivalenceOn R S) (ha : ∀ a ∈ as, S a) (hb : ∀ b ∈ bs, S b)
    (hc : ∀ c ∈ cs, S c) (ab : List.Forall₂ R as bs) (bc : List.Forall₂ R bs cs) :
    List.Forall₂ R as cs := by
  induction ab generalizing cs with
  | nil => exact bc
  | @cons a b as bs first _ ih =>
    cases bc with
    | @cons _ c _ cs second rest =>
      rw [List.forall_mem_cons] at ha hb hc
      exact .cons (h.trans a b c ha.1 hb.1 hc.1 first second) (ih ha.2 hb.2 hc.2 rest)

end EquivalenceOn

/-! ### Covering -/

namespace Covers

theorem cons_iff {a : α} :
    Covers R (a :: as) bs ↔ (∃ b ∈ bs, R b a) ∧ Covers R as bs :=
  List.forall_mem_cons

theorem refl (h : EquivalenceOn R S) (ha : ∀ a ∈ as, S a) : Covers R as as :=
  fun a mem => ⟨a, mem, h.refl a (ha a mem)⟩

theorem trans (h : EquivalenceOn R S) (ha : ∀ a ∈ as, S a) (hb : ∀ b ∈ bs, S b)
    (hc : ∀ c ∈ cs, S c) (ab : Covers R as bs) (bc : Covers R bs cs) : Covers R as cs := by
  intro a memA
  obtain ⟨b, memB, same⟩ := ab a memA
  obtain ⟨c, memC, same'⟩ := bc b memB
  exact ⟨c, memC, h.trans c b a (hc c memC) (hb b memB) (ha a memA) same' same⟩

/-- The places of the likes, as a function on the places of a list. -/
theorem places (covers : Covers R as bs) :
    ∃ place : Fin as.length → Fin bs.length, ∀ i, R (bs.get (place i)) (as.get i) := by
  have each (i : Fin as.length) : ∃ j, R (bs.get j) (as.get i) := by
    obtain ⟨b, mem, same⟩ := covers (as.get i) (as.get_mem i)
    obtain ⟨j, rfl⟩ := List.mem_iff_get.mp mem
    exact ⟨j, same⟩
  exact ⟨fun i => (each i).choose, fun i => (each i).choose_spec⟩

/-- A list without likes is covered by whatever list of its length it covers: two of its elements
never share a like, so that none of the other list is left over. -/
theorem symm (h : EquivalenceOn R S) (ha : ∀ a ∈ as, S a) (hb : ∀ b ∈ bs, S b)
    (length : as.length = bs.length) (apart : as.Pairwise fun a a' => ¬R a a')
    (covers : Covers R as bs) : Covers R bs as := by
  obtain ⟨place, same⟩ := covers.places
  have inA (i : Fin as.length) : S (as.get i) := ha _ (as.get_mem i)
  have inB (j : Fin bs.length) : S (bs.get j) := hb _ (bs.get_mem j)
  have back (i : Fin as.length) : R (as.get i) (bs.get (place i)) :=
    h.symm _ _ (inB _) (inA i) (same i)
  have shared (i j : Fin as.length) (one : place i = place j) : ¬i < j := by
    intro less
    have there : R (bs.get (place i)) (as.get j) := one ▸ same j
    exact List.pairwise_iff_get.mp apart i j less
      (h.trans _ _ _ (inA i) (inB _) (inA j) (back i) there)
  have injective : Function.Injective place := by
    intro i j one
    exact le_antisymm (not_lt.mp (shared j i one.symm)) (not_lt.mp (shared i j one))
  have surjective : Function.Surjective place :=
    (Finite.injective_iff_surjective_of_equiv (finCongr length)).mp injective
  intro b mem
  obtain ⟨j, rfl⟩ := List.mem_iff_get.mp mem
  obtain ⟨i, rfl⟩ := surjective j
  exact ⟨as.get i, as.get_mem i, back i⟩

end Covers

end ExprLang
