import ExprLang.Proofs.Equality.Structural
import ExprLang.Proofs.Evaluation.Parts

/-!
# Sets and maps that hold nothing twice

Sets are made by adding items that are not in them yet, and maps by binding keys one by one, so that no
item of a set is like an earlier one and no key of a map. That is as much as can be said of any objects
of the application, since one may be like a second one that is not like the first. Where objects are
lawful the order does not matter: **key theorem** `DuplicateFree.either_way`.
-/

namespace ExprLang.Value

variable {m : ObjectModel} {D : Value → Value → Prop}

/-- The first value is not like the second. -/
def Differ (m : ObjectModel) (v w : Value) : Prop :=
  ¬Same m v w

/-- Neither value is like the other. -/
def DifferEitherWay (m : ObjectModel) (v w : Value) : Prop :=
  Differ m v w ∧ Differ m w v

/-- If the value is a set its elements are apart from each other, and if it is a map its keys are: each
one is in the relation to all that come after it. -/
def HoldsApart (D : Value → Value → Prop) : Value → Prop
  | set items => items.Pairwise D
  | map entries => (entries.map Prod.fst).Pairwise D
  | _ => True

/-- The elements of each set within the value and the keys of each map within it are apart from each other,
and so are its own if it is one. -/
def DuplicateFree (D : Value → Value → Prop) (v : Value) : Prop :=
  ∀ w, v.Reaches w → w.HoldsApart D

/-! ### Adding items -/

/-- The items with another one, unless it is among them. -/
def adjoin (m : ObjectModel) (items : List Value) (v : Value) : List Value :=
  if memberOf m v items then items else items ++ [v]

theorem pairwise_adjoin {items : List Value} (apart : items.Pairwise (Differ m)) (v : Value) :
    (adjoin m items v).Pairwise (Differ m) := by
  unfold adjoin
  split
  · exact apart
  · rename_i absent
    refine List.pairwise_append.mpr ⟨apart, List.pairwise_singleton _ _, fun w mem v' last => ?_⟩
    rw [List.mem_singleton.mp last]
    exact fun alike => absent (List.any_eq_true.mpr ⟨w, mem, alike⟩)

/-- A set is made of items that are not like earlier ones. -/
theorem pairwise_distinct (m : ObjectModel) (items : List Value) :
    (distinct m items).Pairwise (Differ m) :=
  List.foldlRecOn items (adjoin m) .nil fun _ apart v _ => pairwise_adjoin apart v

theorem adjoin_cons (w : Value) (items : List Value) (v : Value) :
    adjoin m (w :: items) v = if same m w v then w :: items else w :: adjoin m items v := by
  cases found : same m w v with
  | true => simp [adjoin, memberOf, found]
  | false =>
    simp only [adjoin, memberOf, List.any_cons, found, Bool.false_or, Bool.false_eq_true, if_false]
    exact (apply_ite (List.cons w) _ _ _).symm

/-- The keys of a map with a key bound to a value. -/
theorem keys_mapInsert (m : ObjectModel) (entries : List (Value × Value)) (key v : Value) :
    (mapInsert m entries key v).map Prod.fst = adjoin m (entries.map Prod.fst) key := by
  induction entries with
  | nil => rfl
  | cons e rest ih =>
    rw [mapInsert, List.map_cons, adjoin_cons, ← ih]
    split <;> rfl

/-! ### Duplicates in either order -/

theorem DuplicateFree.part {v w : Value} (h : v.DuplicateFree D) (mem : w ∈ v.parts) :
    w.DuplicateFree D :=
  Throughout.part h mem

/-- Equality tells values without duplicates apart. -/
theorem discerning_duplicateFree (lawful : LawfulObjects m) :
    Discerning m (DuplicateFree (Differ m)) where
  object _ := lawful
  list h _ mem := h.part mem
  array h _ mem := h.part mem
  set h := ⟨fun _ mem => h.part mem, h _ .refl⟩
  map h := by
    refine ⟨fun e mem => h.part ?_, fun e mem => h.part ?_, List.pairwise_map.mp (h _ .refl)⟩
    · exact List.mem_append_left _ (List.mem_map_of_mem mem)
    · exact List.mem_append_right _ (List.mem_map_of_mem mem)

/-- If objects are lawful, items of a set and keys of a map that differ from all later ones differ from
all earlier ones too. -/
theorem DuplicateFree.either_way (lawful : LawfulObjects m) {v : Value}
    (h : v.DuplicateFree (Differ m)) : v.DuplicateFree (DifferEitherWay m) := by
  have equivalence := (discerning_duplicateFree lawful).equivalenceOn
  intro w reach
  have inside : w.DuplicateFree (Differ m) := fun u later => h u (reach.trans later)
  have turned {items : List Value} (all : ∀ x ∈ items, x.DuplicateFree (Differ m))
      (apart : items.Pairwise (Differ m)) : items.Pairwise (DifferEitherWay m) :=
    apart.imp_of_mem fun memX memY differ =>
      ⟨differ, fun alike => differ (equivalence.symm _ _ (all _ memY) (all _ memX) alike)⟩
  cases w with
  | set items => exact turned (fun x mem => inside.part mem) (inside _ .refl)
  | map entries =>
    exact turned (fun k mem => inside.part (List.mem_append_left _ mem)) (inside _ .refl)
  | _ => trivial

end ExprLang.Value
