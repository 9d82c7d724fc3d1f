import ExprLang.Proofs.Comparison.Outcome
import ExprLang.Proofs.Equality.Covering
import ExprLang.Proofs.Number.Decimal

/-!
# Structural equality is an equivalence

Sets and maps are compared by their sizes and by looking up the parts of one side in the other, which
gives an equivalence only where nothing is held twice. Which objects are the same is up to the
application, and may be no equivalence at all. **Key theorem**: `Discerning.equivalenceOn`, on values with
a property that rules this out, by induction on a bound of their sizes; values that are `Proper` are so
by holding no objects.
-/

namespace ExprLang.Value

variable {m : ObjectModel}

/-- Structural equality as a relation. -/
abbrev Same (m : ObjectModel) (v w : Value) : Prop :=
  same m v w = true

/-- Entries with the same keys and values. -/
abbrev SameEntries (m : ObjectModel) (e f : Value × Value) : Prop :=
  Same m e.1 f.1 ∧ Same m e.2 f.2

/-- Neither a collection nor an object. -/
def isPlain : Value → Bool
  | list _ | set _ | map _ | array _ | object _ => false
  | _ => true

/-- Without objects, and no set holds an element twice and no map a key, at any depth. -/
inductive Proper (m : ObjectModel) : Value → Prop where
  | plain {v : Value} : v.isPlain = true → Proper m v
  | list {xs : List Value} : (∀ x ∈ xs, Proper m x) → Proper m (list xs)
  | array {xs : List Value} : (∀ x ∈ xs, Proper m x) → Proper m (array xs)
  | set {xs : List Value} : (∀ x ∈ xs, Proper m x) → (xs.Pairwise fun x y => ¬Same m x y) →
      Proper m (set xs)
  | map {es : List (Value × Value)} : (∀ e ∈ es, Proper m e.1) → (∀ e ∈ es, Proper m e.2) →
      (es.Pairwise fun e f => ¬Same m e.1 f.1) → Proper m (map es)

/-! ### Values that are no collections -/

/-- Whether the value is a collection. -/
def isCollection : Value → Bool
  | list _ | set _ | map _ | array _ => true
  | _ => false

/-- Which objects of the application are the same is an equivalence. -/
def LawfulObjects (m : ObjectModel) : Prop :=
  Equivalence fun o p => Same m (object o) (object p)

theorem isCollection_of_isPlain {v : Value} (plain : v.isPlain = true) :
    v.isCollection = false := by
  cases v <;> first | rfl | cases plain

theorem same_leaf {v : Value} (leaf : v.isCollection = false) (w : Value) :
    same m v w = sameLeaf m v w := by
  unfold same
  split <;> first | rfl | cases leaf

theorem sameLeaf_refl {v : Value} (leaf : v.isCollection = false) : sameLeaf m v v = true := by
  cases v <;> simp_all [sameLeaf, isCollection, Number.Decimal.sameValue_eq]

theorem same_leaf_self {v : Value} (leaf : v.isCollection = false) : same m v v = true :=
  (same_leaf leaf v).trans (sameLeaf_refl leaf)

/-- Objects without an equality of their own are the same if they are one object. -/
theorem lawfulObjects_plain : LawfulObjects .plain := by
  have one (o p : HostObject) : Same .plain (object o) (object p) ↔ o.id = p.id := by
    rw [Same, same_leaf rfl]
    simp [sameLeaf, ObjectModel.plain]
  refine ⟨fun o => ?_, fun alike => ?_, fun first second => ?_⟩
  · rw [one]
  · rw [one] at *
    exact alike.symm
  · rw [one] at *
    exact first.trans second

/-- Leaves that are the same compare in the same way with every value. -/
theorem sameLeaf_congr {u v : Value} (objects : ∀ o, u = object o → LawfulObjects m)
    (alike : sameLeaf m u v = true) (w : Value) :
    sameLeaf m u w = sameLeaf m v w ∧ sameLeaf m w u = sameLeaf m w v := by
  revert alike
  fun_cases sameLeaf m u v <;> intro alike
  case case1 => exact ⟨rfl, rfl⟩
  -- the kinds that are not compared by all they hold
  case case11 a b =>
    have value : a.value = b.value := by simpa [Number.Decimal.sameValue_eq] using alike
    cases w <;> simp [sameLeaf, Number.Decimal.sameValue_eq, value]
  case case16 a b =>
    have moment : a.instant = b.instant := eq_of_beq alike
    cases w <;> simp [sameLeaf, moment]
  case case17 a b =>
    have id : a.id = b.id := eq_of_beq alike
    cases w <;> simp [sameLeaf, id]
  case case18 a b =>
    have id : a.id = b.id := eq_of_beq alike
    cases w <;> simp [sameLeaf, id]
  case case19 a b =>
    have id : a.id = b.id := eq_of_beq alike
    cases w <;> simp [sameLeaf, id]
  case case20 a b =>
    have lawful := objects a rfl
    have leaf (o p : HostObject) :
        sameLeaf m (object o) (object p) = true ↔ Same m (object o) (object p) := by
      rw [Same, same_leaf rfl]
    have ab := (leaf a b).mp alike
    cases w
    case object c =>
      constructor
      · rw [Bool.eq_iff_iff, leaf, leaf]
        exact ⟨lawful.trans (lawful.symm ab), lawful.trans ab⟩
      · rw [Bool.eq_iff_iff, leaf, leaf]
        exact ⟨fun ca => lawful.trans ca ab, fun cb => lawful.trans cb (lawful.symm ab)⟩
    all_goals exact ⟨rfl, rfl⟩
  case case21 => cases alike
  all_goals
    obtain rfl := eq_of_beq alike
    exact ⟨rfl, rfl⟩

theorem isCollection_of_sameLeaf {u v : Value} (alike : sameLeaf m u v = true) :
    v.isCollection = false := by
  revert alike
  fun_cases sameLeaf m u v <;> intro alike
  case case21 => cases alike
  all_goals rfl

/-! ### Collections -/

theorem sameAll_iff {xs ys : List Value} :
    sameAll m xs ys = true ↔ List.Forall₂ (Same m) xs ys := by
  induction xs generalizing ys with
  | nil => cases ys <;> simp [sameAll]
  | cons x xs ih => cases ys <;> simp [sameAll, ih]

theorem isIn_iff {x : Value} {ys : List Value} : isIn m x ys = true ↔ ∃ y ∈ ys, Same m y x := by
  induction ys with
  | nil => simp [isIn]
  | cons y ys ih => simp [isIn, ih]

theorem allIn_iff {xs ys : List Value} : allIn m xs ys = true ↔ Covers (Same m) xs ys := by
  induction xs with
  | nil => simp [allIn, Covers]
  | cons x xs ih => rw [allIn, Bool.and_eq_true, ih, isIn_iff, Covers.cons_iff]

/-- An entry with the same key and value is the one that is looked up, if no key is held twice. -/
theorem entryIn_iff {S : Value → Prop} (h : EquivalenceOn (Same m) S) {k v : Value}
    {es : List (Value × Value)} (hk : S k) (he : ∀ e ∈ es, S e.1)
    (apart : es.Pairwise fun e f => ¬Same m e.1 f.1) :
    entryIn m k v es = true ↔ ∃ e ∈ es, SameEntries m e (k, v) := by
  induction es with
  | nil => simp [entryIn]
  | cons e es ih =>
    obtain ⟨key, value⟩ := e
    rw [List.pairwise_cons] at apart
    rw [List.forall_mem_cons] at he
    rw [entryIn]
    split
    · rename_i found
      constructor
      · intro like
        exact ⟨(key, value), by simp, found, like⟩
      · rintro ⟨e, mem, likeKey, likeValue⟩
        rcases List.mem_cons.mp mem with rfl | later
        · exact likeValue
        · -- a second entry with the key
          have like : Same m key e.1 :=
            h.trans _ _ _ he.1 hk (he.2 e later) found (h.symm _ _ (he.2 e later) hk likeKey)
          exact absurd like (apart.1 e later)
    · rename_i notFound
      rw [ih he.2 apart.2]
      constructor
      · rintro ⟨e, mem, like⟩
        exact ⟨e, List.mem_cons_of_mem _ mem, like⟩
      · rintro ⟨e, mem, like⟩
        rcases List.mem_cons.mp mem with rfl | later
        · exact absurd like.1 notFound
        · exact ⟨e, later, like⟩

theorem entriesIn_iff {S : Value → Prop} (h : EquivalenceOn (Same m) S)
    {es fs : List (Value × Value)} (he : ∀ e ∈ es, S e.1) (hf : ∀ f ∈ fs, S f.1)
    (apart : fs.Pairwise fun e f => ¬Same m e.1 f.1) :
    entriesIn m es fs = true ↔ Covers (SameEntries m) es fs := by
  induction es with
  | nil => simp [entriesIn, Covers]
  | cons e es ih =>
    obtain ⟨k, v⟩ := e
    rw [List.forall_mem_cons] at he
    rw [entriesIn, Bool.and_eq_true, ih he.2, entryIn_iff h he.1 hf apart, Covers.cons_iff]

/-! ### All values -/

theorem Same.of_leaf {v w : Value} (leaf : v.isCollection = false) (h : Same m v w) :
    w.isCollection = false ∧ sameLeaf m v w = true := by
  have alike : sameLeaf m v w = true := same_leaf leaf w ▸ h
  exact ⟨isCollection_of_sameLeaf alike, alike⟩

theorem same_list_iff {xs : List Value} {v : Value} :
    Same m (list xs) v ↔ ∃ ys, v = list ys ∧ List.Forall₂ (Same m) xs ys := by
  cases v <;> simp [Same, same, sameLeaf, sameAll_iff]

theorem same_array_iff {xs : List Value} {v : Value} :
    Same m (array xs) v ↔ ∃ ys, v = array ys ∧ List.Forall₂ (Same m) xs ys := by
  cases v <;> simp [Same, same, sameLeaf, sameAll_iff]

theorem same_set_iff {xs : List Value} {v : Value} :
    Same m (set xs) v ↔ ∃ ys, v = set ys ∧ xs.length = ys.length ∧ Covers (Same m) xs ys := by
  cases v <;> simp [Same, same, sameLeaf, allIn_iff]

theorem same_map_iff {es : List (Value × Value)} {v : Value} :
    Same m (map es) v ↔ ∃ fs, v = map fs ∧ es.length = fs.length ∧ entriesIn m es fs = true := by
  cases v <;> simp [Same, same, sameLeaf]

/-! ### Properties that structural equality needs -/

/-- What a property has to say of values for structural equality to be an equivalence on those that have
it: the elements of collections have it too, sets and maps hold nothing twice, and there are objects only
if they are lawful. -/
structure Discerning (m : ObjectModel) (S : Value → Prop) : Prop where
  object : ∀ {o : HostObject}, S (object o) → LawfulObjects m
  list : ∀ {xs : List Value}, S (list xs) → ∀ x ∈ xs, S x
  array : ∀ {xs : List Value}, S (array xs) → ∀ x ∈ xs, S x
  set : ∀ {xs : List Value}, S (set xs) →
    (∀ x ∈ xs, S x) ∧ xs.Pairwise fun x y => ¬Same m x y
  map : ∀ {es : List (Value × Value)}, S (map es) →
    (∀ e ∈ es, S e.1) ∧ (∀ e ∈ es, S e.2) ∧ es.Pairwise fun e f => ¬Same m e.1 f.1

/-- Values with the property below a bound of their sizes. -/
def Below (S : Value → Prop) (bound : Nat) (v : Value) : Prop :=
  S v ∧ sizeOf v < bound

namespace Discerning

variable {S : Value → Prop} {bound : Nat} (h : Discerning m S)

theorem below_of_mem {xs : List Value} (all : ∀ x ∈ xs, S x) (size : sizeOf xs < bound) :
    ∀ x ∈ xs, Below S bound x :=
  fun x mem => ⟨all x mem, lt_trans (List.sizeOf_lt_of_mem mem) size⟩

include h

theorem below_list {xs : List Value} (hv : Below S (bound + 1) (.list xs)) :
    ∀ x ∈ xs, Below S bound x := by
  have size := hv.2
  simp only [Value.list.sizeOf_spec] at size
  exact below_of_mem (h.list hv.1) (by omega)

theorem below_array {xs : List Value} (hv : Below S (bound + 1) (.array xs)) :
    ∀ x ∈ xs, Below S bound x := by
  have size := hv.2
  simp only [Value.array.sizeOf_spec] at size
  exact below_of_mem (h.array hv.1) (by omega)

theorem below_set {xs : List Value} (hv : Below S (bound + 1) (.set xs)) :
    ∀ x ∈ xs, Below S bound x := by
  have size := hv.2
  simp only [Value.set.sizeOf_spec] at size
  exact below_of_mem (h.set hv.1).1 (by omega)

theorem below_map {es : List (Value × Value)} (hv : Below S (bound + 1) (.map es)) :
    ∀ e ∈ es, Below S bound e.1 ∧ Below S bound e.2 := by
  obtain ⟨keys, values, -⟩ := h.map hv.1
  intro e mem
  have inside : sizeOf e < sizeOf es := List.sizeOf_lt_of_mem mem
  have parts : sizeOf e = 1 + sizeOf e.1 + sizeOf e.2 := by cases e; simp
  have size := hv.2
  simp only [Value.map.sizeOf_spec] at size
  exact ⟨⟨keys e mem, by omega⟩, ⟨values e mem, by omega⟩⟩

/-- Objects with the property are lawful. -/
theorem objects {v : Value} (hv : S v) : ∀ o, v = .object o → LawfulObjects m := by
  rintro o rfl
  exact h.object hv

/-! ### Equality one level up -/

section Step

variable (below : EquivalenceOn (Same m) (Below S bound))
include below

/-- Maps that agree entry by entry. -/
theorem same_map_iff_covers {es fs : List (Value × Value)}
    (he : Below S (bound + 1) (.map es)) (hf : Below S (bound + 1) (.map fs)) :
    Same m (.map es) (.map fs) ↔ es.length = fs.length ∧ Covers (SameEntries m) es fs := by
  obtain ⟨-, -, apart⟩ := h.map hf.1
  have entries := entriesIn_iff below (fun e mem => (h.below_map he e mem).1)
    (fun f mem => (h.below_map hf f mem).1) apart
  simp [same_map_iff, entries]

theorem same_refl {v : Value} (hv : Below S (bound + 1) v) : Same m v v := by
  cases v with
  | list _ => exact same_list_iff.mpr ⟨_, rfl, below.forall₂_refl (h.below_list hv)⟩
  | array _ => exact same_array_iff.mpr ⟨_, rfl, below.forall₂_refl (h.below_array hv)⟩
  | set _ => exact same_set_iff.mpr ⟨_, rfl, rfl, .refl below (h.below_set hv)⟩
  | map _ =>
    exact (h.same_map_iff_covers below hv hv).mpr ⟨rfl, .refl below.pairs (h.below_map hv)⟩
  | _ => exact same_leaf_self rfl

theorem same_symm {v w : Value} (hv : Below S (bound + 1) v) (hw : Below S (bound + 1) w)
    (alike : Same m v w) : Same m w v := by
  cases v with
  | list _ =>
    obtain ⟨ys, rfl, each⟩ := same_list_iff.mp alike
    exact same_list_iff.mpr
      ⟨_, rfl, below.forall₂_symm (h.below_list hv) (h.below_list hw) each⟩
  | array _ =>
    obtain ⟨ys, rfl, each⟩ := same_array_iff.mp alike
    exact same_array_iff.mpr
      ⟨_, rfl, below.forall₂_symm (h.below_array hv) (h.below_array hw) each⟩
  | set _ =>
    obtain ⟨ys, rfl, length, covers⟩ := same_set_iff.mp alike
    obtain ⟨-, apart⟩ := h.set hv.1
    exact same_set_iff.mpr
      ⟨_, rfl, length.symm, covers.symm below (h.below_set hv) (h.below_set hw) length apart⟩
  | map _ =>
    obtain ⟨fs, rfl, -⟩ := same_map_iff.mp alike
    obtain ⟨length, covers⟩ := (h.same_map_iff_covers below hv hw).mp alike
    obtain ⟨-, -, apart⟩ := h.map hv.1
    -- entries with different keys are different
    have apart' := apart.imp fun {e f} differ (both : SameEntries m e f) => differ both.1
    exact (h.same_map_iff_covers below hw hv).mpr ⟨length.symm,
      covers.symm below.pairs (h.below_map hv) (h.below_map hw) length apart'⟩
  | _ =>
    obtain ⟨leaf, same⟩ := alike.of_leaf rfl
    rw [Same, same_leaf leaf, ← (sameLeaf_congr (h.objects hv.1) same _).1, sameLeaf_refl rfl]

theorem same_trans {u v w : Value} (hu : Below S (bound + 1) u) (hv : Below S (bound + 1) v)
    (hw : Below S (bound + 1) w) (first : Same m u v) (second : Same m v w) : Same m u w := by
  cases u with
  | list _ =>
    obtain ⟨ys, rfl, each⟩ := same_list_iff.mp first
    obtain ⟨zs, rfl, each'⟩ := same_list_iff.mp second
    exact same_list_iff.mpr ⟨_, rfl, below.forall₂_trans (h.below_list hu) (h.below_list hv)
      (h.below_list hw) each each'⟩
  | array _ =>
    obtain ⟨ys, rfl, each⟩ := same_array_iff.mp first
    obtain ⟨zs, rfl, each'⟩ := same_array_iff.mp second
    exact same_array_iff.mpr ⟨_, rfl, below.forall₂_trans (h.below_array hu) (h.below_array hv)
      (h.below_array hw) each each'⟩
  | set _ =>
    obtain ⟨ys, rfl, length, covers⟩ := same_set_iff.mp first
    obtain ⟨zs, rfl, length', covers'⟩ := same_set_iff.mp second
    exact same_set_iff.mpr ⟨_, rfl, length.trans length', .trans below (h.below_set hu)
      (h.below_set hv) (h.below_set hw) covers covers'⟩
  | map _ =>
    obtain ⟨fs, rfl, -⟩ := same_map_iff.mp first
    obtain ⟨gs, rfl, -⟩ := same_map_iff.mp second
    obtain ⟨length, covers⟩ := (h.same_map_iff_covers below hu hv).mp first
    obtain ⟨length', covers'⟩ := (h.same_map_iff_covers below hv hw).mp second
    exact (h.same_map_iff_covers below hu hw).mpr ⟨length.trans length', .trans below.pairs
      (h.below_map hu) (h.below_map hv) (h.below_map hw) covers covers'⟩
  | _ =>
    obtain ⟨leaf, same⟩ := first.of_leaf rfl
    obtain ⟨-, same'⟩ := second.of_leaf leaf
    rw [Same, same_leaf rfl, (sameLeaf_congr (h.objects hu.1) same w).1, same']

end Step

theorem equivalenceOn_below (bound : Nat) : EquivalenceOn (Same m) (Below S bound) := by
  induction bound with
  | zero =>
    have none (v : Value) : ¬Below S 0 v := fun hv => absurd hv.2 (Nat.not_lt_zero _)
    exact ⟨fun v hv => absurd hv (none v), fun v _ hv => absurd hv (none v),
      fun v _ _ hv => absurd hv (none v)⟩
  | succ bound below =>
    exact ⟨fun _ hv => h.same_refl below hv, fun _ _ hv hw => h.same_symm below hv hw,
      fun _ _ _ hu hv hw => h.same_trans below hu hv hw⟩

/-- Structural equality is an equivalence on the values with the property. -/
theorem equivalenceOn : EquivalenceOn (Same m) S := by
  refine ⟨fun v hv => ?_, fun v w hv hw => ?_, fun u v w hu hv hw => ?_⟩
  · exact (h.equivalenceOn_below (sizeOf v + 1)).refl v ⟨hv, by omega⟩
  · exact (h.equivalenceOn_below (sizeOf v + sizeOf w + 1)).symm v w
      ⟨hv, by omega⟩ ⟨hw, by omega⟩
  · exact (h.equivalenceOn_below (sizeOf u + sizeOf v + sizeOf w + 1)).trans u v w
      ⟨hu, by omega⟩ ⟨hv, by omega⟩ ⟨hw, by omega⟩

end Discerning

/-! ### Proper values -/

theorem proper_list_iff {xs : List Value} : Proper m (list xs) ↔ ∀ x ∈ xs, Proper m x := by
  refine ⟨fun h => ?_, .list⟩
  cases h with
  | plain plain => cases plain
  | list all => exact all

theorem proper_array_iff {xs : List Value} : Proper m (array xs) ↔ ∀ x ∈ xs, Proper m x := by
  refine ⟨fun h => ?_, .array⟩
  cases h with
  | plain plain => cases plain
  | array all => exact all

theorem proper_set_iff {xs : List Value} : Proper m (set xs) ↔
    (∀ x ∈ xs, Proper m x) ∧ xs.Pairwise fun x y => ¬Same m x y := by
  refine ⟨fun h => ?_, fun h => .set h.1 h.2⟩
  cases h with
  | plain plain => cases plain
  | set all apart => exact ⟨all, apart⟩

theorem proper_map_iff {es : List (Value × Value)} : Proper m (map es) ↔
    (∀ e ∈ es, Proper m e.1) ∧ (∀ e ∈ es, Proper m e.2) ∧
      es.Pairwise fun e f => ¬Same m e.1 f.1 := by
  refine ⟨fun h => ?_, fun h => .map h.1 h.2.1 h.2.2⟩
  cases h with
  | plain plain => cases plain
  | map keys values apart => exact ⟨keys, values, apart⟩

theorem discerning_proper (m : ObjectModel) : Discerning m (Proper m) where
  object h := by
    cases h with
    | plain plain => cases plain
  list := proper_list_iff.mp
  array := proper_array_iff.mp
  set := proper_set_iff.mp
  map := proper_map_iff.mp

/-- Structural equality is an equivalence on proper values. -/
theorem equivalenceOn_proper (m : ObjectModel) : EquivalenceOn (Same m) (Proper m) :=
  (discerning_proper m).equivalenceOn

/-! ### The laws -/

variable {σ : Type}

/-- Structural equality of proper values is reflexive, symmetric and transitive, so that a proper
value equals itself and is in order with itself, whatever the resolver. -/
theorem structural_equality_laws (host : Host σ) (ctx : Context) (s : Ambient σ) :
    (∀ a, Proper host.objects a → same host.objects a a = true) ∧
    (∀ a b, Proper host.objects a → Proper host.objects b → same host.objects a b = true →
      same host.objects b a = true) ∧
    (∀ a b c, Proper host.objects a → Proper host.objects b → Proper host.objects c →
      same host.objects a b = true → same host.objects b c = true → same host.objects a c = true) ∧
    ∀ a, Proper host.objects a → Comparison.equals host ctx a a s = (true, s) ∧
      Comparison.compareValues host ctx a a s = (.ok .eq, s) := by
  have laws := equivalenceOn_proper host.objects
  refine ⟨laws.refl, laws.symm, laws.trans, fun a ha => ?_⟩
  have equal : Comparison.equals host ctx a a s = (true, s) :=
    Comparison.equals_of_same (laws.refl a ha)
  exact ⟨equal, by rw [Comparison.compareValues_apply, equal]⟩

/-- A set written in two orders, with one decimal at two scales. -/
theorem structural_equality_laws_reordered :
    let a := set [bigDecimal ⟨10, 1⟩, list [map [(string "k", null)]], null]
    let b := set [null, list [map [(string "k", null)]], bigDecimal ⟨100, 2⟩]
    let host := Host.plain false
    let ctx := Context.ofEnvironment .empty
    Proper host.objects a ∧ Proper host.objects b ∧ same host.objects a b = true ∧
      same host.objects b a = true ∧
      Comparison.compareValues host ctx a a ⟨true, 0, ()⟩ = (.ok .eq, ⟨true, 0, ()⟩) := by
  intro a b host ctx
  have value : (⟨100, 2⟩ : Number.Decimal).sameValue ⟨10, 1⟩ = true := by decide
  have key : Proper host.objects (string "k") := .plain rfl
  have empty : Proper host.objects null := .plain rfl
  have decimal (d : Number.Decimal) : Proper host.objects (bigDecimal d) := .plain rfl
  have nested : Proper host.objects (list [map [(string "k", null)]]) := by
    simp [proper_list_iff, proper_map_iff, key, empty]
  have properA : Proper host.objects a := by
    simp [a, proper_set_iff, nested, empty, decimal, same, sameLeaf]
  have properB : Proper host.objects b := by
    simp [b, proper_set_iff, nested, empty, decimal, same, sameLeaf]
  have alike : same host.objects a b = true := by
    simp [a, b, same, allIn, isIn, sameLeaf, sameAll, entriesIn, entryIn, value]
  obtain ⟨-, symm, -, itself⟩ := structural_equality_laws host ctx ⟨true, 0, ()⟩
  exact ⟨properA, properB, alike, symm a b properA properB alike, (itself a properA).2⟩

end ExprLang.Value
