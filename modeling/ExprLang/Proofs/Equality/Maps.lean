import ExprLang.Proofs.Effects
import ExprLang.Proofs.Equality.Distinct
import ExprLang.Proofs.Evaluation.Invariant

/-!
# Maps are finite maps

A map is a list of entries that is looked up, and changed, at the first key that is like the one
asked for. On keys for which structural equality is an equivalence that makes it a finite map: a key
that is bound reads as its value, and all other keys read as before (`mapGet?_mapInsert`). Binding a
key changes one entry in its place or adds one at the end, so that the keys of a map literal stand in
the order in which they first occur (`keys_mapOf`) and have the values they were given last
(`mapGet?_mapOf`). **Key theorem**: `maps_obey_finite_map_laws`.
-/

namespace ExprLang

namespace Value

variable {m : ObjectModel} {S : Value → Prop}

/-! ### Looking up a key -/

theorem mapGet?_cons (e : Value × Value) (rest : List (Value × Value)) (key : Value) :
    mapGet? m (e :: rest) key = if same m e.1 key then some e.2 else mapGet? m rest key := by
  unfold mapGet?
  cases found : same m e.1 key <;> simp [found]

/-- Values that are the same compare in the same way with a third one. -/
theorem same_congr (h : EquivalenceOn (Same m) S) {a b c : Value} (ha : S a) (hb : S b) (hc : S c)
    (alike : Same m a b) : same m a c = same m b c := by
  rw [Bool.eq_iff_iff]
  constructor
  · intro ac
    exact h.trans b a c hb ha hc (h.symm a b ha hb alike) ac
  · intro bc
    exact h.trans a b c ha hb hc alike bc

/-- A key that is bound reads as its value, and every other key reads as before. -/
theorem mapGet?_mapInsert (h : EquivalenceOn (Same m) S) {es : List (Value × Value)}
    {key key' : Value} (keys : ∀ e ∈ es, S e.1) (hkey : S key) (hkey' : S key') (v : Value) :
    mapGet? m (mapInsert m es key v) key' =
      if same m key key' then some v else mapGet? m es key' := by
  induction es with
  | nil => rw [mapInsert, mapGet?_cons]
  | cons e rest ih =>
    rw [List.forall_mem_cons] at keys
    rw [mapInsert]
    by_cases found : same m e.1 key = true
    · have like : same m e.1 key' = same m key key' := same_congr h keys.1 hkey hkey' found
      simp only [found, if_true, mapGet?_cons, like]
      by_cases asked : same m key key' = true <;> simp [asked]
    · simp only [found, mapGet?_cons, ih keys.2, Bool.false_eq_true, if_false]
      by_cases asked : same m key key' = true
      · -- the first entry is not the one asked for, or it would be the one that is bound
        have other : same m e.1 key' ≠ true := by
          intro first
          have back : Same m key' key := h.symm key key' hkey hkey' asked
          exact found (h.trans e.1 key' key keys.1 hkey' hkey first back)
        simp [asked, other]
      · simp [asked]

/-! ### The entries of a map with a key bound -/

/-- A key without an entry gets one behind all others. -/
theorem mapInsert_of_absent {es : List (Value × Value)} {key : Value}
    (absent : mapGet? m es key = none) (v : Value) : mapInsert m es key v = es ++ [(key, v)] := by
  induction es with
  | nil => rfl
  | cons e rest ih =>
    rw [mapGet?_cons] at absent
    by_cases found : same m e.1 key = true
    · simp [found] at absent
    · simp only [found, Bool.false_eq_true, if_false] at absent
      simp [mapInsert, found, ih absent]

/-- An entry is added exactly if the key has none. -/
theorem length_mapInsert (es : List (Value × Value)) (key v : Value) :
    (mapInsert m es key v).length =
      es.length + if (mapGet? m es key).isSome then 0 else 1 := by
  induction es with
  | nil => rfl
  | cons e rest ih =>
    rw [mapInsert, mapGet?_cons]
    by_cases found : same m e.1 key = true
    · simp [found]
    · simp only [found, Bool.false_eq_true, if_false, List.length_cons, ih]
      omega

/-- Entries stay in their places: the one of the key has the new value, and the others are as they
were. -/
theorem getElem?_mapInsert (h : EquivalenceOn (Same m) S) {es : List (Value × Value)} {key : Value}
    (keys : ∀ e ∈ es, S e.1) (hkey : S key) (apart : es.Pairwise fun e f => ¬Same m e.1 f.1)
    (v : Value) {i : Nat} {e : Value × Value} (there : es[i]? = some e) :
    (mapInsert m es key v)[i]? = some (if same m e.1 key then (e.1, v) else e) := by
  induction es generalizing i with
  | nil => simp at there
  | cons first rest ih =>
    rw [List.forall_mem_cons] at keys
    rw [List.pairwise_cons] at apart
    rw [mapInsert]
    cases i with
    | zero =>
      obtain rfl : first = e := by simpa using there
      by_cases found : same m first.1 key = true <;> simp [found]
    | succ i =>
      rw [List.getElem?_cons_succ] at there
      by_cases found : same m first.1 key = true
      · -- no later entry has the key as well
        have mem : e ∈ rest := List.mem_of_getElem? there
        have other : same m e.1 key ≠ true := by
          intro again
          have he : S e.1 := keys.2 e mem
          have back : Same m key e.1 := h.symm e.1 key he hkey again
          exact apart.1 e mem (h.trans first.1 key e.1 keys.1 hkey he found back)
        simp [found, other, there]
      · simp only [found, Bool.false_eq_true, if_false, List.getElem?_cons_succ]
        exact ih keys.2 apart.2 there

theorem apart_mapInsert {es : List (Value × Value)}
    (apart : es.Pairwise fun e f => ¬Same m e.1 f.1) (key v : Value) :
    (mapInsert m es key v).Pairwise fun e f => ¬Same m e.1 f.1 := by
  have keys : (es.map Prod.fst).Pairwise (Differ m) := List.pairwise_map.mpr apart
  have keys' : ((mapInsert m es key v).map Prod.fst).Pairwise (Differ m) := by
    rw [keys_mapInsert]
    exact pairwise_adjoin keys key
  exact List.pairwise_map.mp keys'

/-! ### Maps made of pairs -/

/-- The entries of the map with some keys bound to values, one after the other. -/
def mapOf (m : ObjectModel) (pairs : List (Value × Value)) : List (Value × Value) :=
  pairs.foldl (fun es e => mapInsert m es e.1 e.2) []

theorem mapOf_append_pair (pairs : List (Value × Value)) (e : Value × Value) :
    mapOf m (pairs ++ [e]) = mapInsert m (mapOf m pairs) e.1 e.2 := by
  simp [mapOf]

theorem distinct_append_item (items : List Value) (v : Value) :
    distinct m (items ++ [v]) = adjoin m (distinct m items) v := by
  unfold distinct
  rw [List.foldl_append]
  rfl

/-- The keys are those of the pairs, each in the place where it first occurs. -/
theorem keys_mapOf (m : ObjectModel) (pairs : List (Value × Value)) :
    (mapOf m pairs).map Prod.fst = distinct m (pairs.map Prod.fst) := by
  induction pairs using List.reverseRecOn with
  | nil => rfl
  | append_singleton pairs e ih =>
    rw [mapOf_append_pair, keys_mapInsert, ih, List.map_append, List.map_singleton,
      distinct_append_item]

theorem keys_mapOf_of_keys {pairs : List (Value × Value)} (keys : ∀ e ∈ pairs, S e.1) :
    ∀ e ∈ mapOf m pairs, S e.1 := by
  intro e mem
  have among : e.1 ∈ distinct m (pairs.map Prod.fst) :=
    keys_mapOf m pairs ▸ List.mem_map_of_mem mem
  obtain ⟨e', mem', same⟩ := List.mem_map.mp (mem_of_mem_distinct among)
  exact same ▸ keys e' mem'

/-- A key has the value of the last pair with a like key. -/
theorem mapGet?_mapOf (h : EquivalenceOn (Same m) S) {pairs : List (Value × Value)}
    (keys : ∀ e ∈ pairs, S e.1) {key : Value} (hkey : S key) :
    mapGet? m (mapOf m pairs) key =
      (pairs.reverse.find? fun e => same m e.1 key).map Prod.snd := by
  induction pairs using List.reverseRecOn with
  | nil => rfl
  | append_singleton pairs e ih =>
    have earlier : ∀ e ∈ pairs, S e.1 := fun e mem => keys e (List.mem_append_left _ mem)
    have last : S e.1 := keys e (by simp)
    rw [mapOf_append_pair, mapGet?_mapInsert h (keys_mapOf_of_keys earlier) last hkey, ih earlier,
      List.reverse_append, List.reverse_singleton, List.singleton_append, List.find?_cons]
    cases same m e.1 key <;> rfl

/-! ### The laws -/

/-- What binding a key to a value makes of the entries of a map. -/
structure BindsKey (m : ObjectModel) (es : List (Value × Value)) (key v : Value)
    (es' : List (Value × Value)) : Prop where
  /-- The key reads as the value, and every other key as before. -/
  get : ∀ key', Proper m key' →
    mapGet? m es' key' = if same m key key' then some v else mapGet? m es key'
  /-- No key is held twice. -/
  apart : es'.Pairwise fun e f => ¬Same m e.1 f.1
  /-- The entry of the key keeps its place and its key, and every other entry its value too. -/
  place : ∀ (i : Nat) (e : Value × Value), es[i]? = some e →
    es'[i]? = some (if same m e.1 key then (e.1, v) else e)
  /-- An entry is added exactly if the key had none. -/
  length : es'.length = es.length + if (mapGet? m es key).isSome then 0 else 1
  /-- The entry that is added stands behind all others. -/
  added : mapGet? m es key = none → es' = es ++ [(key, v)]
  /-- Nothing is held twice at any depth. -/
  proper : Proper m (map es) → Proper m v → Proper m (map es')

/-- What a map literal makes of the values of its pairs. -/
structure MakesMap (m : ObjectModel) (pairs es : List (Value × Value)) : Prop where
  /-- A key has the value of the last pair with the key. -/
  get : ∀ key, Proper m key →
    mapGet? m es key = (pairs.reverse.find? fun e => same m e.1 key).map Prod.snd
  /-- The keys stand in the order of their first pairs. -/
  keys : es.map Prod.fst = distinct m (pairs.map Prod.fst)
  /-- No key is held twice. -/
  apart : es.Pairwise fun e f => ¬Same m e.1 f.1

theorem bindsKey_mapInsert {es : List (Value × Value)} {key : Value}
    (keys : ∀ e ∈ es, Proper m e.1) (apart : es.Pairwise fun e f => ¬Same m e.1 f.1)
    (hkey : Proper m key) (v : Value) : BindsKey m es key v (mapInsert m es key v) := by
  have equivalence : EquivalenceOn (Same m) (Proper m) := equivalenceOn_proper m
  refine ⟨fun key' hkey' => mapGet?_mapInsert equivalence keys hkey hkey' v,
    apart_mapInsert apart key v,
    fun i e there => getElem?_mapInsert equivalence keys hkey apart v there,
    length_mapInsert es key v, fun absent => mapInsert_of_absent absent v, ?_⟩
  intro proper hv
  obtain ⟨-, values, -⟩ := proper_map_iff.mp proper
  refine proper_map_iff.mpr ⟨?_, ?_, apart_mapInsert apart key v⟩
  · intro e mem
    rcases mem_mapInsert mem with ⟨same | ⟨e', old, same⟩, -⟩ | old
    · exact same ▸ hkey
    · exact same ▸ keys e' old
    · exact keys e old
  · intro e mem
    rcases mem_mapInsert mem with ⟨-, same⟩ | old
    · exact same ▸ hv
    · exact values e old

theorem makesMap_mapOf {pairs : List (Value × Value)} (keys : ∀ e ∈ pairs, Proper m e.1) :
    MakesMap m pairs (mapOf m pairs) := by
  refine ⟨fun key hkey => mapGet?_mapOf (equivalenceOn_proper m) keys hkey, keys_mapOf m pairs, ?_⟩
  have apart : ((mapOf m pairs).map Prod.fst).Pairwise (Differ m) := by
    rw [keys_mapOf]
    exact pairwise_distinct m _
  exact List.pairwise_map.mp apart

end Value

variable {σ : Type} {host : Host σ}

open Value

/-- A map literal has a value if all its keys and values have, which are found in their order. -/
theorem Eval.map_eq_ok_iff {items : List (Expr × Expr)} {call : Invoker σ} {s after : Session σ}
    {v : Value} : Eval.expr host call (.map items) s = (.ok v, after) ↔
      ∃ pairs, Eval.entries host call items s = (.ok pairs, after) ∧
        v = .map (mapOf host.objects pairs) := by
  rw [Eval.expr, bind_apply]
  rcases Eval.entries host call items s with ⟨e | pairs, between⟩
  · constructor
    · intro same
      cases same
    · intro ⟨pairs, same, value⟩
      cases same
  · constructor
    · intro same
      cases same
      exact ⟨pairs, rfl, rfl⟩
    · intro ⟨pairs', same, value⟩
      cases same
      rw [value]
      rfl

/-- Maps obey the laws of finite maps, on keys without objects that hold nothing twice at any depth:
binding a key to a value changes or adds the entry of the key alone, and a map literal gives each key
the value of its last pair, in the order in which the keys first occur. -/
theorem maps_obey_finite_map_laws (host : Host σ) :
    (∀ (es : List (Value × Value)) (key v : Value), (∀ e ∈ es, Proper host.objects e.1) →
      (es.Pairwise fun e f => ¬Same host.objects e.1 f.1) → Proper host.objects key →
      BindsKey host.objects es key v (mapInsert host.objects es key v)) ∧
    (∀ pairs : List (Value × Value), (∀ e ∈ pairs, Proper host.objects e.1) →
      MakesMap host.objects pairs (mapOf host.objects pairs)) ∧
    ∀ (items : List (Expr × Expr)) (s after : Session σ) (v : Value),
      (Expr.map items).eval host s = (.ok v, after) ↔
        ∃ pairs, Eval.entries host (Eval.invoke host callDepth) items s = (.ok pairs, after) ∧
          v = .map (mapOf host.objects pairs) := by
  refine ⟨fun es key v keys apart hkey => bindsKey_mapInsert keys apart hkey v,
    fun pairs keys => makesMap_mapOf keys, fun items s after v => ?_⟩
  exact Eval.map_eq_ok_iff

/-- A key written in another order than the one that the map has, and a map literal that gives a key
twice. -/
theorem maps_obey_finite_map_laws_reordered :
    let host := Host.plain false
    let es : List (Value × Value) := [(set [long 1, long 2], string "a"), (long 3, null)]
    let key := set [long 2, long 1]
    let es' := mapInsert host.objects es key (string "b")
    let literal : Expr :=
      .map [(.integer 1, .string "a"), (.integer 2, .string "b"), (.integer 1, .string "c")]
    let s : Session Unit := ⟨Context.ofEnvironment .empty, ⟨true, 0, ()⟩⟩
    mapGet? host.objects es' key = some (string "b") ∧
      es'[0]? = some (set [long 1, long 2], string "b") ∧
      mapGet? host.objects es' (long 3) = some null ∧ es'.length = 2 ∧
      literal.eval host s = (.ok (map [(long 1, string "c"), (long 2, string "b")]), s) := by
  intro host es key es' literal s
  have proper (n : Int64) : Proper host.objects (long n) := .plain rfl
  have properPair (i j : Int64) (differ : (i == j) = false) :
      Proper host.objects (set [long i, long j]) := by
    simp [proper_set_iff, proper, same, sameLeaf, differ]
  have keys : ∀ e ∈ es, Proper host.objects e.1 := by
    simp [es, proper, properPair 1 2 rfl]
  have apart : es.Pairwise fun e f => ¬Same host.objects e.1 f.1 := by
    simp [es, same, sameLeaf]
  have found : same host.objects (set [long 1, long 2]) key = true := by
    simp [key, same, allIn, isIn, sameLeaf]
  have other : same host.objects key (long 3) = false := by
    simp [key, same, sameLeaf]
  obtain ⟨binds, -, literals⟩ := maps_obey_finite_map_laws host
  have bound : BindsKey host.objects es key (string "b") es' :=
    binds es key (string "b") keys apart (properPair 2 1 rfl)
  have itself : same host.objects key key = true :=
    (equivalenceOn_proper host.objects).refl key (properPair 2 1 rfl)
  have made : mapOf host.objects
      [(long 1, string "a"), (long 2, string "b"), (long 1, string "c")] =
      [(long 1, string "c"), (long 2, string "b")] := by
    simp [mapOf, mapInsert, same, sameLeaf]
  refine ⟨?_, ?_, ?_, ?_, ?_⟩
  · rw [bound.get key (properPair 2 1 rfl), itself]
    rfl
  · rw [bound.place 0 (set [long 1, long 2], string "a") rfl]
    simp [found]
  · rw [bound.get (long 3) (proper 3), other]
    simp [es, mapGet?_cons, same, sameLeaf]
  · rw [bound.length]
    simp [es, mapGet?_cons, found]
  · exact (literals _ s s _).mpr ⟨_, rfl, congrArg map made.symm⟩

end ExprLang
