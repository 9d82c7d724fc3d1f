import ExprLang.Proofs.Coercion.Clock
import ExprLang.Proofs.Equality.Structural
import ExprLang.Proofs.Evaluation.Parts
import Mathlib.Data.Set.Defs

/-!
# Values of two runs that correspond

Two evaluations that run side by side may differ in ways that nothing they run can see: in the numbers
that lambdas and adapters get, in arguments of calls that no code reads, and in the time at which they
run if no clock that moves is in sight. A `Correspondence` says how far they may differ, and two values
correspond (`Correspondence.Values`) if they differ no further: they are of one shape, and hold values
that correspond in the same places and under the same names.

What the language shows of values, it shows alike of values that correspond, or like values for short:
their kind, their text, their elements, and whether two of them are the same (`Values.same_eq`).
-/

namespace ExprLang

variable {σ : Type}

/-! ### The names that code reads -/

mutual

/-- The names that an expression looks up when it is evaluated, or that a lambda made in it looks up
when it is called. Parameters of lambdas are not looked up outside of them, and an assignment to a name
does not look it up. -/
def Expr.reads : Expr → List String
  | .identifier name => [name]
  | .access object property => object.reads ++ property.reads
  | .method object _ args => object.reads ++ Expr.readsOfAll args
  | .function none name args => name :: Expr.readsOfAll args
  | .function (some _) _ args => Expr.readsOfAll args
  | .call callee args => callee.reads ++ Expr.readsOfAll args
  | .unary _ operand => operand.reads
  | .binary _ left right => left.reads ++ right.reads
  | .conditional condition yes no => condition.reads ++ yes.reads ++ no.reads
  | .instanceOf operand _ => operand.reads
  | .list items => Expr.readsOfAll items
  | .set items => Expr.readsOfAll items
  | .map entries => Expr.readsOfEntries entries
  | .lambda params body => body.reads.filter fun name => !params.contains name
  | .assign target value => target.readsToAssign ++ value.reads
  | .sequence items => Expr.readsOfAll items
  | _ => []
termination_by structural e => e

/-- The names that several expressions look up. -/
def Expr.readsOfAll : List Expr → List String
  | [] => []
  | e :: es => e.reads ++ Expr.readsOfAll es
termination_by structural es => es

/-- The names that the keys and values of a map look up. -/
def Expr.readsOfEntries : List (Expr × Expr) → List String
  | [] => []
  | e :: es => Expr.readsOfEntry e ++ Expr.readsOfEntries es
termination_by structural es => es

/-- The names that a key and its value look up. -/
def Expr.readsOfEntry : Expr × Expr → List String
  | (k, v) => k.reads ++ v.reads
termination_by structural e => e

/-- The names that an assignment to the expression looks up. -/
def Expr.readsToAssign : Expr → List String
  | .access object property => object.reads ++ property.reads
  | _ => []
termination_by structural e => e

end

/-! ### Names that are bound once -/

/-- No name is bound twice. -/
def Bindings.Distinct {α : Type} (b : Bindings α) : Prop :=
  (b.map Prod.fst).Nodup

instance {α : Type} (b : Bindings α) : Decidable b.Distinct :=
  inferInstanceAs (Decidable (b.map Prod.fst).Nodup)

/-! ### Correspondences -/

/-- How far two runs may differ. -/
structure Correspondence (σ : Type) where
  /-- The numbers that a lambda or an adapter may have in the two runs. -/
  ids : Nat → Nat → Prop
  /-- The numbers that the next one may get. -/
  next : Nat → Nat → Prop
  /-- The flags. -/
  flags : Bool → Bool → Prop
  /-- The states of the application. -/
  worlds : σ → σ → Prop
  /-- The declarations that may be in force. They are the same in both runs. -/
  declarations : Environment → Prop
  /-- The names under which the arguments of calls may differ. -/
  hidden : Set String
  /-- Whether the clock of the system may be in sight. -/
  clocks : Prop

/-- The two values differ no further than the runs may. Of the arguments that a lambda has captured only
those count that have no hidden name or that its code reads, and the latter it has to have captured: they
would be looked up among the arguments of its caller otherwise. -/
inductive Correspondence.Values (C : Correspondence σ) : Value → Value → Prop where
  | scalar {v : Value} : v.isScalar = true → (v.isSystemClock = true → C.clocks) → C.Values v v
  | list {xs ys : List Value} : List.Forall₂ C.Values xs ys → C.Values (.list xs) (.list ys)
  | set {xs ys : List Value} : List.Forall₂ C.Values xs ys → C.Values (.set xs) (.set ys)
  | array {xs ys : List Value} : List.Forall₂ C.Values xs ys → C.Values (.array xs) (.array ys)
  | map {es fs : List (Value × Value)} :
      List.Forall₂ C.Values (es.map Prod.fst) (fs.map Prod.fst) →
      List.Forall₂ C.Values (es.map Prod.snd) (fs.map Prod.snd) → C.Values (.map es) (.map fs)
  | lambda {i j : Nat} {params : List String} {body : Expr} {captured captured' : Bindings Value} :
      C.ids i j → captured.Distinct → captured'.Distinct →
      (∀ n, n ∉ C.hidden ∨ n ∈ (Expr.lambda params body).reads →
        Option.Rel C.Values (captured.get? n) (captured'.get? n)) →
      (∀ n ∈ C.hidden, n ∈ (Expr.lambda params body).reads → (captured.get? n).isSome) →
      C.Values (.lambda ⟨i, params, body, captured⟩) (.lambda ⟨j, params, body, captured'⟩)
  | adapter {i j : Nat} {l l' : Lambda} {interface : Interface} {bindings bindings' : Bindings Value}
      {arguments arguments' : Bindings Value} {environment : Environment} :
      C.ids i j → C.Values (.lambda l) (.lambda l') →
      (∀ n, Option.Rel C.Values (bindings.get? n) (bindings'.get? n)) →
      arguments.Distinct → arguments'.Distinct →
      (∀ n, n ∉ C.hidden → Option.Rel C.Values (arguments.get? n) (arguments'.get? n)) →
      C.declarations environment →
      C.Values (.adapter ⟨i, l, interface, bindings, arguments, environment⟩)
        (.adapter ⟨j, l', interface, bindings', arguments', environment⟩)

/-! ### Induction on the parts of a value -/

namespace Value

theorem sizeOf_lt_of_mem_fst {α : Type} [SizeOf α] {v : Value} {es : List (Value × α)}
    (mem : v ∈ es.map Prod.fst) : sizeOf v < sizeOf es := by
  obtain ⟨⟨_, w⟩, stored, rfl⟩ := List.mem_map.mp mem
  have inside := List.sizeOf_lt_of_mem stored
  rw [Prod.mk.sizeOf_spec] at inside
  dsimp only
  omega

theorem sizeOf_lt_of_mem_snd {α : Type} [SizeOf α] {v : Value} {es : List (α × Value)}
    (mem : v ∈ es.map Prod.snd) : sizeOf v < sizeOf es := by
  obtain ⟨⟨_, w⟩, stored, rfl⟩ := List.mem_map.mp mem
  have inside := List.sizeOf_lt_of_mem stored
  rw [Prod.mk.sizeOf_spec] at inside
  dsimp only
  omega

theorem sizeOf_lt_of_mem_parts {v part : Value} (mem : part ∈ v.parts) : sizeOf part < sizeOf v := by
  cases v with
  | list items | set items | array items =>
    have inside : sizeOf part < sizeOf items := List.sizeOf_lt_of_mem mem
    simp only [list.sizeOf_spec, set.sizeOf_spec, array.sizeOf_spec]
    omega
  | map entries =>
    rw [map.sizeOf_spec]
    rcases List.mem_append.mp mem with isKey | isValue
    · have := sizeOf_lt_of_mem_fst isKey
      omega
    · have := sizeOf_lt_of_mem_snd isValue
      omega
  | lambda l =>
    obtain ⟨i, params, body, captured⟩ := l
    have : sizeOf part < sizeOf captured := sizeOf_lt_of_mem_snd mem
    rw [lambda.sizeOf_spec, LambdaOf.mk.sizeOf_spec]
    omega
  | adapter a =>
    obtain ⟨i, l, interface, bindings, arguments, environment⟩ := a
    rw [adapter.sizeOf_spec, AdapterOf.mk.sizeOf_spec, SnapshotOf.mk.sizeOf_spec]
    rcases List.mem_cons.mp mem with rfl | kept
    · rw [lambda.sizeOf_spec]
      dsimp only
      omega
    · rcases List.mem_append.mp kept with isVariable | isArgument
      · have : sizeOf part < sizeOf bindings := sizeOf_lt_of_mem_snd isVariable
        omega
      · have : sizeOf part < sizeOf arguments := sizeOf_lt_of_mem_snd isArgument
        omega
  | _ => cases mem

/-- What holds of a value as soon as it holds of its parts holds of every value. -/
theorem induction_parts {P : Value → Prop} (step : ∀ v, (∀ part ∈ v.parts, P part) → P v)
    (v : Value) : P v :=
  step v fun part _ => induction_parts step part
termination_by sizeOf v
decreasing_by exact sizeOf_lt_of_mem_parts ‹_›

end Value

namespace Correspondence

variable {C : Correspondence σ}

/-- Two entries of maps with like keys and like values. -/
def Entries (C : Correspondence σ) (e f : Value × Value) : Prop :=
  C.Values e.1 f.1 ∧ C.Values e.2 f.2

theorem entries_of_map {es fs : List (Value × Value)}
    (keys : List.Forall₂ C.Values (es.map Prod.fst) (fs.map Prod.fst))
    (values : List.Forall₂ C.Values (es.map Prod.snd) (fs.map Prod.snd)) :
    List.Forall₂ C.Entries es fs := by
  rw [List.forall₂_map_left_iff, List.forall₂_map_right_iff] at keys values
  exact keys.mp (fun _ _ key value => ⟨key, value⟩) values

theorem Values.map_of_entries {es fs : List (Value × Value)}
    (all : List.Forall₂ C.Entries es fs) : C.Values (.map es) (.map fs) := by
  refine .map ?_ ?_
  all_goals rw [List.forall₂_map_left_iff, List.forall₂_map_right_iff]
  · exact all.imp fun _ _ like => like.1
  · exact all.imp fun _ _ like => like.2

/-! ### What values show of themselves -/

/-- What follows for the elements of one list follows for the whole. -/
theorem forall₂_imp_of_mem {α β : Type} {R S : α → β → Prop} {xs : List α} {ys : List β}
    (all : List.Forall₂ R xs ys) (h : ∀ x ∈ xs, ∀ y, R x y → S x y) : List.Forall₂ S xs ys :=
  ((List.forall₂_and_left _ _).mpr ⟨h, all⟩).imp fun _ _ ⟨step, related⟩ => step _ related

namespace Values

theorem string (s : String) : C.Values (.string s) (.string s) :=
  .scalar rfl nofun

theorem texts_eq {xs ys : List Value} (all : List.Forall₂ (fun x y => x.text = y.text) xs ys) :
    Value.texts xs = Value.texts ys := by
  induction all with
  | nil => rfl
  | cons same _ ih => rw [Value.texts, Value.texts, same, ih]

theorem entryTexts_eq {es fs : List (Value × Value)}
    (all : List.Forall₂ (fun e f => e.1.text = f.1.text ∧ e.2.text = f.2.text) es fs) :
    Value.entryTexts es = Value.entryTexts fs := by
  induction all with
  | nil => rfl
  | cons same _ ih =>
    rw [Value.entryTexts, Value.entryTexts, Value.entryText, Value.entryText, same.1, same.2, ih]

theorem text_eq {v v' : Value} (h : C.Values v v') : v.text = v'.text := by
  induction v using Value.induction_parts generalizing v' with
  | step v ih =>
    cases h with
    | scalar _ _ => rfl
    | list all | set all | array all =>
      rw [Value.text, Value.text, texts_eq (forall₂_imp_of_mem all fun x mem _ => ih x mem)]
    | map keys values =>
      rw [Value.text, Value.text, entryTexts_eq (forall₂_imp_of_mem (entries_of_map keys values) ?_)]
      intro e mem f like
      exact ⟨ih _ (List.mem_append_left _ (List.mem_map_of_mem mem)) like.1,
        ih _ (List.mem_append_right _ (List.mem_map_of_mem mem)) like.2⟩
    | lambda _ _ _ _ _ => rfl
    | adapter _ _ _ _ _ _ _ => rfl

theorem kindName_eq {v v' : Value} (h : C.Values v v') : v.kindName = v'.kindName := by
  cases h <;> rfl

theorem isNull_eq {v v' : Value} (h : C.Values v v') : v.isNull = v'.isNull := by
  cases h <;> rfl

theorem isText_eq {v v' : Value} (h : C.Values v v') : v.isText = v'.isText := by
  cases h <;> rfl

theorem isTemporal_eq {v v' : Value} (h : C.Values v v') : v.isTemporal = v'.isTemporal := by
  cases h <;> rfl

theorem isEmpty_eq {v v' : Value} (h : C.Values v v') : v.isEmpty = v'.isEmpty := by
  cases h with
  | list all | set all | array all => cases all <;> rfl
  | map keys values => cases entries_of_map keys values <;> rfl
  | _ => rfl

/-- Values values have like elements. -/
theorem elements? {v v' : Value} (h : C.Values v v') :
    Option.Rel (List.Forall₂ C.Values) v.elements? v'.elements? := by
  cases h with
  | list all | set all | array all => exact .some all
  | scalar scalar _ => cases v <;> first | exact .none | cases scalar
  | _ => exact .none

end Values

/-! ### Structural equality -/

/-- No two numbers correspond to one. -/
def OneToOne (C : Correspondence σ) : Prop :=
  ∀ ⦃i i' j j'⦄, C.ids i i' → C.ids j j' → (i = j ↔ i' = j')

section Same

variable {m : ObjectModel}

/-- Where the elements of two lists are compared alike, so are the lists. -/
def SameComparisons (C : Correspondence σ) (m : ObjectModel) (xs ys : List Value) : Prop :=
  ∀ x ∈ xs, ∀ y ∈ ys, ∀ x' y', C.Values x x' → C.Values y y' →
    Value.same m x y = Value.same m x' y' ∧ Value.same m y x = Value.same m y' x'

namespace SameComparisons

variable {xs xs' ys ys' : List Value}

theorem of_cons {x : Value} (h : C.SameComparisons m (x :: xs) ys) : C.SameComparisons m xs ys :=
  fun x mem => h x (List.mem_cons_of_mem _ mem)

theorem sameAll_eq (h : C.SameComparisons m xs ys) (all : List.Forall₂ C.Values xs xs')
    (all' : List.Forall₂ C.Values ys ys') : Value.sameAll m xs ys = Value.sameAll m xs' ys' := by
  induction all generalizing ys ys' with
  | nil => cases all' <;> simp [Value.sameAll]
  | cons like rest ih =>
    cases all' with
    | nil => simp [Value.sameAll]
    | cons like' rest' =>
      have later := ih (fun x mem y mem' => h x (by simp [mem]) y (by simp [mem'])) rest'
      rw [Value.sameAll, Value.sameAll, later, (h _ (by simp) _ (by simp) _ _ like like').1]

theorem isIn_eq {x x' : Value} (h : C.SameComparisons m [x] ys) (like : C.Values x x')
    (all' : List.Forall₂ C.Values ys ys') : Value.isIn m x ys = Value.isIn m x' ys' := by
  induction all' with
  | nil => simp [Value.isIn]
  | cons like' rest ih =>
    have later := ih fun x mem y mem' => h x mem y (by simp [mem'])
    rw [Value.isIn, Value.isIn, later, (h _ (by simp) _ (by simp) _ _ like like').2]

theorem allIn_eq (h : C.SameComparisons m xs ys) (all : List.Forall₂ C.Values xs xs')
    (all' : List.Forall₂ C.Values ys ys') : Value.allIn m xs ys = Value.allIn m xs' ys' := by
  induction all with
  | nil => simp [Value.allIn]
  | cons like rest ih =>
    have first := isIn_eq (fun x mem y mem' => h x (by simp_all) y mem') like all'
    rw [Value.allIn, Value.allIn, ih h.of_cons, first]

section

variable {es es' fs fs' : List (Value × Value)}

theorem entryIn_eq {e e' : Value × Value} (keys : C.SameComparisons m [e.1] (fs.map Prod.fst))
    (values : C.SameComparisons m [e.2] (fs.map Prod.snd)) (like : C.Entries e e')
    (all' : List.Forall₂ C.Entries fs fs') :
    Value.entryIn m e.1 e.2 fs = Value.entryIn m e'.1 e'.2 fs' := by
  induction all' with
  | nil => simp [Value.entryIn]
  | cons like' rest ih =>
    have later := ih (fun x mem y mem' => keys x mem y (by simp_all))
      fun x mem y mem' => values x mem y (by simp_all)
    rw [Value.entryIn, Value.entryIn, later,
      (keys _ (by simp) _ (by simp) _ _ like.1 like'.1).2,
      (values _ (by simp) _ (by simp) _ _ like.2 like'.2).2]

theorem entriesIn_eq (keys : C.SameComparisons m (es.map Prod.fst) (fs.map Prod.fst))
    (values : C.SameComparisons m (es.map Prod.snd) (fs.map Prod.snd))
    (all : List.Forall₂ C.Entries es es') (all' : List.Forall₂ C.Entries fs fs') :
    Value.entriesIn m es fs = Value.entriesIn m es' fs' := by
  induction all with
  | nil => simp [Value.entriesIn]
  | cons like rest ih =>
    have first := entryIn_eq (fun x mem y mem' => keys x (by simp_all) y mem')
      (fun x mem y mem' => values x (by simp_all) y mem') like all'
    rw [Value.entriesIn, Value.entriesIn, ih keys.of_cons values.of_cons, first]

end

end SameComparisons

/-- A scalar and a value that is none are not the same. -/
theorem same_of_isScalar {v w : Value} (scalar : v.isScalar = true) (other : w.isScalar = false) :
    Value.same m v w = false ∧ Value.same m w v = false := by
  cases w with
  | list _ | set _ | array _ | map _ | lambda _ | adapter _ =>
    cases v with
    | list _ | set _ | array _ | map _ | lambda _ | adapter _ => cases scalar
    | _ => simp [Value.same, Value.sameLeaf]
  | _ => cases other

/-- Whether two values are the same does not tell them from values that are like them. -/
theorem Values.same_eq (oneToOne : C.OneToOne) {v v' w w' : Value} (h : C.Values v v')
    (h' : C.Values w w') : Value.same m v w = Value.same m v' w' := by
  -- the elements of the two sides change places on the way down: the induction is on both sizes
  suffices bounded : ∀ bound v w v' w', sizeOf v + sizeOf w < bound → C.Values v v' → C.Values w w' →
      Value.same m v w = Value.same m v' w' from
    bounded _ v w v' w' (Nat.lt_succ_self _) h h'
  clear h h'
  intro bound
  induction bound with
  | zero => exact fun _ _ _ _ size => absurd size (Nat.not_lt_zero _)
  | succ bound ih =>
    intro v w v' w' size h h'
    have compared (xs ys : List Value) (left : ∀ x ∈ xs, x ∈ v.parts) (right : ∀ y ∈ ys, y ∈ w.parts) :
        C.SameComparisons m xs ys := by
      intro x mem y mem' x' y' like like'
      have hx := Value.sizeOf_lt_of_mem_parts (left x mem)
      have hy := Value.sizeOf_lt_of_mem_parts (right y mem')
      exact ⟨ih x y x' y' (by omega) like like', ih y x y' x' (by omega) like' like⟩
    have mixed (one : v.isScalar = !w.isScalar) (kept : v.isScalar = v'.isScalar)
        (kept' : w.isScalar = w'.isScalar) : Value.same m v w = Value.same m v' w' := by
      cases scalar : v.isScalar with
      | true =>
        have other : w.isScalar = false := by simpa [scalar] using one
        rw [(same_of_isScalar scalar other).1,
          (same_of_isScalar (kept.symm.trans scalar) (kept'.symm.trans other)).1]
      | false =>
        have other : w.isScalar = true := by simpa [scalar] using one
        rw [(same_of_isScalar other scalar).2,
          (same_of_isScalar (kept'.symm.trans other) (kept.symm.trans scalar)).2]
    cases h with
    | scalar scalar _ =>
      cases h' with
      | scalar _ _ => rfl
      | _ => exact mixed (by rw [scalar]; rfl) rfl rfl
    | @list xs xs' all =>
      cases h' with
      | @list ys ys' all' =>
        rw [Value.same, Value.same,
          (compared xs ys (fun _ mem => mem) fun _ mem => mem).sameAll_eq all all']
      | scalar scalar _ => exact mixed (by rw [scalar]; rfl) rfl rfl
      | _ => simp [Value.same, Value.sameLeaf]
    | @array xs xs' all =>
      cases h' with
      | @array ys ys' all' =>
        rw [Value.same, Value.same,
          (compared xs ys (fun _ mem => mem) fun _ mem => mem).sameAll_eq all all']
      | scalar scalar _ => exact mixed (by rw [scalar]; rfl) rfl rfl
      | _ => simp [Value.same, Value.sameLeaf]
    | @set xs xs' all =>
      cases h' with
      | @set ys ys' all' =>
        rw [Value.same, Value.same,
          (compared xs ys (fun _ mem => mem) fun _ mem => mem).allIn_eq all all', all.length_eq,
          all'.length_eq]
      | scalar scalar _ => exact mixed (by rw [scalar]; rfl) rfl rfl
      | _ => simp [Value.same, Value.sameLeaf]
    | @map es es' keys values =>
      cases h' with
      | @map fs fs' keys' values' =>
        have all := entries_of_map keys values
        have all' := entries_of_map keys' values'
        have entries := SameComparisons.entriesIn_eq
          (compared _ _ (fun _ => List.mem_append_left _) fun _ => List.mem_append_left _)
          (compared _ _ (fun _ => List.mem_append_right _) fun _ => List.mem_append_right _) all all'
        rw [Value.same, Value.same, entries, all.length_eq, all'.length_eq]
      | scalar scalar _ => exact mixed (by rw [scalar]; rfl) rfl rfl
      | _ => simp [Value.same, Value.sameLeaf]
    | lambda id _ _ _ _ =>
      cases h' with
      | lambda id' _ _ _ _ => simp [Value.same, Value.sameLeaf, oneToOne id id']
      | scalar scalar _ => exact mixed (by rw [scalar]; rfl) rfl rfl
      | _ => simp [Value.same, Value.sameLeaf]
    | adapter id _ _ _ _ _ _ =>
      cases h' with
      | adapter id' _ _ _ _ _ _ => simp [Value.same, Value.sameLeaf, oneToOne id id']
      | scalar scalar _ => exact mixed (by rw [scalar]; rfl) rfl rfl
      | _ => simp [Value.same, Value.sameLeaf]

/-! ### Maps and sets -/

variable (oneToOne : C.OneToOne) {es es' : List (Value × Value)} {k k' v v' : Value}
include oneToOne

theorem Entries.mapGet? (all : List.Forall₂ C.Entries es es') (key : C.Values k k') :
    Option.Rel C.Values (Value.mapGet? m es k) (Value.mapGet? m es' k') := by
  induction all with
  | nil => exact .none
  | cons like rest ih =>
    unfold Value.mapGet? at ih ⊢
    rw [List.find?_cons, List.find?_cons, like.1.same_eq oneToOne key]
    split
    · exact .some like.2
    · exact ih

theorem Entries.mapInsert (all : List.Forall₂ C.Entries es es') (key : C.Values k k')
    (value : C.Values v v') :
    List.Forall₂ C.Entries (Value.mapInsert m es k v) (Value.mapInsert m es' k' v') := by
  induction all with
  | nil => exact .cons ⟨key, value⟩ .nil
  | cons like rest ih =>
    rw [Value.mapInsert, Value.mapInsert, like.1.same_eq oneToOne key]
    split
    · exact .cons ⟨like.1, value⟩ rest
    · exact .cons like ih

/-- Maps of like entries. -/
theorem Values.map_of_inserts (all : List.Forall₂ C.Entries es es') :
    C.Values (.map (es.foldl (fun made e => Value.mapInsert m made e.1 e.2) []))
      (.map (es'.foldl (fun made e => Value.mapInsert m made e.1 e.2) [])) := by
  have folded (made made' : List (Value × Value)) (first : List.Forall₂ C.Entries made made') :
      List.Forall₂ C.Entries (es.foldl (fun made e => Value.mapInsert m made e.1 e.2) made)
        (es'.foldl (fun made e => Value.mapInsert m made e.1 e.2) made') := by
    induction all generalizing made made' with
    | nil => exact first
    | cons like _ ih => exact ih _ _ (Entries.mapInsert oneToOne first like.1 like.2)
  exact .map_of_entries (folded [] [] .nil)

theorem memberOf_eq {xs xs' : List Value} (all : List.Forall₂ C.Values xs xs') (like : C.Values v v') :
    Value.memberOf m v xs = Value.memberOf m v' xs' := by
  unfold Value.memberOf
  induction all with
  | nil => rfl
  | cons first _ ih => rw [List.any_cons, List.any_cons, first.same_eq oneToOne like, ih]

/-- Sets of like items. -/
theorem Values.setOf {xs xs' : List Value} (all : List.Forall₂ C.Values xs xs') :
    C.Values (.setOf m xs) (.setOf m xs') := by
  have folded (kept kept' : List Value) (first : List.Forall₂ C.Values kept kept') :
      List.Forall₂ C.Values
        (xs.foldl (fun kept v => if Value.memberOf m v kept then kept else kept ++ [v]) kept)
        (xs'.foldl (fun kept v => if Value.memberOf m v kept then kept else kept ++ [v]) kept') := by
    induction all generalizing kept kept' with
    | nil => exact first
    | cons like _ ih =>
      rw [List.foldl_cons, List.foldl_cons, memberOf_eq oneToOne first like]
      split
      · exact ih _ _ first
      · exact ih _ _ (List.rel_append first (.cons like .nil))
  exact .set (folded [] [] .nil)

end Same

/-! ### Values that are like themselves -/

/-- What of a value, apart from its parts, the two runs have to agree on for the value to be like
itself. -/
def Fixes (C : Correspondence σ) : Value → Prop
  | .lambda l => C.ids l.id l.id ∧ Bindings.Distinct l.captured ∧
      ∀ n ∈ C.hidden, n ∈ (Expr.lambda l.params l.body).reads → (Bindings.get? l.captured n).isSome
  | .adapter a => C.ids a.id a.id ∧ Bindings.Distinct a.bound.arguments ∧
      C.declarations a.bound.environment
  | v => v.isSystemClock = true → C.clocks

/-- Within scalars there is nothing to agree on but the clock of the system. -/
theorem fixes_of_scalar {v part : Value} (scalar : v.isScalar = true)
    (still : v.isSystemClock = true → C.clocks) (within : v.Reaches part) : C.Fixes part := by
  rw [within.eq_of_isScalar scalar]
  cases v with
  | lambda _ | adapter _ => cases scalar
  | _ => exact still

/-- Within numbers there is nothing to agree on. -/
theorem fixes_of_number {v part : Value} (number : v.isNumber = true) (within : v.Reaches part) :
    C.Fixes part := by
  refine fixes_of_scalar (Value.isScalar_of_isNumber number) (fun system => ?_) within
  rw [Value.isSystemClock_of_isNumber number] at system
  cases system

theorem rel_get?_self {b : Bindings Value} (all : b.All fun v => C.Values v v) (n : String) :
    Option.Rel C.Values (b.get? n) (b.get? n) := by
  cases found : b.get? n with
  | none => exact .none
  | some v => exact .some (all.get? found)

theorem values_self {v : Value} (h : Throughout Value.parts C.Fixes v) : C.Values v v := by
  induction v using Value.induction_parts with
  | step v ih =>
    have part (w : Value) (mem : w ∈ v.parts) : C.Values w w := ih w mem (h.part mem)
    cases v with
    | list _ => exact .list (List.forall₂_same.mpr part)
    | set _ => exact .set (List.forall₂_same.mpr part)
    | array _ => exact .array (List.forall₂_same.mpr part)
    | map _ =>
      exact .map (List.forall₂_same.mpr fun w mem => part w (List.mem_append_left _ mem))
        (List.forall₂_same.mpr fun w mem => part w (List.mem_append_right _ mem))
    | lambda l =>
      obtain ⟨id, distinct, bound⟩ := h.self
      have captured : Bindings.All (fun v => C.Values v v) l.captured :=
        fun e mem => part _ (List.mem_map_of_mem mem)
      exact .lambda id distinct distinct (fun n _ => rel_get?_self captured n) bound
    | adapter a =>
      obtain ⟨id, distinct, declarations⟩ := h.self
      have bindings : Bindings.All (fun v => C.Values v v) a.bound.bindings := fun e mem =>
        part _ (List.mem_cons_of_mem _ (List.mem_append_left _ (List.mem_map_of_mem mem)))
      have arguments : Bindings.All (fun v => C.Values v v) a.bound.arguments := fun e mem =>
        part _ (List.mem_cons_of_mem _ (List.mem_append_right _ (List.mem_map_of_mem mem)))
      exact .adapter id (part _ List.mem_cons_self) (rel_get?_self bindings) distinct distinct
        (fun n _ => rel_get?_self arguments n) declarations
    | _ => exact .scalar rfl h.self

/-- A number is like itself. -/
theorem Values.number {v : Value} (number : v.isNumber = true) : C.Values v v :=
  values_self fun _ within => fixes_of_number number within

end Correspondence

end ExprLang
