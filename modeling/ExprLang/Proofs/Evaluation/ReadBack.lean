import ExprLang.Proofs.Equality.Structural
import ExprLang.Proofs.Evaluation.Frame
import ExprLang.Proofs.Evaluation.Free

/-!
# Assignments are read back

Without a resolver an assignment sets a variable, or an entry of the collection that is in a variable,
and a name is read as a variable where no argument of a call hides it. So what has been assigned to
such a name, or to a property of its value, is what it then evaluates to, and of the collection nothing
but the one entry has changed (`Value.Updated`). A name that an argument hides still evaluates to the
argument (`assignment_behind_argument`).

**Key theorem**: `assigned_reads_back`.
-/

namespace ExprLang

variable {σ : Type}

/-! ### Literals -/

/-- The value of a literal. -/
def Expr.literal? : Expr → Option Value
  | .integer n => some (if n < Nat.pow 2 63 then .long (.ofNat n) else .bigInteger n)
  | .float x => some (.double x)
  | .decimal d => some (.bigDecimal d)
  | .string s | .key s => some (.string s)
  | .boolean b => some (.boolean b)
  | .null => some .null
  | _ => none

/-- A literal evaluates to its value and changes nothing. -/
theorem Eval.expr_of_literal {e : Expr} {v : Value} (literal : e.literal? = some v) (host : Host σ)
    (call : Invoker σ) (s : Session σ) : Eval.expr host call e s = (.ok v, s) := by
  cases e <;> cases literal <;> rfl

/-- The value of a literal equals itself. -/
theorem Value.same_of_literal {e : Expr} {v : Value} (literal : e.literal? = some v)
    (m : ObjectModel) : same m v v = true := by
  have leaf : v.isCollection = false := by
    cases e <;> cases literal <;> first | rfl | (split <;> rfl)
  exact same_leaf_self leaf

/-! ### Collections with one entry set -/

/-- The second collection is the first one with the entry of a key set to a value: the first entry
with such a key, a new entry at the end if there is none, or the element with the key as its index. -/
inductive Value.Updated (m : ObjectModel) (zeroMode : Bool) (key v : Value) : Value → Value → Prop where
  | entry {before after : List (Value × Value)} {e : Value × Value} :
      (∀ e' ∈ before, same m e'.1 key = false) → same m e.1 key = true →
      Updated m zeroMode key v (map (before ++ e :: after)) (map (before ++ (e.1, v) :: after))
  | newEntry {entries : List (Value × Value)} : (∀ e ∈ entries, same m e.1 key = false) →
      Updated m zeroMode key v (map entries) (map (entries ++ [(key, v)]))
  | listElement {before after : List Value} {x : Value} :
      Coercion.index? zeroMode key = some (some before.length) →
      Updated m zeroMode key v (list (before ++ x :: after)) (list (before ++ v :: after))
  | arrayElement {before after : List Value} {x : Value} :
      Coercion.index? zeroMode key = some (some before.length) →
      Updated m zeroMode key v (array (before ++ x :: after)) (array (before ++ v :: after))

namespace Value

variable {m : ObjectModel} {zeroMode : Bool} {key v : Value}

/-- Binding a key in a map sets its entry and leaves all others in their places. -/
theorem updated_mapInsert (entries : List (Value × Value)) :
    Updated m zeroMode key v (map entries) (map (mapInsert m entries key v)) := by
  have places : ∀ before : List (Value × Value), (∀ e ∈ before, same m e.1 key = false) →
      Updated m zeroMode key v (map (before ++ entries))
        (map (before ++ mapInsert m entries key v)) := by
    induction entries with
    | nil =>
      intro before other
      rw [List.append_nil, mapInsert]
      exact .newEntry other
    | cons e rest ih =>
      intro before other
      rw [mapInsert]
      split
      · rename_i found
        exact .entry other found
      · rename_i differs
        have others : ∀ e' ∈ before ++ [e], same m e'.1 key = false := by
          intro e' mem
          rcases List.mem_append.mp mem with early | last
          · exact other e' early
          · rw [List.mem_singleton.mp last]
            exact Bool.eq_false_iff.mpr differs
        simpa using ih (before ++ [e]) others
  exact places [] (by simp)

theorem find?_append_of_other {before rest : List (Value × Value)}
    (other : ∀ e ∈ before, same m e.1 key = false) :
    (before ++ rest).find? (fun e => same m e.1 key) = rest.find? fun e => same m e.1 key := by
  have none : before.find? (fun e => same m e.1 key) = none :=
    List.find?_eq_none.mpr fun e mem => by simp [other e mem]
  rw [List.find?_append, none, Option.none_or]

end Value

namespace Eval

variable {host : Host σ} {ctx : Context}

/-- A list with an element set, in two parts around the element. -/
theorem exists_parts_of_set {items : List Value} {i : Nat} (inside : i < items.length) (v : Value) :
    ∃ before x after, before.length = i ∧ items = before ++ x :: after ∧
      items.set i v = before ++ v :: after := by
  obtain ⟨before, after, whole, length, set⟩ :
      ∃ before after, items = before ++ items[i] :: after ∧ before.length = i ∧
        items.set i v = before ++ v :: after := List.exists_of_set inside
  exact ⟨before, items[i], after, length, whole, set⟩

/-- What a collection can take is one entry set. -/
theorem updated_of_stored? {collection changed key v : Value} {i : Option Nat} {zeroMode : Bool}
    (stored : stored? host collection i key v = some changed)
    (indexed : collection.elements?.isSome → Coercion.index? zeroMode key = some i) :
    Value.Updated host.objects zeroMode key v collection changed := by
  unfold stored? at stored
  split at stored
  · cases stored
    exact Value.updated_mapInsert _
  · split at stored
    · rename_i inside
      cases stored
      obtain ⟨before, x, after, rfl, whole, set⟩ := exists_parts_of_set inside v
      rw [set, whole]
      exact .listElement (indexed rfl)
    · cases stored
  · split at stored
    · rename_i inside
      cases stored
      obtain ⟨before, x, after, rfl, whole, set⟩ := exists_parts_of_set inside v
      rw [set, whole]
      exact .arrayElement (indexed rfl)
    · cases stored
  · cases stored

variable (free : ctx.environment.resolver = none)
include free

/-- The entry that has been set is the one that the key reads. -/
theorem property_of_updated {key v old new : Value} (itself : Value.same host.objects key key = true)
    (updated : Value.Updated host.objects (ctx.zeroMode host) key v old new) (s : Ambient σ) :
    (property host new key ⟨ctx, s⟩).1 = .ok v := by
  cases updated with
  | entry other found =>
    rw [property_map_of_free host free, Value.mapGet?, Value.find?_append_of_other other]
    simp [found]
  | newEntry other =>
    rw [property_map_of_free host free, Value.mapGet?, Value.find?_append_of_other other]
    simp [itself]
  | listElement indexed =>
    rw [property_elements_of_free host free rfl indexed]
    simp
  | arrayElement indexed =>
    rw [property_elements_of_free host free rfl indexed]
    simp

omit free in
/-- What is stored in a variable, once the index is known. -/
theorem exists_stored_of_run {name : String} {collection key v : Value} {i : Option Nat}
    {s : Ambient σ} {after : Session σ} (bound : ctx.binding? name = some collection)
    (run : (match some i, ctx.binding? name with
      | some i, some collection =>
        match stored? host collection i key v with
        | some changed => do
          modifyContext fun ctx => ctx.setVariable name changed
          return true
        | none => return false
      | _, _ => return false : EvalM σ Bool) ⟨ctx, s⟩ = (.ok true, after)) :
    ∃ changed, after.context = ctx.setVariable name changed ∧
      stored? host collection i key v = some changed := by
  rw [bound] at run
  dsimp only at run
  cases stored : stored? host collection i key v with
  | some changed =>
    rw [stored] at run
    cases run
    exact ⟨changed, rfl, rfl⟩
  | none =>
    rw [stored] at run
    cases run

/-- What can be stored in a variable is its collection with the entry set. -/
theorem updated_of_storeInVariable {name : String} {collection key v : Value} {s : Ambient σ}
    {after : Session σ} (bound : ctx.binding? name = some collection)
    (run : storeInVariable host name collection key v ⟨ctx, s⟩ = (.ok true, after)) :
    ∃ changed, after.context = ctx.setVariable name changed ∧
      Value.Updated host.objects (ctx.zeroMode host) key v collection changed := by
  unfold storeInVariable at run
  dsimp only at run
  cases collection with
  | list items | array items =>
    obtain ⟨i, between, index, rest⟩ := bind_ok run
    obtain ⟨found, rfl⟩ := (index_of_free host free).mp index
    obtain ⟨changed, set, stored⟩ := exists_stored_of_run bound rest
    exact ⟨changed, set, updated_of_stored? stored fun _ => found⟩
  | map entries =>
    obtain ⟨changed, set, stored⟩ := exists_stored_of_run bound run
    exact ⟨changed, set, updated_of_stored? stored nofun⟩
  | _ => cases run

/-- What an assignment to a property has changed is the collection in a variable. -/
theorem updated_of_assignProperty {name : String} {collection key v : Value} {s : Ambient σ}
    {after : Session σ} (bound : ctx.binding? name = some collection)
    (run : assignProperty host (.identifier name) collection key v ⟨ctx, s⟩ = (.ok (), after)) :
    ∃ changed, after.context = ctx.setVariable name changed ∧
      Value.Updated host.objects (ctx.zeroMode host) key v collection changed := by
  unfold assignProperty at run
  rw [bind_apply, claim_of_free host free] at run
  obtain ⟨done, between, stored, rest⟩ := bind_ok run
  cases done with
  | true =>
    cases rest
    exact updated_of_storeInVariable free bound stored
  | false => cases rest

/-- An assignment to a name sets the variable. -/
theorem assignIdentifier_of_free (name : String) (v : Value) (s : Ambient σ) :
    ∃ ambient, assignIdentifier host name v ⟨ctx, s⟩ = (.ok (), ⟨ctx.setVariable name v, ambient⟩) := by
  unfold assignIdentifier
  rw [bind_apply, claim_of_free host free]
  exact ⟨_, rfl⟩

end Eval

/-! ### Reading back -/

/-- The variable that has been set is the one that the name reads, where no argument hides it. -/
theorem Context.binding?_setVariable (ctx : Context) (name : String) (v : Value) :
    (ctx.setVariable name v).binding? name = some v := by
  unfold binding? setVariable
  rw [Bindings.get?_insert, if_pos rfl]

/-- A name that has just been set is read back. -/
theorem Eval.identifier_setVariable {host : Host σ} {ctx : Context}
    (free : ctx.environment.resolver = none) {name : String} (visible : ctx.argument? name = none)
    (v : Value) (ambient : Ambient σ) :
    ∃ after, identifier host name ⟨ctx.setVariable name v, ambient⟩ =
      (.ok v, ⟨ctx.setVariable name v, after⟩) := by
  have freeAfter : (ctx.setVariable name v).environment.resolver = none := free
  refine identifier_of_free host freeAfter ?_ ambient
  rw [show (ctx.setVariable name v).argument? name = none from visible, Option.none_or]
  exact ctx.binding?_setVariable name v

/-- A property of a collection that has just been set to have it is read back. -/
theorem Eval.access_setVariable {host : Host σ} {ctx : Context}
    (free : ctx.environment.resolver = none) {name : String} (visible : ctx.argument? name = none)
    {key : Expr} {k : Value} (literal : key.literal? = some k) {v old new : Value}
    (updated : Value.Updated host.objects (ctx.zeroMode host) k v old new) (ambient : Ambient σ) :
    ((Expr.access (.identifier name) key).eval host ⟨ctx.setVariable name new, ambient⟩).1 =
      .ok v := by
  obtain ⟨after, read⟩ := identifier_setVariable free visible new ambient
  have based : expr host (invoke host callDepth) (.identifier name)
      ⟨ctx.setVariable name new, ambient⟩ = _ := read
  unfold Expr.eval expr
  rw [bind_apply, based]
  dsimp only
  rw [bind_apply, expr_of_literal literal]
  have freeAfter : (ctx.setVariable name new).environment.resolver = none := free
  exact property_of_updated freeAfter (Value.same_of_literal literal host.objects) updated after

/-- In a context without a resolver, where no argument of a call hides the name: if an assignment to
the name succeeds, then the name evaluates to the value assigned; if an assignment to a property of its
value succeeds, where the key is a literal, then so does the property, and the collection in the
variable has had that entry set and nothing else changed. -/
theorem assigned_reads_back (host : Host σ) {s : Session σ}
    (free : s.context.environment.resolver = none) {name : String}
    (visible : s.context.argument? name = none) (value : Expr) :
    (∀ v after, (Expr.assign (.identifier name) value).eval host s = (.ok v, after) →
      (value.eval host s).1 = .ok v ∧ ((Expr.identifier name).eval host after).1 = .ok v) ∧
    ∀ key k, key.literal? = some k → ∀ v after,
      (Expr.assign (.access (.identifier name) key) value).eval host s = (.ok v, after) →
        (value.eval host s).1 = .ok v ∧
        ((Expr.access (.identifier name) key).eval host after).1 = .ok v ∧
        ∃ old new, (value.eval host s).2.context.binding? name = some old ∧
          after.context.binding? name = some new ∧
          Value.Updated host.objects (s.context.zeroMode host) k v old new := by
  have extended := (Extending.evaluative host).eval value s
  -- the value is evaluated first, and leaves declarations and arguments as they were
  rcases evaluated : value.eval host s with ⟨result, ⟨ctx, ambient⟩⟩
  rw [evaluated] at extended
  have stillFree : ctx.environment.resolver = none := by rw [extended.environment, free]
  have stillVisible : ctx.argument? name = none := by
    rw [Context.argument?, extended.scopes]
    exact visible
  constructor
  · intro v after run
    obtain ⟨w, _, first, rest⟩ := bind_ok run
    cases evaluated.symm.trans first
    obtain ⟨_, _, assigned, last⟩ := bind_ok rest
    cases last
    obtain ⟨left, set⟩ := Eval.assignIdentifier_of_free stillFree name v ambient
    cases set.symm.trans assigned
    obtain ⟨_, read⟩ := Eval.identifier_setVariable stillFree stillVisible v left
    exact ⟨rfl, congrArg Prod.fst read⟩
  · intro key k literal v after run
    obtain ⟨w, _, first, rest⟩ := bind_ok run
    cases evaluated.symm.trans first
    obtain ⟨_, _, assigned, last⟩ := bind_ok rest
    cases last
    obtain ⟨old, ⟨_, between⟩, based, keyed⟩ := bind_ok assigned
    obtain ⟨bound, same⟩ := Eval.identifier_ok_of_free host stillFree stillVisible based
    cases same
    obtain ⟨_, _, evaluatedKey, stored⟩ := bind_ok keyed
    cases (Eval.expr_of_literal literal host _ _).symm.trans evaluatedKey
    obtain ⟨new, changed, updated⟩ := Eval.updated_of_assignProperty stillFree bound stored
    obtain ⟨_, left⟩ := after
    cases changed
    refine ⟨rfl, Eval.access_setVariable stillFree stillVisible literal updated left, old, new,
      bound, Context.binding?_setVariable _ name new, ?_⟩
    rwa [Context.zeroMode, ← extended.environment]

/-- Within a call that has no argument of the name, an element of a list is set and read back. -/
theorem assigned_reads_back_within_call :
    let host : Host Unit := .plain false
    let ctx : Context := ⟨[("l", .list [.long 1, .long 2])], [[("x", .long 7)], []], .empty⟩
    let element : Expr := .access (.identifier "l") (.integer 1)
    let e : Expr := .assign element (.identifier "x")
    let after := (e.eval host ⟨ctx, ⟨true, 0, ()⟩⟩).2
    ctx.environment.resolver = none ∧ ctx.argument? "l" = none ∧
      Expr.literal? (.integer 1) = some (.long 1) ∧
      (e.eval host ⟨ctx, ⟨true, 0, ()⟩⟩).1 = .ok (.long 7) ∧
      (element.eval host after).1 = .ok (.long 7) ∧
      after.context.binding? "l" = some (.list [.long 1, .long 7]) := by
  intro host ctx element e after
  have run : e.eval host ⟨ctx, ⟨true, 0, ()⟩⟩ = (.ok (.long 7), after) := rfl
  have read := (assigned_reads_back host (s := ⟨ctx, ⟨true, 0, ()⟩⟩) rfl rfl (.identifier "x")).2
    (.integer 1) (.long 1) rfl (.long 7) after run
  exact ⟨rfl, rfl, rfl, rfl, read.2.1, rfl⟩

/-- Where an argument of a call has the name, the assignment sets the variable and the name still
evaluates to the argument. -/
theorem assignment_behind_argument :
    let host : Host Unit := .plain false
    let ctx : Context := ⟨[], [[("x", .long 1)]], .empty⟩
    let e : Expr := .assign (.identifier "x") (.integer 5)
    let after := (e.eval host ⟨ctx, ⟨false, 0, ()⟩⟩).2
    ctx.environment.resolver = none ∧
      (e.eval host ⟨ctx, ⟨false, 0, ()⟩⟩).1 = .ok (.long 5) ∧
      after.context.scopes = ctx.scopes ∧ after.context.binding? "x" = some (.long 5) ∧
      ((Expr.identifier "x").eval host after).1 ≠ .ok (.long 5) :=
  ⟨rfl, rfl, rfl, rfl, nofun⟩

end ExprLang
