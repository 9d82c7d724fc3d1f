import ExprLang.Proofs.Correspondence.Resolvers
import ExprLang.Proofs.Evaluation.Keeping

/-!
# Steps of two evaluations that correspond

Two evaluations that run under two stacks of scopes are in corresponding states (`Correspondence.Sessions`)
if their contexts and surroundings differ no further than the runs may. The steps that evaluations are
put together from, on like operands, come to like values or to the same error and leave corresponding
states: reading names and properties, operators, making lambdas, and assignments.
-/

namespace ExprLang

open Eval

variable {σ α β : Type}

namespace Correspondence

variable {C : Correspondence σ} {host : Host σ} {later : Time.Instant}
  {scopes scopes' : List (Bindings Value)}

/-! ### States of the two runs -/

/-- The two runs are under these scopes, and apart from these their states differ no further than the
runs may. -/
structure Sessions (C : Correspondence σ) (scopes scopes' : List (Bindings Value))
    (s s' : Session σ) : Prop where
  scopes : s.context.scopes = scopes
  scopes' : s'.context.scopes = scopes'
  contexts : C.Contexts s.context s'.context
  near : C.Near s.ambient s'.ambient

/-- The code may read under these scopes all the names that it does read. -/
abbrev Legible (C : Correspondence σ) (scopes scopes' : List (Bindings Value)) (names : List String) :
    Prop :=
  ∀ n ∈ names, C.Visible scopes scopes' n

namespace Sessions

variable {s s' : Session σ}

theorem frame (h : C.Sessions scopes scopes' s s') : C.Scopes scopes scopes' := by
  rw [← h.scopes, ← h.scopes']
  exact h.contexts.scopes

/-- The argument of a name that may be read. -/
theorem argument (h : C.Sessions scopes scopes' s s') {name : String}
    (visible : C.Visible scopes scopes' name) :
    Option.Rel C.Values (s.context.argument? name) (s'.context.argument? name) :=
  h.contexts.scopes.argument (by rw [h.scopes, h.scopes']; exact visible)

variable {scope scope' : Bindings Value}

/-- The states within two calls. -/
theorem pushScope (h : C.Sessions scopes scopes' s s')
    (inner : C.Scopes (scope :: scopes) (scope' :: scopes')) :
    C.Sessions (scope :: scopes) (scope' :: scopes')
      { s with context := s.context.pushScope scope }
      { s' with context := s'.context.pushScope scope' } := by
  obtain ⟨rfl, rfl, contexts, near⟩ := h
  exact ⟨rfl, rfl, ⟨contexts.bindings, inner, contexts.environment, contexts.declarations⟩, near⟩

/-- The states after two calls. -/
theorem popScope (h : C.Sessions (scope :: scopes) (scope' :: scopes') s s')
    (outer : C.Scopes scopes scopes') :
    C.Sessions scopes scopes' { s with context := s.context.popScope }
      { s' with context := s'.context.popScope } := by
  have closed : s.context.popScope.scopes = scopes := congrArg List.tail h.scopes
  have closed' : s'.context.popScope.scopes = scopes' := congrArg List.tail h.scopes'
  refine ⟨closed, closed', ⟨h.contexts.bindings, ?_, h.contexts.environment,
    h.contexts.declarations⟩, h.near⟩
  rw [closed, closed']
  exact outer

end Sessions

/-! ### Steps of evaluations -/

section

variable {Q : α → β → Prop}

/-- A look at the context. -/
theorem look {f : Session σ → EvalM σ α} {f' : Session σ → EvalM σ β}
    (seen : ∀ s s', C.Sessions scopes scopes' s s' →
      Matching (C.Sessions scopes scopes') Q (f s) (f' s')) :
    Matching (C.Sessions scopes scopes') Q (get >>= f) (get >>= f') :=
  fun s s' start => seen s s' start start

/-- A computation on the surroundings. -/
theorem within {f : Context → HookM σ α} {f' : Context → HookM σ β}
    (asked : ∀ ctx ctx', C.Contexts ctx ctx' → Matching C.Near Q (f ctx) (f' ctx')) :
    Matching (C.Sessions scopes scopes') Q (Eval.within f) (Eval.within f') := by
  intro s s' start
  obtain ⟨outcomes, near⟩ := asked _ _ start.contexts start.near
  exact ⟨outcomes.mapError Halt.error, start.scopes, start.scopes', start.contexts, near⟩

/-- A failure. -/
theorem fail {e e' : EvalError} (same : e = e') :
    Matching (C.Sessions scopes scopes') Q (Eval.fail e) (Eval.fail e') :=
  .throw_of_eq (congrArg Halt.error same)

/-- A change of a variable. -/
theorem setVariable (name : String) {v v' : Value} (like : C.Values v v') :
    Matching (C.Sessions scopes scopes') Eq
      (modifyContext fun ctx => ctx.setVariable name v : EvalM σ Unit)
      (modifyContext fun ctx => ctx.setVariable name v') :=
  fun _ _ start => ⟨.ok rfl, start.scopes, start.scopes', start.contexts.setVariable name like,
    start.near⟩

end

theorem rel_getElem? {xs ys : List Value} (all : List.Forall₂ C.Values xs ys) (i : Nat) :
    Option.Rel C.Values xs[i]? ys[i]? := by
  induction all generalizing i with
  | nil => exact .none
  | cons like _ ih =>
    cases i with
    | zero => exact .some like
    | succ i => exact ih i

theorem rel_set {xs ys : List Value} (all : List.Forall₂ C.Values xs ys) (i : Nat) {v v' : Value}
    (like : C.Values v v') : List.Forall₂ C.Values (xs.set i v) (ys.set i v') := by
  induction all generalizing i with
  | nil => exact .nil
  | cons first rest ih =>
    cases i with
    | zero => exact .cons like rest
    | succ i => exact .cons first (ih i)

/-- What is missing is null. -/
theorem Values.getD_null {x y : Option Value} (related : Option.Rel C.Values x y) :
    C.Values (x.getD .null) (y.getD .null) := by
  cases related with
  | none => exact .scalar rfl nofun
  | some like => exact like

theorem Values.getLastD {xs ys : List Value} (all : List.Forall₂ C.Values xs ys) :
    C.Values (xs.getLastD .null) (ys.getLastD .null) := by
  rw [List.getLastD_eq_getLast?, List.getLastD_eq_getLast?, List.getLast?_eq_getElem?,
    List.getLast?_eq_getElem?, all.length_eq]
  exact .getD_null (rel_getElem? all _)

/-- Whether a value can be called. -/
theorem rel_callable? {s s' : Session σ} (h : C.Sessions scopes scopes' s s') {name : String}
    (visible : C.Visible scopes scopes' name) :
    Option.Rel C.Values (callable? s.context name) (callable? s'.context name) := by
  have found := rel_or (h.argument visible) (h.contexts.bindings name)
  unfold callable?
  generalize (s.context.argument? name).or (s.context.binding? name) = v,
    (s'.context.argument? name).or (s'.context.binding? name) = v' at found
  cases found with
  | none => exact .none
  | some like =>
    have whole := like
    cases like with
    | lambda | adapter => exact .some whole
    | scalar scalar _ =>
      rename_i v _
      cases v with
      | lambda _ | adapter _ => cases scalar
      | _ => exact .none
    | _ => exact .none

namespace Lawful

variable (h : C.Lawful host later)
include h

/-- A request to the resolver of the context. -/
theorem request {Q : α → β → Prop} {ask : Hooks σ → Context → HookM σ (Option α)}
    {ask' : Hooks σ → Context → HookM σ (Option β)}
    (asks : ∀ hooks hooks' ctx ctx', C.Respects hooks hooks' → C.Contexts ctx ctx' →
      Matching C.Near (Option.Rel Q) (ask hooks ctx) (ask' hooks' ctx')) :
    Matching (C.Sessions scopes scopes') (Option.Rel Q) (Eval.claim host ask)
      (Eval.claim (host.showing later) ask') :=
  within fun ctx ctx' contexts => h.claim contexts fun hooks hooks' respects =>
    asks hooks hooks' ctx ctx' respects contexts

theorem truth {v v' : Value} (like : C.Values v v') :
    Matching (C.Sessions scopes scopes') Eq (Eval.truth host v) (Eval.truth (host.showing later) v') :=
  within fun _ _ contexts => (h.coherent.toBoolean contexts like true).bind_eq fun _ => .pure rfl

/-! ### Names and properties -/

theorem identifier {name : String} (visible : C.Visible scopes scopes' name) :
    Matching (C.Sessions scopes scopes') C.Values (Eval.identifier host name)
      (Eval.identifier (host.showing later) name) := by
  refine look fun s s' start => ?_
  have argument := start.argument visible
  generalize s.context.argument? name = found, s'.context.argument? name = found' at argument
  cases argument with
  | some like => exact .pure like
  | none =>
    refine (h.request fun _ _ _ _ respects contexts =>
      respects.get contexts .none (.string name)).bind fun _ _ answers => ?_
    cases answers with
    | some like => exact .pure like
    | none =>
      refine look fun s s' start => ?_
      have variable_ := start.contexts.bindings name
      generalize s.context.binding? name = found, s'.context.binding? name = found' at variable_
      cases variable_ with
      | some like => exact .pure like
      | none => exact fail rfl

theorem implicit (name : String) :
    Matching (C.Sessions scopes scopes') C.Values (Eval.implicit host name)
      (Eval.implicit (host.showing later) name) := by
  refine (h.request fun _ _ _ _ respects contexts => respects.implicit name contexts).bind
    fun _ _ answers => ?_
  cases answers with
  | some like => exact .pure like
  | none => exact fail rfl

section

variable {base base' key key' : Value} (likeBase : C.Values base base') (likeKey : C.Values key key')
include likeBase likeKey

theorem index : Matching (C.Sessions scopes scopes') Eq (Eval.index host base key)
    (Eval.index (host.showing later) base' key') := by
  refine within fun ctx ctx' contexts s s' near => ?_
  obtain ⟨outcomes, after⟩ := h.coherent.toNumber contexts likeKey ⟨.long, true⟩ near
  rw [likeBase.kindName_eq, likeKey.text_eq]
  generalize Coercion.toNumber host ctx ⟨.long, true⟩ key s = run,
    Coercion.toNumber (host.showing later) ctx' ⟨.long, true⟩ key' s' = run' at outcomes after ⊢
  obtain ⟨r, left⟩ := run
  obtain ⟨r', left'⟩ := run'
  dsimp only at outcomes after
  cases outcomes with
  -- the error is dropped, and the log is told of the two keys, which need only be alike
  | error e => exact ⟨.error _, h.near_note after _ _⟩
  | ok number =>
    cases number with
    | scalar _ _ =>
      rename_i v _ _
      cases v with
      | long n => exact ⟨.ok rfl, after⟩
      | _ => exact ⟨.error _, after⟩
    | _ => exact ⟨.error _, after⟩

theorem property : Matching (C.Sessions scopes scopes') C.Values (Eval.property host base key)
    (Eval.property (host.showing later) base' key') := by
  have missing (kind : base.kindName = base'.kindName) :
      Matching (C.Sessions scopes scopes') C.Values
        (Eval.fail (.propertyNotFound base.kindName key.text) : EvalM σ Value)
        (Eval.fail (.propertyNotFound base'.kindName key'.text)) :=
    fail (by rw [kind, likeKey.text_eq])
  refine (h.request fun _ _ _ _ respects contexts =>
    respects.get contexts (.some likeBase) likeKey).bind fun _ _ answers => ?_
  have position : Matching (C.Sessions scopes scopes') Eq (Eval.index host base key)
      (Eval.index (host.showing later) base' key') := h.index likeBase likeKey
  cases answers with
  | some like => exact .pure like
  | none =>
    cases likeBase with
    | list all | set all | array all =>
      refine position.bind_eq fun i => .pure (.getD_null ?_)
      cases i with
      | none => exact .none
      | some i => exact rel_getElem? all i
    | map keys values =>
      exact .pure (.getD_null
        (Entries.mapGet? h.oneToOne (entries_of_map keys values) likeKey))
    | scalar scalar _ =>
      cases base with
      | null => exact .pure (.scalar rfl nofun)
      | list _ | set _ | array _ | map _ | lambda _ | adapter _ => cases scalar
      | _ => exact missing rfl
    | _ => exact missing rfl

end

/-! ### Operators -/

section

variable {a a' b b' : Value} (like : C.Values a a')
include like

theorem binary (op : BinaryOp) (like' : C.Values b b') :
    Matching (C.Sessions scopes scopes') C.Values (Eval.binary host op a b)
      (Eval.binary (host.showing later) op a' b') := by
  have equality (decide : Bool → Bool) : Matching (C.Sessions scopes scopes') C.Values
      (Eval.within fun ctx => return .boolean (decide (← Comparison.equals host ctx a b)))
      (Eval.within fun ctx =>
        return .boolean (decide (← Comparison.equals (host.showing later) ctx a' b'))) :=
    within fun _ _ contexts =>
      (h.coherent.equals contexts like like').bind_eq fun _ => .pure (.scalar rfl nofun)
  have ordered (op : BinaryOp) : Matching (C.Sessions scopes scopes') C.Values
      (if a.isNull || b.isNull then return .boolean false
        else Eval.within fun ctx =>
          return .boolean (admits op (← Comparison.compareValues host ctx a b)))
      (if a'.isNull || b'.isNull then return .boolean false
        else Eval.within fun ctx =>
          return .boolean (admits op (← Comparison.compareValues (host.showing later) ctx a' b'))) := by
    rw [like.isNull_eq, like'.isNull_eq]
    split
    · exact .pure (.scalar rfl nofun)
    · exact within fun _ _ contexts =>
        (h.coherent.compareValues contexts like like').bind_eq fun _ => .pure (.scalar rfl nofun)
  have computed : Matching (C.Sessions scopes scopes') C.Values
      (Eval.ofExcept (Arithmetic.apply op a b) : EvalM σ Value)
      (Eval.ofExcept (Arithmetic.apply op a' b')) :=
    .outcome ((Outcomes.of_self (like.apply_eq like' op)
      fun _ made => .number (Arithmetic.isNumber_of_apply made)).mapError Halt.error)
  cases op with
  | equal => exact equality id
  | notEqual => exact equality not
  | less => exact ordered .less
  | greater => exact ordered .greater
  | lessEqual => exact ordered .lessEqual
  | greaterEqual => exact ordered .greaterEqual
  | concat =>
    exact within fun _ _ contexts => (h.coherent.toText contexts like).bind_eq fun _ =>
      (h.coherent.toText contexts like').bind_eq fun _ => .pure (.scalar rfl nofun)
  | _ => exact computed

theorem unary (op : UnaryOp) : Matching (C.Sessions scopes scopes') C.Values (Eval.unary host op a)
    (Eval.unary (host.showing later) op a') := by
  cases op with
  | negate =>
    exact .outcome ((Outcomes.of_self like.negate_eq
      fun _ made => .number (Arithmetic.isNumber_of_negate made)).mapError Halt.error)
  | not => exact (h.truth like).bind_eq fun _ => .pure (.scalar rfl nofun)
  | empty =>
    unfold Eval.unary
    rw [like.isEmpty_eq]
    exact .pure (.scalar rfl nofun)

theorem instanceOf (name : String) : Matching (C.Sessions scopes scopes') C.Values
    (Eval.instanceOf host a name) (Eval.instanceOf (host.showing later) a' name) := by
  refine (within fun _ _ contexts => h.resolveType contexts name).bind_eq fun found => ?_
  split
  · rw [like.isNull_eq, like.accepts_eq]
    exact .pure (.scalar rfl nofun)
  · exact fail rfl

end

/-- A lambda that is made under scopes in which its code may read what it reads. -/
theorem lambda {params : List String} {body : Expr}
    (legible : C.Legible scopes scopes' (Expr.lambda params body).reads) :
    Matching (C.Sessions scopes scopes') C.Values (Eval.lambda params body : EvalM σ Value)
      (Eval.lambda params body) := by
  intro s s' start
  have visible (n : String) (read : n ∈ (Expr.lambda params body).reads) :
      C.Visible s.context.scopes s'.context.scopes n := by
    rw [start.scopes, start.scopes']
    exact legible n read
  have numbered := h.fresh start.near.fresh
  exact ⟨.ok (start.contexts.lambda numbered.1 visible), start.scopes, start.scopes', start.contexts,
    start.near.flag, numbered.2, start.near.world⟩

/-! ### Assignment -/

theorem assignIdentifier (name : String) {v v' : Value} (like : C.Values v v') :
    Matching (C.Sessions scopes scopes') Eq (Eval.assignIdentifier host name v)
      (Eval.assignIdentifier (host.showing later) name v') := by
  refine (h.request fun _ _ _ _ respects contexts =>
    respects.set contexts .none (.string name) like).bind fun _ _ done => ?_
  cases done with
  | some _ => exact .pure rfl
  | none => exact setVariable name like

theorem stored? {collection collection' key key' v v' : Value} (likes : C.Values collection collection')
    (i : Option Nat) (likeKey : C.Values key key') (like : C.Values v v') :
    Option.Rel C.Values (Eval.stored? host collection i key v)
      (Eval.stored? (host.showing later) collection' i key' v') := by
  cases likes with
  | map keys values =>
    exact .some (.map_of_entries
      (Entries.mapInsert h.oneToOne (entries_of_map keys values) likeKey like))
  | list all | array all =>
    cases i with
    | none => exact .none
    | some i =>
      simp only [Eval.stored?, all.length_eq]
      split
      · exact .some (by constructor; exact rel_set all i like)
      · exact .none
  | set _ => cases i <;> exact .none
  | scalar scalar _ =>
    cases collection with
    | list _ | set _ | array _ | map _ | lambda _ | adapter _ => cases scalar
    | _ => cases i <;> exact .none
  | _ => cases i <;> exact .none

section

variable {base base' key key' v v' : Value} (likeBase : C.Values base base')
  (likeKey : C.Values key key') (like : C.Values v v')
include likeBase likeKey like

omit likeBase in
/-- An entry of the collection in a variable is set, at a place that is known. -/
theorem store (name : String) (i? : Option (Option Nat)) :
    Matching (C.Sessions scopes scopes') Eq
      (do
        match i?, (← get).context.binding? name with
        | some i, some collection =>
          match Eval.stored? host collection i key v with
          | some changed =>
            modifyContext fun ctx => ctx.setVariable name changed
            return true
          | none => return false
        | _, _ => return false : EvalM σ Bool)
      (do
        match i?, (← get).context.binding? name with
        | some i, some collection =>
          match Eval.stored? (host.showing later) collection i key' v' with
          | some changed =>
            modifyContext fun ctx => ctx.setVariable name changed
            return true
          | none => return false
        | _, _ => return false) := by
  refine look fun s s' start => ?_
  have variable_ := start.contexts.bindings name
  generalize s.context.binding? name = found, s'.context.binding? name = found' at variable_
  cases i? with
  | none => exact .pure rfl
  | some i =>
    cases variable_ with
    | none => exact .pure rfl
    | some likes =>
      have changed := h.stored? likes i likeKey like
      dsimp only
      generalize Eval.stored? host _ i key v = c,
        Eval.stored? (host.showing later) _ i key' v' = c' at changed
      cases changed with
      | none => exact .pure rfl
      | some likes => exact (setVariable name likes).bind_eq fun _ => .pure rfl

theorem storeInVariable (name : String) :
    Matching (C.Sessions scopes scopes') Eq (Eval.storeInVariable host name base key v)
      (Eval.storeInVariable (host.showing later) name base' key' v') := by
  have position : Matching (C.Sessions scopes scopes') Eq (Eval.index host base key)
      (Eval.index (host.showing later) base' key') := h.index likeBase likeKey
  unfold Eval.storeInVariable
  cases likeBase with
  | list _ | array _ => exact position.bind_eq fun i => Matching.bind_eq (.pure rfl) (h.store likeKey like name)
  | scalar scalar _ =>
    cases base with
    | list _ | set _ | array _ | map _ | lambda _ | adapter _ => cases scalar
    | _ => exact Matching.bind_eq (.pure rfl) (h.store likeKey like name)
  | _ => exact Matching.bind_eq (.pure rfl) (h.store likeKey like name)

theorem assignProperty (object : Expr) :
    Matching (C.Sessions scopes scopes') Eq (Eval.assignProperty host object base key v)
      (Eval.assignProperty (host.showing later) object base' key' v') := by
  have finish (done : Bool) : Matching (C.Sessions scopes scopes') Eq
      (if done then return () else Eval.fail (.propertyNotWritable base.kindName key.text) :
        EvalM σ Unit)
      (if done then return () else Eval.fail (.propertyNotWritable base'.kindName key'.text)) := by
    split
    · exact .pure rfl
    · exact fail (by rw [likeBase.kindName_eq, likeKey.text_eq])
  refine (h.request fun _ _ _ _ respects contexts =>
    respects.set contexts (.some likeBase) likeKey like).bind fun _ _ done => ?_
  cases done with
  | some _ => exact .pure rfl
  | none =>
    dsimp only
    split
    · exact (h.storeInVariable likeBase likeKey like _).bind_eq finish
    · exact Matching.bind_eq (.pure rfl) finish

end

end Lawful

end Correspondence

end ExprLang
