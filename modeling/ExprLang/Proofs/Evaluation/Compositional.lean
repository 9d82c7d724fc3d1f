import ExprLang.Proofs.Evaluation.Lookup

/-!
# Compositional relations between evaluations

Two applications evaluate one expression, in contexts that hold the same variables and arguments and may
differ in their declarations. If every request, coercion and comparison that evaluation makes comes to
the same in both contexts (`Surroundings`), and the relation between the two evaluations passes from
single steps to sequences of them (`Compositional`), then it holds of every expression
(`Compositional.eval`), every template (`Compositional.template`) and every call
(`Compositional.invoke`). The syntax is gone through once, here; calls within calls are an induction on
their depth.

**Key theorem**: `Compositional.eval`.
-/

namespace ExprLang

open Eval

variable {σ τ : Type}

/-! ### Steps -/

/-- Whatever evaluation asks of its surroundings is related by `Q` in contexts that are related by
`C`. -/
structure Surroundings (host : Host σ) (host' : Host τ) (C : Context → Context → Prop)
    (Q : (α : Type) → HookM σ α → HookM τ α → Prop) : Prop extends Sequential Q where
  /-- The applications have the same objects. -/
  objects : host.objects = host'.objects
  /-- A number for a value with an identity. -/
  fresh : Q Nat HookM.freshId HookM.freshId
  /-- A lookup, which the resolver may claim. -/
  lookup : ∀ {ctx ctx' : Context} {α : Type} (l : Lookup α), C ctx ctx' →
    Q (Option α) (ctx.claim host fun r => l.ask (r.hooks host) ctx)
      (ctx'.claim host' fun r => l.ask (r.hooks host') ctx')
  /-- The type with a name. -/
  resolveType : ∀ {ctx ctx' : Context} (name : String), C ctx ctx' →
    Q (Option ValueType) (ctx.resolveType host name) (ctx'.resolveType host' name)
  /-- The truth of a condition, for which null has to be true or false. -/
  toBoolean : ∀ {ctx ctx' : Context} (v : Value), C ctx ctx' →
    Q (Option Bool) (Coercion.toBoolean host ctx true v) (Coercion.toBoolean host' ctx' true v)
  /-- The number that a key is as an index. -/
  toNumber : ∀ {ctx ctx' : Context} (v : Value), C ctx ctx' →
    Q Value (Coercion.toNumber host ctx ⟨.long, true⟩ v) (Coercion.toNumber host' ctx' ⟨.long, true⟩ v)
  /-- The text of a value. -/
  toText : ∀ {ctx ctx' : Context} (v : Value), C ctx ctx' →
    Q String (Coercion.toText host ctx v) (Coercion.toText host' ctx' v)
  /-- A test of equality. -/
  equals : ∀ {ctx ctx' : Context} (a b : Value), C ctx ctx' →
    Q Bool (monadLift (Comparison.equals host ctx a b)) (monadLift (Comparison.equals host' ctx' a b))
  /-- The order of two values. -/
  compareValues : ∀ {ctx ctx' : Context} (a b : Value), C ctx ctx' →
    Q Ordering (Comparison.compareValues host ctx a b) (Comparison.compareValues host' ctx' a b)

/-- A relation between evaluations that holds of single steps and passes on to sequences of them, where
the contexts are related by `C` and the computations on the surroundings by `Q`. -/
structure Compositional (host : Host σ) (host' : Host τ) (C : Context → Context → Prop)
    (Q : (α : Type) → HookM σ α → HookM τ α → Prop)
    (R : (α : Type) → EvalM σ α → EvalM τ α → Prop) : Prop where
  /-- What resolvers, coercions and comparisons do. -/
  surroundings : Surroundings host host' C Q
  /-- Related contexts have the same variables. -/
  bindings : ∀ {ctx ctx' : Context}, C ctx ctx' → ctx.bindings = ctx'.bindings
  /-- Related contexts have the same arguments. -/
  scopes : ∀ {ctx ctx' : Context}, C ctx ctx' → ctx.scopes = ctx'.scopes
  /-- A result that depends on nothing. -/
  outcome : ∀ {α : Type} (r : Except (Halt EvalError) α), R α (fun s => (r, s)) fun s => (r, s)
  /-- One evaluation after another. -/
  bind : ∀ {α β : Type} {m : EvalM σ α} {m' : EvalM τ α} {f : α → EvalM σ β}
    {f' : α → EvalM τ β}, R α m m' → (∀ a, R β (f a) (f' a)) → R β (m >>= f) (m' >>= f')
  /-- A look at the context. -/
  look : ∀ {α : Type} {f : Session σ → EvalM σ α} {f' : Session τ → EvalM τ α},
    (∀ s s', C s.context s'.context → R α (f s) (f' s')) → R α (get >>= f) (get >>= f')
  /-- A computation on the surroundings. -/
  within : ∀ {α : Type} {f : Context → HookM σ α} {f' : Context → HookM τ α},
    (∀ ctx ctx', C ctx ctx' → Q α (f ctx) (f' ctx')) → R α (within f) (within f')
  /-- A change of a variable. -/
  variable_ : ∀ name v, R Unit (modifyContext fun ctx => ctx.setVariable name v)
    (modifyContext fun ctx => ctx.setVariable name v)
  /-- A key as an index, after what it runs. -/
  index : ∀ base key, R (Option Nat) (index host base key) (index host' base key)
  /-- The call of a lambda among the properties of a value, after what it runs. -/
  callProperty : ∀ {call : Invoker σ} {call' : Invoker τ} (base : Value) (name : String)
    (args : List Value),
    R Value (property host base (.string name)) (property host' base (.string name)) →
      (∀ l args, R Value (call l args) (call' l args)) →
        R Value (callProperty host call base name args) (callProperty host' call' base name args)
  /-- The call of an adapter, after what it runs. -/
  callAdapter : ∀ {call : Invoker σ} {call' : Invoker τ} (a : Adapter) (args : List Value),
    (∀ l args, R Value (call l args) (call' l args)) →
      R Value (callAdapter call a args) (callAdapter call' a args)
  /-- The call of a lambda, after its body. -/
  body : ∀ {call : Invoker σ} {call' : Invoker τ} (l : Lambda) (args : List Value),
    R Value (expr host call l.body) (expr host' call' l.body) →
      R Value (invokeWith host call l args) (invokeWith host' call' l args)

namespace Compositional

variable {host : Host σ} {host' : Host τ} {C : Context → Context → Prop}
  {Q : (α : Type) → HookM σ α → HookM τ α → Prop}
  {R : (α : Type) → EvalM σ α → EvalM τ α → Prop}

section

variable (h : Compositional host host' C Q R)
include h

theorem pure {α : Type} (a : α) : R α (Pure.pure a) (Pure.pure a) :=
  h.outcome (.ok a)

theorem fail {α : Type} (e : EvalError) : R α (Eval.fail e) (Eval.fail e) :=
  h.outcome (.error (.error e))

theorem ofExcept {α : Type} (r : Except EvalError α) : R α (Eval.ofExcept r) (Eval.ofExcept r) :=
  h.outcome (r.mapError .error)

theorem lookup {α : Type} (l : Lookup α) :
    R (Option α) (Eval.claim host l.ask) (Eval.claim host' l.ask) :=
  h.within fun _ _ contexts => h.surroundings.lookup l contexts

theorem argument? {ctx ctx' : Context} (contexts : C ctx ctx') (name : String) :
    ctx.argument? name = ctx'.argument? name := by
  rw [Context.argument?, Context.argument?, h.scopes contexts]

theorem binding? {ctx ctx' : Context} (contexts : C ctx ctx') (name : String) :
    ctx.binding? name = ctx'.binding? name := by
  rw [Context.binding?, Context.binding?, h.bindings contexts]

theorem truth (v : Value) : R Bool (Eval.truth host v) (Eval.truth host' v) :=
  h.within fun _ _ contexts => h.surroundings.bind (h.surroundings.toBoolean v contexts) fun _ =>
    h.surroundings.pure _

/-! ### Names and properties -/

theorem identifier (name : String) :
    R Value (Eval.identifier host name) (Eval.identifier host' name) := by
  refine h.look fun s s' contexts => ?_
  rw [h.argument? contexts]
  split
  · exact h.pure _
  refine h.bind (h.lookup (.read none (.string name))) fun found => ?_
  split
  · exact h.pure _
  refine h.look fun s s' contexts => ?_
  rw [h.binding? contexts]
  split
  · exact h.pure _
  · exact h.fail _

theorem implicit (name : String) :
    R Value (Eval.implicit host name) (Eval.implicit host' name) := by
  refine h.bind (h.lookup (.implicit name)) fun found => ?_
  split
  · exact h.pure _
  · exact h.fail _

theorem property (base key : Value) :
    R Value (Eval.property host base key) (Eval.property host' base key) := by
  refine h.bind (h.lookup (.read (some base) key)) fun found => ?_
  split
  · exact h.pure _
  split
  · exact h.pure _
  · rw [h.surroundings.objects]
    exact h.pure _
  · exact h.bind (h.index _ key) fun _ => h.pure _
  · exact h.bind (h.index _ key) fun _ => h.pure _
  · exact h.bind (h.index _ key) fun _ => h.pure _
  · exact h.fail _

/-! ### Operators -/

theorem binary (op : BinaryOp) (a b : Value) :
    R Value (Eval.binary host op a b) (Eval.binary host' op a b) := by
  have steps := h.surroundings
  have ordered (op : BinaryOp) : R Value
      (if a.isNull || b.isNull then return .boolean false
        else Eval.within fun ctx =>
          return .boolean (admits op (← Comparison.compareValues host ctx a b)))
      (if a.isNull || b.isNull then return .boolean false
        else Eval.within fun ctx =>
          return .boolean (admits op (← Comparison.compareValues host' ctx a b))) := by
    split
    · exact h.pure _
    · refine h.within fun _ _ contexts => ?_
      exact steps.bind (steps.compareValues a b contexts) fun _ => steps.pure _
  unfold Eval.binary
  split
  · refine h.within fun _ _ contexts => ?_
    exact steps.bind (steps.equals a b contexts) fun _ => steps.pure _
  · refine h.within fun _ _ contexts => ?_
    exact steps.bind (steps.equals a b contexts) fun _ => steps.pure _
  · exact ordered .less
  · exact ordered .greater
  · exact ordered .lessEqual
  · exact ordered .greaterEqual
  · refine h.within fun _ _ contexts => ?_
    exact steps.bind (steps.toText a contexts) fun _ => steps.bind (steps.toText b contexts) fun _ =>
      steps.pure _
  · exact h.ofExcept _

theorem unary (op : UnaryOp) (v : Value) :
    R Value (Eval.unary host op v) (Eval.unary host' op v) := by
  cases op with
  | negate => exact h.ofExcept _
  | not => exact h.bind (h.truth v) fun _ => h.pure _
  | empty => exact h.pure _

theorem instanceOf (v : Value) (name : String) :
    R Value (Eval.instanceOf host v name) (Eval.instanceOf host' v name) := by
  refine h.bind (h.within fun _ _ => h.surroundings.resolveType name) fun found => ?_
  split
  · exact h.pure _
  · exact h.fail _

theorem lambda (params : List String) (body : Expr) :
    R Value (Eval.lambda params body) (Eval.lambda params body) := by
  refine h.within fun ctx ctx' contexts => ?_
  rw [Context.visibleArguments, Context.visibleArguments, h.scopes contexts]
  exact h.surroundings.bind h.surroundings.fresh fun _ => h.surroundings.pure _

/-! ### Assignment -/

theorem assignIdentifier (name : String) (v : Value) :
    R Unit (Eval.assignIdentifier host name v) (Eval.assignIdentifier host' name v) := by
  refine h.bind (h.lookup (.write none (.string name) v)) fun done => ?_
  split
  · exact h.pure _
  · exact h.variable_ name v

theorem stored? (collection : Value) (i : Option Nat) (key v : Value) :
    Eval.stored? host collection i key v = Eval.stored? host' collection i key v := by
  unfold Eval.stored?
  rw [h.surroundings.objects]

theorem storeInVariable (name : String) (base key v : Value) :
    R Bool (Eval.storeInVariable host name base key v)
      (Eval.storeInVariable host' name base key v) := by
  unfold Eval.storeInVariable
  dsimp only
  split
  -- lists and arrays: the key is an index, which is had before anything is stored
  all_goals try refine h.bind (h.index _ key) fun _ => ?_
  all_goals
    refine h.bind (h.pure _) fun i? => h.look fun s s' contexts => ?_
    rw [h.binding? contexts]
    split
    · rw [h.stored?]
      split
      · exact h.bind (h.variable_ name _) fun _ => h.pure _
      · exact h.pure _
    · exact h.pure _

theorem assignProperty (object : Expr) (base key v : Value) :
    R Unit (Eval.assignProperty host object base key v)
      (Eval.assignProperty host' object base key v) := by
  have finish (done : Bool) : R Unit
      (if done then return () else Eval.fail (.propertyNotWritable base.kindName key.text))
      (if done then return () else Eval.fail (.propertyNotWritable base.kindName key.text)) := by
    split
    · exact h.pure _
    · exact h.fail _
  refine h.bind (h.lookup (.write (some base) key v)) fun done => ?_
  split
  · exact h.pure _
  · dsimp only
    split
    · exact h.bind (h.storeInVariable _ base key v) finish
    · exact h.bind (h.pure _) finish

/-! ### Calls -/

section

variable {call : Invoker σ} {call' : Invoker τ}
  (calls : ∀ l args, R Value (call l args) (call' l args))
include calls

theorem invokeAdapter (a : Adapter) (name : String) (args : List Value) :
    R Value (Eval.invokeAdapter call a name args) (Eval.invokeAdapter call' a name args) := by
  unfold Eval.invokeAdapter
  split
  · exact h.callAdapter a args calls
  · exact h.fail _

theorem callValue (callee : Value) (args : List Value) :
    R Value (Eval.callValue call callee args) (Eval.callValue call' callee args) := by
  unfold Eval.callValue
  split
  · exact calls _ args
  · exact h.callAdapter _ args calls
  · exact h.fail _

theorem method (base : Value) (name : String) (args : List Value) :
    R Value (Eval.method host call base name args) (Eval.method host' call' base name args) := by
  refine h.bind (h.lookup (.method base name args)) fun found => ?_
  split
  · exact h.pure _
  split
  · exact h.invokeAdapter calls _ name args
  · exact h.callProperty base name args (h.property base _) calls

theorem function (qualifier : Option String) (name : String) (args : List Value) :
    R Value (Eval.function host call qualifier name args)
      (Eval.function host' call' qualifier name args) := by
  refine h.look fun s s' contexts => ?_
  have callee : callable? s.context name = callable? s'.context name := by
    unfold callable?
    rw [h.argument? contexts, h.binding? contexts]
  rw [callee]
  dsimp only
  split
  · exact h.callValue calls _ args
  refine h.bind (h.lookup (.function qualifier name args)) fun found => ?_
  split
  · exact h.pure _
  · exact h.fail _

end

/-! ### Expressions -/

/-- A choice by the truth of a value. -/
theorem choose {α : Type} {m : EvalM σ Value} {m' : EvalM τ Value} {yes no : EvalM σ α}
    {yes' no' : EvalM τ α} (condition : R Value m m') (hyes : R α yes yes') (hno : R α no no') :
    R α
      (do
        let v ← m
        if ← Eval.truth host v then yes else no)
      (do
        let v ← m'
        if ← Eval.truth host' v then yes' else no') := by
  refine h.bind condition fun v => h.bind (h.truth v) fun holds => ?_
  cases holds with
  | true => exact hyes
  | false => exact hno

/-- The truth of a value as a value. -/
theorem decision {m : EvalM σ Value} {m' : EvalM τ Value} (operand : R Value m m') :
    R Value
      (do
        let v ← m
        return .boolean (← Eval.truth host v))
      (do
        let v ← m'
        return .boolean (← Eval.truth host' v)) :=
  h.bind operand fun v => h.bind (h.truth v) fun _ => h.pure _

end

mutual

/-- Every expression, where the calls of lambdas are known to be related. -/
theorem expr (h : Compositional host host' C Q R) {call : Invoker σ} {call' : Invoker τ}
    (calls : ∀ l args, R Value (call l args) (call' l args)) :
    ∀ e : Expr, R Value (Eval.expr host call e) (Eval.expr host' call' e)
  | .integer _ => h.pure _
  | .float _ => h.pure _
  | .decimal _ => h.pure _
  | .string _ => h.pure _
  | .boolean _ => h.pure _
  | .null => h.pure _
  | .key _ => h.pure _
  | .identifier name => h.identifier name
  | .implicit name => h.implicit name
  | .access object key =>
    h.bind (h.expr calls object) fun base => h.bind (h.expr calls key) fun k => h.property base k
  | .method object name args =>
    h.bind (h.expr calls object) fun base => h.bind (h.all calls args) fun vs =>
      h.method calls base name vs
  | .function qualifier name args =>
    h.bind (h.all calls args) fun vs => h.function calls qualifier name vs
  | .call callee args =>
    h.bind (h.expr calls callee) fun f => h.bind (h.all calls args) fun vs =>
      h.callValue calls f vs
  | .unary op operand => h.bind (h.expr calls operand) fun v => h.unary op v
  | .binary op left right => by
    have operands (op : BinaryOp) : R Value
        (do
          let a ← Eval.expr host call left
          let b ← Eval.expr host call right
          Eval.binary host op a b)
        (do
          let a ← Eval.expr host' call' left
          let b ← Eval.expr host' call' right
          Eval.binary host' op a b) :=
      h.bind (h.expr calls left) fun a => h.bind (h.expr calls right) fun b => h.binary op a b
    cases op with
    | and => exact h.choose (h.expr calls left) (h.decision (h.expr calls right)) (h.pure _)
    | or => exact h.choose (h.expr calls left) (h.pure _) (h.decision (h.expr calls right))
    | _ => exact operands _
  | .conditional condition yes no =>
    h.choose (h.expr calls condition) (h.expr calls yes) (h.expr calls no)
  | .instanceOf operand name => h.bind (h.expr calls operand) fun v => h.instanceOf v name
  | .list items => h.bind (h.all calls items) fun _ => h.pure _
  | .set items => by
    refine h.bind (h.all calls items) fun _ => ?_
    rw [h.surroundings.objects]
    exact h.pure _
  | .map items => by
    refine h.bind (h.entries calls items) fun _ => ?_
    rw [h.surroundings.objects]
    exact h.pure _
  | .lambda params body => h.lambda params body
  | .assign target value =>
    h.bind (h.expr calls value) fun v => h.bind (h.assign calls target v) fun _ => h.pure v
  | .sequence items => h.bind (h.all calls items) fun _ => h.pure _

theorem all (h : Compositional host host' C Q R) {call : Invoker σ} {call' : Invoker τ}
    (calls : ∀ l args, R Value (call l args) (call' l args)) :
    ∀ es : List Expr, R (List Value) (Eval.all host call es) (Eval.all host' call' es)
  | [] => h.pure []
  | e :: es => h.bind (h.expr calls e) fun _ => h.bind (h.all calls es) fun _ => h.pure _

theorem entries (h : Compositional host host' C Q R) {call : Invoker σ} {call' : Invoker τ}
    (calls : ∀ l args, R Value (call l args) (call' l args)) :
    ∀ es : List (Expr × Expr),
      R (List (Value × Value)) (Eval.entries host call es) (Eval.entries host' call' es)
  | [] => h.pure []
  | e :: es => h.bind (h.entry calls e) fun _ => h.bind (h.entries calls es) fun _ => h.pure _

theorem entry (h : Compositional host host' C Q R) {call : Invoker σ} {call' : Invoker τ}
    (calls : ∀ l args, R Value (call l args) (call' l args)) :
    ∀ e : Expr × Expr, R (Value × Value) (Eval.entry host call e) (Eval.entry host' call' e)
  | (k, v) => h.bind (h.expr calls k) fun _ => h.bind (h.expr calls v) fun _ => h.pure _

theorem assign (h : Compositional host host' C Q R) {call : Invoker σ} {call' : Invoker τ}
    (calls : ∀ l args, R Value (call l args) (call' l args)) :
    ∀ (target : Expr) (v : Value),
      R Unit (Eval.assign host call target v) (Eval.assign host' call' target v)
  | .identifier name, v => h.assignIdentifier name v
  | .access object key, v =>
    h.bind (h.expr calls object) fun base => h.bind (h.expr calls key) fun k =>
      h.assignProperty object base k v
  -- no other expression has a place
  | .integer _, _ | .float _, _ | .decimal _, _ | .string _, _ | .boolean _, _ | .null, _
  | .implicit _, _ | .key _, _ | .method _ _ _, _ | .function _ _ _, _ | .call _ _, _
  | .unary _ _, _ | .binary _ _ _, _ | .conditional _ _ _, _ | .instanceOf _ _, _ | .list _, _
  | .set _, _ | .map _, _ | .lambda _ _, _ | .assign _ _, _ | .sequence _, _ => h.fail _

end

/-! ### Calls within calls, and templates -/

section

variable (h : Compositional host host' C Q R)
include h

/-- Every call of a lambda, by induction on how deep calls may be nested. -/
theorem invoke (depth : Nat) (l : Lambda) (args : List Value) :
    R Value (Eval.invoke host depth l args) (Eval.invoke host' depth l args) := by
  induction depth generalizing l args with
  | zero => exact h.outcome (.error .exhausted)
  | succ depth ih => exact h.body l args (h.expr ih l.body)

/-- Every expression. -/
theorem eval (e : Expr) : R Value (e.eval host) (e.eval host') :=
  h.expr (h.invoke callDepth) e

theorem parts {call : Invoker σ} {call' : Invoker τ}
    (calls : ∀ l args, R Value (call l args) (call' l args)) (ps : List TemplatePart) :
    R (List String) (Eval.parts host call ps) (Eval.parts host' call' ps) := by
  induction ps with
  | nil => exact h.pure []
  | cons part rest ih =>
    cases part with
    | text s => exact h.bind ih fun _ => h.pure _
    | expression e =>
      refine h.bind (h.expr calls e) fun v => ?_
      exact h.bind (h.within fun _ _ => h.surroundings.toText v) fun s =>
        h.bind ih fun _ => h.pure _

/-- Every template. -/
theorem template (t : Template) : R Value (t.eval host) (t.eval host') := by
  unfold Template.eval Eval.template
  split
  · exact h.eval _
  · exact h.bind (h.parts (h.invoke callDepth) _) fun _ => h.pure _

end

end Compositional

end ExprLang
