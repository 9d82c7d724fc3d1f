import ExprLang.Arithmetic
import ExprLang.Halt
import ExprLang.Standard
import ExprLang.Template

/-!
# Evaluation

`Eval.expr` evaluates an expression by recursion on its syntax. The one thing that leads out of
the syntax is the call of a lambda, whose body may be any expression; evaluation takes what calls
a lambda as a parameter, and `Eval.invoke` ties the two together with a bound on the depth of
calls within calls. Running into the bound is an outcome of its own, apart from values and errors.
-/

namespace ExprLang

/-- All that an evaluation works on. -/
structure Session (σ : Type) where
  context : Context
  ambient : Ambient σ

/-- An evaluation. It may fail, or run into the bound on calls; what it has changed by then stays
changed. -/
abbrev EvalM (σ α : Type) :=
  ExceptT (Halt EvalError) (StateM (Session σ)) α

/-- What calls a lambda with arguments. -/
abbrev Invoker (σ : Type) :=
  Lambda → List Value → EvalM σ Value

namespace Eval

variable {σ α : Type} (host : Host σ)

/-- A computation on the surroundings of the current context. -/
def within (f : Context → HookM σ α) : EvalM σ α :=
  fun s =>
    let (result, ambient) := f s.context s.ambient
    (result.mapError .error, { s with ambient := ambient })

/-- Fails with an error. -/
def fail (e : EvalError) : EvalM σ α :=
  throw (.error e)

/-- A result that depends on nothing but its operands. -/
def ofExcept (r : Except EvalError α) : EvalM σ α :=
  ExceptT.mk (pure (r.mapError .error))

/-- Changes the context. -/
def modifyContext (f : Context → Context) : EvalM σ Unit :=
  modify fun s => { s with context := f s.context }

/-- Puts a request to the resolver of the context. -/
def claim (ask : Hooks σ → Context → HookM σ (Option α)) : EvalM σ (Option α) :=
  within fun ctx => ctx.claim host fun r => ask (r.hooks host) ctx

/-- The truth of a value as the condition of an operator. -/
def truth (v : Value) : EvalM σ Bool :=
  within fun ctx => return (← Coercion.toBoolean host ctx true v).getD false

/-! ### Names and properties -/

/-- The value of a name: an argument, what the resolver gives, or a variable. -/
def identifier (name : String) : EvalM σ Value := do
  match (← get).context.argument? name with
  | some v => return v
  | none =>
    match ← claim host fun hooks ctx => hooks.get ctx none (.string name) with
    | some v => return v
    | none =>
      match (← get).context.binding? name with
      | some v => return v
      | none => fail (.propertyNotFound "EvalContext" name)

/-- The value of `#name`, which only a resolver can give. -/
def implicit (name : String) : EvalM σ Value := do
  match ← claim host fun hooks ctx => hooks.implicit ctx name with
  | some v => return v
  | none => fail (.propertyNotFound "#" name)

/-- A key as an index into a list-like value; `none` if it is negative. A key that is no number is
a property that the value does not have. -/
def index (base key : Value) : EvalM σ (Option Nat) :=
  within fun ctx s =>
    match Coercion.toNumber host ctx ⟨.long, true⟩ key s with
    | (.ok (.long n), after) => (.ok (if n < 0 then none else some n.toInt.toNat), after)
    | (.ok _, after) => (.error (.propertyNotFound base.kindName key.text), after)
    | (.error e, after) =>
      (.error (.propertyNotFound base.kindName key.text),
        host.note (.dropped (.index base key) e) after)

/-- The property of a value: what the resolver gives, the value of a key in a map, or the element
with an index. What a map or a list does not hold is null, and so is any property of null. -/
def property (base key : Value) : EvalM σ Value := do
  match ← claim host fun hooks ctx => hooks.get ctx (some base) key with
  | some v => return v
  | none =>
    match base with
    | .null => return .null
    | .map entries => return (Value.mapGet? host.objects entries key).getD .null
    | .list items | .set items | .array items =>
      let i ← index host base key
      return (i.bind fun i => items[i]?).getD .null
    | other => fail (.propertyNotFound other.kindName key.text)

/-! ### Calls -/

/-- Calls the lambda of an adapter in the context that the adapter keeps. The current context and
its flag stay as they are. -/
def callAdapter (call : Invoker σ) (a : Adapter) (args : List Value) : EvalM σ Value :=
  fun s =>
    let (result, after) :=
      call a.lambda args ⟨a.bound.toContext, { s.ambient with resolved := false }⟩
    (result, ⟨s.context, { after.ambient with resolved := s.ambient.resolved }⟩)

/-- Calls an adapter by the name of a method, which has to be the one it implements. -/
def invokeAdapter (call : Invoker σ) (a : Adapter) (method : String) (args : List Value) :
    EvalM σ Value :=
  if a.methodName? = some method then callAdapter call a args
  else fail (.methodNotFound a.interface.name method)

/-- Calls a value. -/
def callValue (call : Invoker σ) (callee : Value) (args : List Value) : EvalM σ Value :=
  match callee with
  | .lambda l => call l args
  | .adapter a => callAdapter call a args
  | other => fail (.conversion other.text other.kindName "Lambda")

/-- Calls the lambda that a value has as a property. An error of looking for it is dropped. -/
def callProperty (call : Invoker σ) (base : Value) (name : String) (args : List Value) :
    EvalM σ Value :=
  fun s =>
    match property host base (.string name) s with
    | (.ok (.lambda l), after) => call l args after
    | (.ok _, after) => fail (.methodNotFound base.kindName name) after
    | (.error (.error e), after) =>
      fail (.methodNotFound base.kindName name)
        { after with ambient := host.note (.dropped (.method base name) e) after.ambient }
    | (.error .exhausted, after) => (.error .exhausted, after)

/-- Calls a method of a value: what the resolver gives, the method of an adapter, or a lambda that
the value has as a property of that name. -/
def method (call : Invoker σ) (base : Value) (name : String) (args : List Value) :
    EvalM σ Value := do
  match ← claim host fun hooks ctx => hooks.invoke ctx base name args with
  | some v => return v
  | none =>
    match base with
    | .adapter a => invokeAdapter call a name args
    | _ => callProperty host call base name args

/-- The lambda or the adapter that a name stands for: an argument, else a variable. -/
def callable? (ctx : Context) (name : String) : Option Value :=
  ((ctx.argument? name).or (ctx.binding? name)).filter fun
    | .lambda _ | .adapter _ => true
    | _ => false

/-- The name of a function with its qualifier. -/
def qualifiedName (qualifier : Option String) (name : String) : String :=
  match qualifier with
  | some q => q ++ ":" ++ name
  | none => name

/-- Calls a function: what a name without qualifier stands for, or what the resolver gives. -/
def function (call : Invoker σ) (qualifier : Option String) (name : String) (args : List Value) :
    EvalM σ Value := do
  let s ← get
  let callee := if qualifier.isNone then callable? s.context name else none
  match callee with
  | some callee => callValue call callee args
  | none =>
    match ← claim host fun hooks ctx => hooks.call ctx qualifier name args with
    | some v => return v
    | none => fail (.functionNotFound (qualifiedName qualifier name))

/-! ### Operators -/

/-- Whether an order between two values is the one that an operator asks for. -/
def admits : BinaryOp → Ordering → Bool
  | .less, o => o.isLT
  | .greater, o => o.isGT
  | .lessEqual, o => o.isLE
  | _, o => o.isGE

/-- Combines two values. With null no order holds. -/
def binary (op : BinaryOp) (a b : Value) : EvalM σ Value :=
  match op with
  | .equal => within fun ctx => return .boolean (← Comparison.equals host ctx a b)
  | .notEqual => within fun ctx => return .boolean (!(← Comparison.equals host ctx a b))
  | .less | .greater | .lessEqual | .greaterEqual =>
    if a.isNull || b.isNull then return .boolean false
    else within fun ctx => return .boolean (admits op (← Comparison.compareValues host ctx a b))
  | .concat => within fun ctx => do
    let s ← Coercion.toText host ctx a
    let t ← Coercion.toText host ctx b
    return .string (s ++ t)
  | _ => ofExcept (Arithmetic.apply op a b)

/-- Applies an operator to a value. -/
def unary (op : UnaryOp) (v : Value) : EvalM σ Value :=
  match op with
  | .negate => ofExcept (Arithmetic.negate v)
  | .not => return .boolean (!(← truth host v))
  | .empty => return .boolean v.isEmpty

/-- Whether a value other than null is of the type with a name. -/
def instanceOf (v : Value) (name : String) : EvalM σ Value := do
  match ← within fun ctx => ctx.resolveType host name with
  | some t => return .boolean (!v.isNull && t.accepts v)
  | none => fail (.unknownType name)

/-- A lambda with the arguments that can be seen here. -/
def lambda (params : List String) (body : Expr) : EvalM σ Value :=
  within fun ctx => return .lambda ⟨← HookM.freshId, params, body, ctx.visibleArguments⟩

/-! ### Assignment -/

/-- Assigns to a name: to what the resolver claims, else to a variable. -/
def assignIdentifier (name : String) (v : Value) : EvalM σ Unit := do
  match ← claim host fun hooks ctx => hooks.set ctx none (.string name) v with
  | some () => return ()
  | none => modifyContext fun ctx => ctx.setVariable name v

/-- A collection with an entry set. Only a map, and a list with an element at the index, can take
it. -/
def stored? (collection : Value) (i : Option Nat) (key v : Value) : Option Value :=
  match collection, i with
  | .map entries, _ => some (.map (Value.mapInsert host.objects entries key v))
  | .list items, some i => if i < items.length then some (.list (items.set i v)) else none
  | .array items, some i => if i < items.length then some (.array (items.set i v)) else none
  | _, _ => none

/-- Sets an entry of the collection in a variable, whose value was read as `base`; tells whether
it could. -/
def storeInVariable (name : String) (base key v : Value) : EvalM σ Bool := do
  let i? ←
    match base with
    | .list _ | .array _ => pure (some (← index host base key))
    | .map _ => pure (some none)
    | _ => pure none
  match i?, (← get).context.binding? name with
  | some i, some collection =>
    match stored? host collection i key v with
    | some changed =>
      modifyContext fun ctx => ctx.setVariable name changed
      return true
    | none => return false
  | _, _ => return false

/-- Assigns to a property, whose object is the value of an expression: to what the resolver
claims, else to the collection in a variable. -/
def assignProperty (object : Expr) (base key v : Value) : EvalM σ Unit := do
  match ← claim host fun hooks ctx => hooks.set ctx (some base) key v with
  | some () => return ()
  | none =>
    let done ←
      match object with
      | .identifier name => storeInVariable host name base key v
      | _ => pure false
    if done then return ()
    else fail (.propertyNotWritable base.kindName key.text)

/-! ### Expressions -/

mutual

/-- The value of an expression. -/
def expr (call : Invoker σ) : Expr → EvalM σ Value
  | .integer n => return if n < Nat.pow 2 63 then .long (.ofNat n) else .bigInteger n
  | .float x => return .double x
  | .decimal d => return .bigDecimal d
  | .string s => return .string s
  | .boolean b => return .boolean b
  | .null => return .null
  | .key name => return .string name
  | .identifier name => identifier host name
  | .implicit name => implicit host name
  | .access object key => do
    let base ← expr call object
    let k ← expr call key
    property host base k
  | .method object name args => do
    let base ← expr call object
    let vs ← all call args
    method host call base name vs
  | .function qualifier name args => do
    let vs ← all call args
    function host call qualifier name vs
  | .call callee args => do
    let f ← expr call callee
    let vs ← all call args
    callValue call f vs
  | .unary op operand => do
    let v ← expr call operand
    unary host op v
  | .binary .and left right => do
    let a ← expr call left
    if ← truth host a then
      let b ← expr call right
      return .boolean (← truth host b)
    else return .boolean false
  | .binary .or left right => do
    let a ← expr call left
    if ← truth host a then return .boolean true
    else
      let b ← expr call right
      return .boolean (← truth host b)
  | .binary op left right => do
    let a ← expr call left
    let b ← expr call right
    binary host op a b
  | .conditional condition yes no => do
    let c ← expr call condition
    if ← truth host c then expr call yes else expr call no
  | .instanceOf operand name => do
    let v ← expr call operand
    instanceOf host v name
  | .list items => return .list (← all call items)
  | .set items => return .setOf host.objects (← all call items)
  | .map items => do
    let es ← entries call items
    return .map (es.foldl (fun m e => Value.mapInsert host.objects m e.1 e.2) [])
  | .lambda params body => lambda params body
  | .assign target value => do
    let v ← expr call value
    assign call target v
    return v
  | .sequence items => return (← all call items).getLastD .null
termination_by structural e => e

/-- The values of several expressions. -/
def all (call : Invoker σ) : List Expr → EvalM σ (List Value)
  | [] => return []
  | e :: es => do
    let v ← expr call e
    let vs ← all call es
    return v :: vs
termination_by structural es => es

/-- The entries of a map. -/
def entries (call : Invoker σ) : List (Expr × Expr) → EvalM σ (List (Value × Value))
  | [] => return []
  | e :: es => do
    let v ← entry call e
    let vs ← entries call es
    return v :: vs
termination_by structural es => es

/-- An entry of a map. -/
def entry (call : Invoker σ) : Expr × Expr → EvalM σ (Value × Value)
  | (k, v) => do
    let key ← expr call k
    let value ← expr call v
    return (key, value)
termination_by structural e => e

/-- Assigns a value to what an expression denotes. -/
def assign (call : Invoker σ) : Expr → Value → EvalM σ Unit
  | .identifier name, v => assignIdentifier host name v
  | .access object key, v => do
    let base ← expr call object
    let k ← expr call key
    assignProperty host object base k v
  | _, _ => fail (.propertyNotWritable "expression" "")
termination_by structural e => e

end

/-- The text of the parts of a template, one after another. -/
def parts (call : Invoker σ) : List TemplatePart → EvalM σ (List String)
  | [] => return []
  | .text s :: rest => return s :: (← parts call rest)
  | .expression e :: rest => do
    let v ← expr host call e
    let s ← within fun ctx => Coercion.toText host ctx v
    return s :: (← parts call rest)

/-- The value of a template: that of its expression if it is nothing else, else a text. -/
def template (call : Invoker σ) (t : Template) : EvalM σ Value :=
  match t.singleExpression? with
  | some e => expr host call e
  | none => return .string (String.join (← parts host call t.parts))

/-! ### Lambdas -/

/-- The arguments of a call by the names of the parameters, on top of those that the lambda has
captured. Arguments that have no parameter are dropped. -/
def scopeOf (l : Lambda) (args : List Value) : Bindings Value :=
  Bindings.insertAll l.captured (l.params.zip args)

/-- Calls a lambda, where `call` calls those in its body. The scope of its arguments is closed
again, whether the call fails or not. -/
def invokeWith (call : Invoker σ) : Invoker σ :=
  fun l args =>
    if args.length < l.params.length then fail (.lambdaArity l.params.length args.length)
    else fun s =>
      let (result, after) :=
        expr host call l.body { s with context := s.context.pushScope (scopeOf l args) }
      (result, { after with context := after.context.popScope })

/-- Calls a lambda with at most `depth` calls within one another. -/
def invoke : Nat → Invoker σ
  | 0 => fun _ _ => throw .exhausted
  | depth + 1 => invokeWith host (invoke depth)

end Eval

/-- How deep calls may be nested. -/
def callDepth : Nat := 1000000

/-- Calls a lambda. -/
def LambdaOf.invoke {σ : Type} (l : Lambda) (host : Host σ) (args : List Value) : EvalM σ Value :=
  Eval.invoke host callDepth l args

/-- Calls an adapter. -/
def AdapterOf.call {σ : Type} (a : Adapter) (host : Host σ) (args : List Value) : EvalM σ Value :=
  Eval.callAdapter (Eval.invoke host callDepth) a args

/-- Calls an adapter by the name of its method. -/
def AdapterOf.invoke {σ : Type} (a : Adapter) (host : Host σ) (method : String)
    (args : List Value) : EvalM σ Value :=
  Eval.invokeAdapter (Eval.invoke host callDepth) a method args

/-- The value of an expression. -/
def Expr.eval {σ : Type} (e : Expr) (host : Host σ) : EvalM σ Value :=
  Eval.expr host (Eval.invoke host callDepth) e

/-- The value of a template. -/
def Template.eval {σ : Type} (t : Template) (host : Host σ) : EvalM σ Value :=
  Eval.template host (Eval.invoke host callDepth) t

end ExprLang
