import ExprLang.ValueType

/-!
# Contexts

The state that an evaluation works on: variables, the arguments of the lambdas that are being
called, and the declarations of the application. A snapshot keeps the parts of a context that
outlive the evaluation.
-/

namespace ExprLang

/-- The state of an evaluation. -/
structure Context where
  /-- The values of the variables. -/
  bindings : Bindings Value
  /-- The arguments of the calls in progress, those of the innermost call first. -/
  scopes : List (Bindings Value)
  environment : Environment
deriving Inhabited

namespace Context

/-- A context with declarations and nothing else. -/
def ofEnvironment (environment : Environment) : Context :=
  ⟨[], [], environment⟩

/-- The value of a variable. -/
def binding? (ctx : Context) (name : String) : Option Value :=
  ctx.bindings.get? name

/-- The context with a variable set. -/
def setVariable (ctx : Context) (name : String) (value : Value) : Context :=
  { ctx with bindings := ctx.bindings.insert name value }

/-- The argument with a name in the innermost call that has one. -/
def argument? (ctx : Context) (name : String) : Option Value :=
  ctx.scopes.findSome? fun scope => Bindings.get? scope name

/-- The context within a call with some arguments. -/
def pushScope (ctx : Context) (scope : Bindings Value) : Context :=
  { ctx with scopes := scope :: ctx.scopes }

/-- The context after the innermost call. -/
def popScope (ctx : Context) : Context :=
  { ctx with scopes := ctx.scopes.tail }

@[simp] theorem popScope_pushScope (ctx : Context) (scope : Bindings Value) :
    (ctx.pushScope scope).popScope = ctx := rfl

/-- All arguments that can be seen, those of inner calls hiding those of outer ones. -/
def visibleArguments (ctx : Context) : Bindings Value :=
  ctx.scopes.foldr (fun scope seen => Bindings.insertAll seen scope) []

/-- What a value made in the context keeps of it. -/
def snapshot (ctx : Context) : Snapshot :=
  ⟨ctx.bindings, ctx.visibleArguments, ctx.environment⟩

end Context

/-- A context of its own with what was kept. -/
def SnapshotOf.toContext (s : Snapshot) : Context :=
  ⟨s.bindings, if s.arguments.isEmpty then [] else [s.arguments], s.environment⟩

end ExprLang
