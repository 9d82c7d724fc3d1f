import ExprLang.Context
import ExprLang.Value.Equality

/-!
# The application around the language

What the language asks of the application that uses it. A resolver answers seven kinds of requests
(`Hooks`); each hook may read the context, fail, and change what surrounds it (`Ambient`): the
flag by which lookups report success, and the application's own state.
-/

namespace ExprLang

/-- What resolvers can change. -/
structure Ambient (σ : Type) where
  /-- Whether the last request was resolved. -/
  resolved : Bool
  /-- The next number for a value with an identity. -/
  fresh : Nat
  /-- The state of the application. -/
  world : σ
deriving Repr, Inhabited

/-- A computation that may fail and may change its surroundings, which it does even if it
fails. -/
abbrev HookM (σ α : Type) :=
  ExceptT EvalError (StateM (Ambient σ)) α

namespace HookM

variable {σ α : Type}

/-- Sets the flag. -/
def setResolved (resolved : Bool) : HookM σ Unit :=
  modify fun s => { s with resolved := resolved }

/-- A result that neither reads nor changes its surroundings. -/
def ofExcept (r : Except EvalError α) : HookM σ α :=
  fun s => (r, s)

/-- A number that no other value has. -/
def freshId : HookM σ Nat :=
  modifyGet fun s => (s.fresh, { s with fresh := s.fresh + 1 })

/-- Runs a computation with the flag lowered, and puts the flag back afterwards, whether the
computation fails or not. -/
def keepingFlag (body : HookM σ α) : HookM σ α :=
  fun s =>
    let (result, after) := body { s with resolved := false }
    (result, { after with resolved := s.resolved })

/-- The first answer that the computations give, which run until one gives an answer or fails. -/
def firstSome : List (HookM σ (Option α)) → HookM σ (Option α)
  | [] => return none
  | ask :: rest => do
    match ← ask with
    | some answer => return some answer
    | none => firstSome rest

end HookM

/-- The requests that a resolver answers. An answer claims the request; without one it goes on to
the next resolver or to the rules of the language. -/
structure Hooks (σ : Type) where
  /-- Converts a value to a type. -/
  convert : Context → Value → ValueType → HookM σ (Option Value)
  /-- Reads a property of a value, or a name by itself. -/
  get : Context → Option Value → Value → HookM σ (Option Value)
  /-- Writes a property of a value, or a name by itself. -/
  set : Context → Option Value → Value → Value → HookM σ (Option Unit)
  /-- Calls a method of a value. -/
  invoke : Context → Value → String → List Value → HookM σ (Option Value)
  /-- Calls a function, by its qualifier and its name. -/
  call : Context → Option String → String → List Value → HookM σ (Option Value)
  /-- Gives the value of `#name`. -/
  implicit : Context → String → HookM σ (Option Value)
  /-- Gives the type with a name. -/
  type : Context → String → HookM σ (Option ValueType)

namespace Hooks

variable {σ : Type}

/-- Claims nothing. -/
def declining : Hooks σ where
  convert _ _ _ := return none
  get _ _ _ := return none
  set _ _ _ _ := return none
  invoke _ _ _ _ := return none
  call _ _ _ _ := return none
  implicit _ _ := return none
  type _ _ := return none

/-- Asks several resolvers in turn; the first claim wins. -/
def chain (hooks : List (Hooks σ)) : Hooks σ where
  convert ctx v t := .firstSome (hooks.map fun h => h.convert ctx v t)
  get ctx base property := .firstSome (hooks.map fun h => h.get ctx base property)
  set ctx base property v := .firstSome (hooks.map fun h => h.set ctx base property v)
  invoke ctx base method args := .firstSome (hooks.map fun h => h.invoke ctx base method args)
  call ctx qualifier name args := .firstSome (hooks.map fun h => h.call ctx qualifier name args)
  implicit ctx name := .firstSome (hooks.map fun h => h.implicit ctx name)
  type ctx name := .firstSome (hooks.map fun h => h.type ctx name)

end Hooks

/-- The places where the language drops an error and goes on. -/
inductive Recovery where
  /-- A test of equality, which then finds the two values unequal. -/
  | equality
  /-- The key of a list-like value, which then is no index of it. -/
  | index (base key : Value)
  /-- The search for a lambda among the properties of a value, which then has none of the name. -/
  | method (base : Value) (name : String)

/-- What the application's log is told. -/
inductive Note where
  /-- A request goes to a resolver. -/
  | asked
  /-- A resolver fails. -/
  | failed (e : EvalError)
  /-- The language drops an error. -/
  | dropped (place : Recovery) (e : EvalError)

/-- The application around the language. -/
structure Host (σ : Type) where
  /-- Equality and order of the application's objects. -/
  objects : ObjectModel
  /-- What the clock of the system shows. -/
  now : Time.Instant
  /-- Whether null and empty text count as zero where a context does not say. -/
  coerceToZero : Bool
  /-- The editors, which make values of texts. -/
  edit : Nat → String → Except EvalError Value
  /-- The resolvers of the application. -/
  hooks : Nat → Hooks σ
  /-- The log, which is part of the application's state. -/
  log : Note → σ → σ := fun _ world => world

namespace Host

variable {σ α : Type}

/-- The surroundings after the log has been told something. -/
def note (host : Host σ) (n : Note) (s : Ambient σ) : Ambient σ :=
  { s with world := host.log n s.world }

/-- Puts a request to a resolver, and tells the log of it. -/
def watch (host : Host σ) (ask : HookM σ α) : HookM σ α :=
  fun s =>
    match ask (host.note .asked s) with
    | (.ok answer, after) => (.ok answer, after)
    | (.error e, after) => (.error e, host.note (.failed e) after)

/-- An application without objects, editors or resolvers. -/
def plain (coerceToZero : Bool) : Host σ where
  objects := .plain
  now := ⟨0, 0⟩
  coerceToZero := coerceToZero
  edit _ _ := .error (.host "no editor")
  hooks _ := .declining

end Host

end ExprLang
