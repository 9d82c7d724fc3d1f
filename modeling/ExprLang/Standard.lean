import ExprLang.Comparison
import ExprLang.Pattern.Reader
import ExprLang.Text.Search

/-!
# The standard resolver

Everyday methods of texts, collections and maps, and the functions qualified by `fn`. With it the
hooks of every resolver are defined: `Resolver.hooks`.
-/

namespace ExprLang

namespace Standard

variable {σ : Type} (host : Host σ) (ctx : Context)

/-- The error of a text that is no pattern. -/
def invalidPattern (source : String) : EvalError :=
  .host ("invalid pattern '" ++ source ++ "': not a regular expression")

/-- Whether a text as a whole matches a pattern. -/
def matchesWhole (source s : String) : Except EvalError Bool :=
  match Pattern.readWhole? source with
  | some p => .ok (p.isMatch s.toList.toArray)
  | none => .error (invalidPattern source)

/-- The pieces of a text between the matches of a pattern. -/
def splitBy (source s : String) : Except EvalError Value :=
  match Pattern.read? source.toList with
  | some p => .ok (.array ((p.split s.toList.toArray).map fun cs => .string (String.ofList cs)))
  | none => .error (invalidPattern source)

/-- The character with a number, counted from zero. -/
def charAt (s : String) (index : Value) : HookM σ Value := do
  let position ←
    match ← Coercion.toNumber host ctx ⟨.long, true⟩ index with
    | .long n => pure (if n < 0 then none else some n.toInt.toNat)
    | _ => pure none
  match position.bind fun i => s.toList[i]? with
  | some c => return .char c
  | none =>
    throw (.host ("index out of range for string of length " ++ toString s.length))

/-- The method of a text with a name and arguments. -/
def textMethod (s method : String) (args : List Value) : HookM σ (Option Value) := do
  match method, args with
  | "length", [] => return some (.integer (.ofNat s.length))
  | "toUpperCase", [] => return some (.string (Text.toUpper s))
  | "toLowerCase", [] => return some (.string (Text.toLower s))
  | "trim", [] => return some (.string (Text.trim s))
  | "isEmpty", [] => return some (.boolean s.isEmpty)
  | "contains", [a] =>
    let part ← Coercion.toText host ctx a
    return some (.boolean (Text.occursIn part.toList s.toList))
  | "startsWith", [a] =>
    let part ← Coercion.toText host ctx a
    return some (.boolean (part.toList.isPrefixOf s.toList))
  | "endsWith", [a] =>
    let part ← Coercion.toText host ctx a
    return some (.boolean (part.toList.isSuffixOf s.toList))
  | "matches", [a] =>
    let source ← Coercion.toText host ctx a
    return some (.boolean (← .ofExcept (matchesWhole source s)))
  | "split", [a] =>
    let source ← Coercion.toText host ctx a
    return some (← .ofExcept (splitBy source s))
  | "charAt", [a] => return some (← charAt host ctx s a)
  | _, _ => return none

/-- Whether one of some values equals another. -/
def holdsEqual (items : List Value) (v : Value) : HookM σ Bool :=
  items.anyM fun item => Comparison.equals host ctx item v

/-- The method of a list, a set or an array with a name and arguments. -/
def collectionMethod (items : List Value) (method : String) (args : List Value) :
    HookM σ (Option Value) := do
  match method, args with
  | "size", [] => return some (.integer (.ofNat items.length))
  | "isEmpty", [] => return some (.boolean items.isEmpty)
  | "contains", [a] => return some (.boolean (← holdsEqual host ctx items a))
  | _, _ => return none

/-- The method of a map with a name and arguments. -/
def mapMethod (entries : List (Value × Value)) (method : String) (args : List Value) :
    HookM σ (Option Value) := do
  match method, args with
  | "size", [] => return some (.integer (.ofNat entries.length))
  | "isEmpty", [] => return some (.boolean entries.isEmpty)
  | "containsKey", [a] =>
    return some (.boolean (← holdsEqual host ctx (entries.map Prod.fst) a))
  | _, _ => return none

/-- The method of a value with a name and arguments. -/
def invoke (base : Value) (method : String) (args : List Value) : HookM σ (Option Value) :=
  match base with
  | .string s => textMethod host ctx s method args
  | .list items | .set items | .array items => collectionMethod host ctx items method args
  | .map entries => mapMethod host ctx entries method args
  | _ => return none

/-- The length of a value: the number of its elements, entries or characters. -/
def lengthOf (v : Value) : HookM σ Nat := do
  match v with
  | .null => return 0
  | .string s => return s.length
  | .list items | .set items | .array items => return items.length
  | .map entries => return entries.length
  | other => return (← Coercion.toText host ctx other).length

/-- The texts that a value contributes to a join: those of its elements, or its own. -/
def joinedTexts (v : Value) : HookM σ (List String) := do
  match v.elements? with
  | some items => items.mapM (Coercion.toText host ctx)
  | none => if v.isNull then return [] else return [← Coercion.toText host ctx v]

/-- The qualifier of the standard functions. -/
def qualifier : String := "fn"

/-- The standard function with a name and arguments. -/
def function (name : String) (args : List Value) : HookM σ (Option Value) := do
  match name, args with
  | "length", [a] => return some (.long (.ofNat (← lengthOf host ctx a)))
  | "toUpperCase", [a] => return some (.string (Text.toUpper (← Coercion.toText host ctx a)))
  | "toLowerCase", [a] => return some (.string (Text.toLower (← Coercion.toText host ctx a)))
  | "matches", [a, b] =>
    let s ← Coercion.toText host ctx a
    let source ← Coercion.toText host ctx b
    return some (.boolean (← .ofExcept (matchesWhole source s)))
  | "join", [a, b] =>
    let separator ← Coercion.toText host ctx b
    return some (.string (separator.intercalate (← joinedTexts host ctx a)))
  | _, _ => return none

/-- The hooks of the standard resolver. -/
def hooks : Hooks σ :=
  { Hooks.declining with
    invoke := fun ctx base method args => invoke host ctx base method args
    call := fun ctx by_ name args =>
      if by_ = some qualifier then function host ctx name args else return none }

end Standard

variable {σ : Type} (host : Host σ)

mutual

/-- The hooks of a resolver. -/
def Resolver.hooks : Resolver → Hooks σ
  | .standard => Standard.hooks host
  | .chain resolvers => .chain (Resolver.hooksOfAll resolvers)
  | .host id => host.hooks id

/-- The hooks of several resolvers. -/
def Resolver.hooksOfAll : List Resolver → List (Hooks σ)
  | [] => []
  | r :: rest => r.hooks :: Resolver.hooksOfAll rest

end

/-- The type with a name: one that needs no declaration, a declared one, or one that the resolver
knows. -/
def Context.resolveType (ctx : Context) (name : String) : HookM σ (Option ValueType) :=
  match ValueType.ofName? name with
  | some t => return some t
  | none =>
    match ctx.environment.enums.get? name with
    | some e => return some (.enum e)
    | none =>
      match ctx.environment.interfaces.get? name with
      | some i => return some (.interface i)
      | none =>
        match ctx.environment.resolver with
        | some r => host.watch ((r.hooks host).type ctx name)
        | none => return none

end ExprLang
