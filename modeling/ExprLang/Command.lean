import ExprLang.Command.Error
import ExprLang.Expression
import ExprLang.JsonValue.Printer
import ExprLang.JsonValue.Reader
import ExprLang.Value.Json

/-!
# Commands

What the command line does with a source: check its syntax, list its tokens, evaluate it. A
source is a template if an expression is introduced in it, and a bare expression otherwise.
-/

namespace ExprLang.Command

/-- Whether a source is a template. -/
def isTemplate (source : String) : Bool :=
  Text.occursIn ['$', '\x7b'] source.toList || Text.occursIn ['#', '\x7b'] source.toList

/-- The lexer for a source. -/
def lexer (source : String) : Lexer :=
  if isTemplate source then .ofTemplate source else .ofExpression source

/-- A failure of the parser as one of the command. -/
def ofParseFailure : Halt ParseError → CommandError
  | .error e => .parse e
  | .exhausted => .exhausted

/-- A failure of an evaluation as one of the command. -/
def ofEvalFailure : Halt EvalError → CommandError
  | .error e => .eval e
  | .exhausted => .exhausted

/-- Compiles a source. -/
def compile (source : String) : Except CommandError Expression :=
  let compiled :=
    if isTemplate source then Expression.compile source else Expression.compileStandalone source
  compiled.mapError ofParseFailure

/-! ### Listing tokens -/

/-- The tokens of a source up to its end, or the first error. -/
def tokenList (source : String) : Except CommandError (List Token) :=
  ((lexer source).items.mapM id).mapError .parse

/-- A token on a line of its own: kind, text and place. -/
def tokenLine (t : Token) : String :=
  t.kind.name ++ " " ++ t.text ++ " @" ++ t.position.text

/-! ### Evaluating -/

/-- What is evaluated, and how. -/
structure Evaluation where
  source : String
  /-- Variables, as the members of a JSON object in writing. -/
  vars : Option String
  /-- The name of the type that the result is converted to. -/
  expected : Option String
  /-- Whether null and empty text count as zero, whatever the settings say. -/
  coerceToZero : Bool
deriving Repr, Inhabited

/-- The variables in a JSON text. -/
def readVariables (text : String) : Except CommandError (Bindings Value) :=
  match JsonValue.read? text with
  | none => .error .invalidJson
  | some (.object members) => .ok (members.map fun m => (m.1, Value.ofJson m.2))
  | some _ => .error .variablesNotObject

/-- The context of an evaluation: the standard resolver and the given variables. -/
def contextOf (vars : Bindings Value) (coerceToZero : Bool) : Context :=
  { Context.ofEnvironment { Environment.empty with
      resolver := some .standard
      coerceToZero := if coerceToZero then some true else none } with
    bindings := vars }

/-- The result of a computation that starts in a context. -/
def runIn {α : Type} (ctx : Context) (body : EvalM Unit α) : Except CommandError α :=
  (body ⟨ctx, ⟨false, 0, ()⟩⟩).1.mapError ofEvalFailure

/-- The type with a name. -/
def expectedType (host : Host Unit) (ctx : Context) (name : String) :
    Except CommandError ValueType := do
  match ← runIn ctx (Eval.within fun ctx => ctx.resolveType host name) with
  | some t => return t
  | none => .error (.unknownType name)

/-- Carries out an evaluation, where the settings of the process say whether null and empty text
count as zero. -/
def evaluate (e : Evaluation) (processZero : Bool) : Except CommandError JsonValue := do
  let host := Host.plain processZero
  let compiled ← compile e.source
  let vars ← (e.vars.map readVariables).getD (.ok [])
  let ctx := contextOf vars e.coerceToZero
  let result ←
    match e.expected with
    | none => runIn ctx (compiled.evaluate host)
    | some name =>
      let t ← expectedType host ctx name
      runIn ctx (compiled.evaluateAs host t)
  return result.toJson

end ExprLang.Command
