import ExprLang.EvalError
import ExprLang.ParseError

/-!
# Failures of commands

What can go wrong when a command is carried out, and what the user is told of it.
-/

namespace ExprLang

/-- The ways in which a command can fail. -/
inductive CommandError where
  | parse (e : ParseError)
  | eval (e : EvalError)
  /-- The variables are no JSON text. -/
  | invalidJson
  /-- The variables are a JSON text, but not that of an object. -/
  | variablesNotObject
  | unknownType (name : String)
  /-- The standard input is no text. -/
  | unreadableInput
  /-- Calls are nested too deep. -/
  | exhausted
deriving DecidableEq, Repr, Inhabited

/-- The message shown to the user. -/
def CommandError.message : CommandError → String
  | parse e => "Parse error: " ++ e.message
  | eval e => "Evaluation error: " ++ e.message
  | invalidJson => "Invalid JSON: not a JSON value"
  | variablesNotObject => "Variables must be a JSON object"
  | unknownType name => "Unknown type: '" ++ name ++ "'"
  | unreadableInput => "IO error: stream did not contain valid UTF-8"
  | exhausted => "Evaluation error: calls are nested too deep"

end ExprLang
