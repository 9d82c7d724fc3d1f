import ExprLang.Command
import ExprLang.Command.Arguments

/-!
# Runs of the command line

A run leads from the arguments of the program to its exit code and what it writes.
-/

namespace ExprLang.Command

/-- What a run leaves. -/
structure Outcome where
  code : UInt32
  output : String
  errors : String
deriving DecidableEq, Repr, Inhabited

/-- The code of a run whose arguments do not follow the rules. -/
def usageCode : UInt32 := 2

/-- How the program is called. -/
def usageText : String :=
  "Usage: elexpr <COMMAND>\n\n" ++
    "Commands:\n" ++
    "  check [EXPRESSION]   Validate syntax only\n" ++
    "  tokens [EXPRESSION]  Print the token stream\n" ++
    "  eval [EXPRESSION] [--vars <JSON>] [--expect <TYPE>] [-p|--pretty] [--coerce-to-zero]\n" ++
    "                       Evaluate and print the result as JSON\n"

/-- The version of the program. -/
def versionText : String := "elexpr 0.1.0\n"

/-- The source that a request works on, which the standard input holds if the arguments do not.
There line ends at the end do not count. -/
def sourceText (given : Option String) (input : String) : String :=
  match given with
  | some s => s
  | none => String.ofList (Text.dropTrailing (fun c => c == '\r' || c == '\n') input.toList)

/-- A success or a failure as the outcome of a run. -/
def Outcome.ofResult : Except CommandError String → Outcome
  | .ok output => ⟨0, output, ""⟩
  | .error e => ⟨1, "", e.message ++ "\n"⟩

/-- Carries out a request. -/
def Request.run (request : Request) (input : String) (processZero : Bool) : Outcome :=
  match request with
  | .help => ⟨0, usageText, ""⟩
  | .version => ⟨0, versionText, ""⟩
  | .check source => .ofResult do
    let _ ← compile (sourceText source input)
    return "Syntax is valid\n"
  | .tokens source => .ofResult do
    let ts ← tokenList (sourceText source input)
    return String.join (ts.map fun t => tokenLine t ++ "\n")
  | .eval source vars expected pretty coerceToZero => .ofResult do
    let json ← evaluate ⟨sourceText source input, vars, expected, coerceToZero⟩ processZero
    return (if pretty then json.pretty else json.compact) ++ "\n"

/-- Whether a request reads the standard input. -/
def Request.readsInput : Request → Bool
  | .check none | .tokens none | .eval none .. => true
  | _ => false

/-- Runs the program on arguments and the text of the standard input. -/
def run (arguments : List String) (input : String) (processZero : Bool) : Outcome :=
  match Request.ofArguments? arguments with
  | some request => request.run input processZero
  | none => ⟨usageCode, "", usageText⟩

end ExprLang.Command
