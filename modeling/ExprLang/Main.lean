import ExprLang.Command.Run
import ExprLang.Settings

/-!
# The program

It reads its arguments, its environment and its standard input, and writes what the command gives.
-/

open ExprLang

/-- The standard input up to its end. -/
partial def readInput (stream : IO.FS.Stream) (read : ByteArray) : IO ByteArray := do
  let chunk ← stream.read 65536
  if chunk.isEmpty then return read else readInput stream (read ++ chunk)

/-- The text that a request finds on the standard input; a terminal is not read. -/
def inputFor (request : Command.Request) : IO (Except CommandError String) := do
  let stream ← IO.getStdin
  if !request.readsInput || (← stream.isTty) then return .ok ""
  match String.fromUTF8? (← readInput stream .empty) with
  | some text => return .ok text
  | none => return .error .unreadableInput

/-- Runs the program. -/
def main (arguments : List String) : IO UInt32 := do
  let settings : Settings := ⟨none, ← IO.getEnv Settings.variableName⟩
  let outcome ←
    match Command.Request.ofArguments? arguments with
    | none => pure (Command.run arguments "" settings.coerceToZero)
    | some request =>
      match ← inputFor request with
      | .ok text => pure (request.run text settings.coerceToZero)
      | .error e => pure (.ofResult (.error e))
  (← IO.getStdout).putStr outcome.output
  (← IO.getStderr).putStr outcome.errors
  return outcome.code
