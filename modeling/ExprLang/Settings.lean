import ExprLang.Text.AsciiCase
import ExprLang.Text.Blank

/-!
# Settings of a process

What a process decides for all evaluations that do not decide it themselves: whether null and
empty text count as zero.
-/

namespace ExprLang

/-- The settings of a process. -/
structure Settings where
  /-- The decision of the application, if it made one. -/
  override : Option Bool
  /-- The environment variable that decides otherwise, if it is set. -/
  environment : Option String
deriving DecidableEq, Repr, Inhabited

namespace Settings

/-- The name of the environment variable. -/
def variableName : String := "ELEXPR_COERCE_TO_ZERO"

/-- Whether null and empty text count as zero: the application decides, else the environment
variable, which has to say `true`, in any case and perhaps between blanks. -/
def coerceToZero (s : Settings) : Bool :=
  match s.override with
  | some decision => decision
  | none =>
    match s.environment with
    | some text => Text.equalsIgnoringAsciiCase (Text.trim text) "true"
    | none => false

end Settings

end ExprLang
