/-!
# Arguments of the command line

The arguments name a command, at most one source, and for evaluations options. They are read from
left to right, and the first fault or request for help decides.
-/

namespace ExprLang.Command

/-- What the arguments ask for. -/
inductive Request where
  /-- Checks the syntax of a source; without a source the standard input is taken. -/
  | check (source : Option String)
  /-- Lists the tokens of a source. -/
  | tokens (source : Option String)
  /-- Evaluates a source. -/
  | eval (source vars expected : Option String) (pretty coerceToZero : Bool)
  | help
  | version
deriving DecidableEq, Repr, Inhabited

/-- Why arguments are not carried out. -/
inductive Refusal where
  /-- They do not follow the rules. -/
  | usage
  /-- They ask for help. -/
  | help
deriving DecidableEq, Repr, Inhabited

/-- The options of a command. -/
structure OptionNames where
  /-- Those with a value. -/
  valued : List String
  /-- Those without a value. -/
  flags : List String
  /-- Those without a value that also have one letter. -/
  letters : List (Char × String)
deriving Repr

/-- Arguments in order, as far as they have been read. -/
structure Given where
  source : Option String
  values : List (String × String)
  flags : List String
deriving Repr, Inhabited

namespace Given

/-- Nothing. -/
def empty : Given :=
  ⟨none, [], []⟩

/-- Adds a source; there may be only one. -/
def addSource (g : Given) (source : String) : Except Refusal Given :=
  if g.source.isSome then .error .usage else .ok { g with source := some source }

/-- Adds the value of an option, which may be given only once. -/
def addValue (g : Given) (name value : String) : Except Refusal Given :=
  if g.values.any (·.1 == name) then .error .usage
  else .ok { g with values := g.values ++ [(name, value)] }

/-- Adds a flag, which may be given only once. -/
def addFlag (g : Given) (name : String) : Except Refusal Given :=
  if name = "help" then .error .help
  else if g.flags.contains name then .error .usage
  else .ok { g with flags := g.flags ++ [name] }

/-- Adds flags by their letters. -/
def addLetters (names : OptionNames) (g : Given) : List Char → Except Refusal Given
  | [] => .ok g
  | c :: cs =>
    match names.letters.find? (·.1 == c) with
    | some (_, name) => do addLetters names (← g.addFlag name) cs
    | none => .error .usage

/-- The value of an option. -/
def value? (g : Given) (name : String) : Option String :=
  (g.values.find? (·.1 == name)).map Prod.snd

end Given

/-- The forms that an argument can have. -/
inductive Form where
  /-- `--`: all that follows are sources. -/
  | separator
  /-- `--name` or `--name=value`. -/
  | long (name : String) (value : Option String)
  /-- `-abc`. -/
  | short (letters : List Char)
  /-- Anything else, also `-`. -/
  | plain
deriving DecidableEq, Repr

/-- The form of an argument. -/
def Form.of (argument : String) : Form :=
  match argument.toList with
  | ['-', '-'] => .separator
  | '-' :: '-' :: cs =>
    let (name, rest) := cs.span (· != '=')
    .long (String.ofList name) (rest.tail?.map String.ofList)
  | '-' :: c :: cs => .short (c :: cs)
  | _ => .plain

/-- Reads the arguments of a command. -/
def readArguments (names : OptionNames) (g : Given) : List String → Except Refusal Given
  | [] => .ok g
  | a :: rest =>
    match Form.of a with
    | .separator => rest.foldlM Given.addSource g
    | .plain => do readArguments names (← g.addSource a) rest
    | .short letters => do readArguments names (← g.addLetters names letters) rest
    | .long name value =>
      if names.valued.contains name then
        match value, rest with
        | some v, rest => do readArguments names (← g.addValue name v) rest
        | none, v :: rest =>
          if Form.of v = .plain then do readArguments names (← g.addValue name v) rest
          else .error .usage
        | none, [] => .error .usage
      else if names.flags.contains name ∧ value = none then do
        readArguments names (← g.addFlag name) rest
      else .error .usage

/-- The options of commands that have none but help. -/
def helpOnly : OptionNames :=
  ⟨[], ["help"], [('h', "help")]⟩

/-- The options of evaluations. -/
def evalOptions : OptionNames :=
  ⟨["vars", "expect"], ["help", "pretty", "coerce-to-zero"], [('h', "help"), ('p', "pretty")]⟩

/-- The request of a command with its arguments. -/
def ofCommand (command : String) (rest : List String) : Except Refusal Request := do
  match command with
  | "check" => return .check (← readArguments helpOnly .empty rest).source
  | "tokens" => return .tokens (← readArguments helpOnly .empty rest).source
  | "eval" =>
    let g ← readArguments evalOptions .empty rest
    return .eval g.source (g.value? "vars") (g.value? "expect") (g.flags.contains "pretty")
      (g.flags.contains "coerce-to-zero")
  | _ => .error .usage

/-- The names of the commands. -/
def commandNames : List String :=
  ["check", "tokens", "eval", "help"]

/-- What the argument in front of any command asks for. -/
def ofLeading : Form → Option Request
  | .long "help" none => some .help
  | .long "version" none => some .version
  | .short ('h' :: _) => some .help
  | .short ('V' :: _) => some .version
  | _ => none

/-- What arguments ask for; `none` if they do not follow the rules. -/
def Request.ofArguments? (arguments : List String) : Option Request :=
  match arguments with
  | [] => none
  | ["help"] => some .help
  | ["help", command] => if commandNames.contains command then some .help else none
  | first :: rest =>
    match Form.of first with
    | .plain =>
      match ofCommand first rest with
      | .ok request => some request
      | .error .help => some .help
      | .error .usage => none
    | form => ofLeading form

end ExprLang.Command
