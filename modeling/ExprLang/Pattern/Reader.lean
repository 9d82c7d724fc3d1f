import ExprLang.Number.Digits
import ExprLang.Pattern
import ExprLang.Pattern.Property

/-!
# Patterns in writing

Reads regular expressions: alternatives, repetitions, groups with flags, bracketed classes with
set operations, and escapes. Look-around and back-references are not part of the notation. Every
reader takes a bound on its depth that `Pattern.read?` derives from the length of the text.
-/

namespace ExprLang

/-- What the flags of a group say. -/
structure PatternFlags where
  ignoreCase : Bool
  /-- The anchors match at the ends of lines too. -/
  multiLine : Bool
  /-- The point matches the newline too. -/
  dotAll : Bool
  /-- A carriage return ends a line as a newline does. -/
  returns : Bool
  /-- Repetitions are lazy unless marked. -/
  swapGreed : Bool
  /-- White space and comments count for nothing. -/
  extended : Bool
deriving DecidableEq, Repr, Inhabited

/-- What is left of a pattern in writing, the flags in force, and the names of the groups so
far. -/
structure PatternInput where
  rest : List Char
  flags : PatternFlags
  groups : List (List Char)

/-- A reader of a part of a pattern; it gives nothing if the part is malformed. -/
abbrev PatternReader (α : Type) :=
  StateT PatternInput Option α

namespace PatternReader

/-- Fails: the text is no pattern. -/
def malformed {α : Type} : PatternReader α :=
  failure

/-- The characters after white space and comments. -/
def dropIgnored (inComment : Bool) : List Char → List Char
  | [] => []
  | c :: cs =>
    if inComment then dropIgnored (c != '\n') cs
    else if Text.isBlank c then dropIgnored false cs
    else if c = '#' then dropIgnored true cs
    else c :: cs

/-- Passes what the flags tell to ignore. -/
def skipIgnored : PatternReader Unit :=
  modify fun s => if s.flags.extended then { s with rest := dropIgnored false s.rest } else s

/-- The next character, without passing it. -/
def peek? : PatternReader (Option Char) :=
  return (← get).rest.head?

/-- Passes `n` characters. -/
def drop (n : Nat) : PatternReader Unit :=
  modify fun s => { s with rest := s.rest.drop n }

/-- Passes the next character and gives it. -/
def next : PatternReader Char := do
  match (← get).rest with
  | [] => malformed
  | c :: cs =>
    modify fun s => { s with rest := cs }
    return c

/-- Passes a run of characters if it comes next, and tells whether it did. -/
def pass? (cs : List Char) : PatternReader Bool := do
  if cs.isPrefixOf (← get).rest then
    drop cs.length
    return true
  else
    return false

/-- Passes a run of characters that has to come next. -/
def pass (cs : List Char) : PatternReader Unit := do
  if !(← pass? cs) then malformed

/-! ### Escapes -/

/-- The value of a hexadecimal digit. -/
def hexDigit? (c : Char) : Option Nat :=
  if Text.isDigit c then some (c.toNat - '0'.toNat)
  else if 'a' ≤ c && c ≤ 'f' then some (c.toNat - 'a'.toNat + 10)
  else if 'A' ≤ c && c ≤ 'F' then some (c.toNat - 'A'.toNat + 10)
  else none

/-- The character with a code in hexadecimal digits. -/
def hexChar (ds : List Char) : PatternReader Char := do
  let values := ds.filterMap hexDigit?
  let code := values.foldl (fun n d => 16 * n + d) 0
  if ds.isEmpty || values.length != ds.length || !code.isValidChar then malformed
  return .ofNat code

/-- The character of an escape by code: `width` digits, or any number of them in braces. -/
def hexEscape (width : Nat) : PatternReader Char := do
  let rest := (← get).rest
  if ← pass? ['{'] then
    let ds := (rest.drop 1).takeWhile (· != '}')
    drop ds.length
    pass ['}']
    hexChar ds
  else
    drop width
    if rest.length < width then malformed
    hexChar (rest.take width)

/-- A set with all variants in case of its members, if case is ignored. -/
def inCase (set : CharSet) : PatternReader CharSet :=
  return if (← get).flags.ignoreCase then .folded set else set

/-- The set of a property: its one-letter name, or its name in braces. -/
def propertySet : PatternReader CharSet := do
  let name ←
    if ← pass? ['{'] then do
      let cs := (← get).rest.takeWhile (· != '}')
      drop cs.length
      pass ['}']
      pure cs
    else do
      pure [← next]
  match CharSet.named? name with
  | some set => inCase set
  | none => malformed

/-- What an escape stands for. -/
inductive Escape where
  | char (c : Char)
  | set (s : CharSet)
  | boundary (b : Boundary)

/-- Whether a backslash before a character that is no letter or digit makes it literal. -/
def isEscapable (c : Char) : Bool :=
  c.toNat < 128 && !c.isAlphanum

/-- The kinds of word boundaries that are named in braces. -/
def namedBoundary : PatternReader Boundary := do
  if ← pass? "\x7bstart\x7d".toList then return .wordStart
  else if ← pass? "\x7bend\x7d".toList then return .wordEnd
  else if ← pass? "\x7bstart-half\x7d".toList then return .afterNoWord
  else if ← pass? "\x7bend-half\x7d".toList then return .beforeNoWord
  else return .wordBoundary

/-- Reads what follows a backslash. -/
def escape : PatternReader Escape := do
  match ← next with
  | 'd' => return .set .digit
  | 'D' => return .set (.complement .digit)
  | 's' => return .set .blank
  | 'S' => return .set (.complement .blank)
  | 'w' => return .set .word
  | 'W' => return .set (.complement .word)
  | 'p' => return .set (← propertySet)
  | 'P' => return .set (.complement (← propertySet))
  | 'b' => return .boundary (← namedBoundary)
  | 'B' => return .boundary .notWordBoundary
  | 'A' => return .boundary .textStart
  | 'z' => return .boundary .textEnd
  | '<' => return .boundary .wordStart
  | '>' => return .boundary .wordEnd
  | 'n' => return .char '\n'
  | 't' => return .char '\t'
  | 'r' => return .char '\r'
  | 'f' => return .char '\x0c'
  | 'v' => return .char '\x0b'
  | 'a' => return .char '\x07'
  | 'x' => return .char (← hexEscape 2)
  | 'u' => return .char (← hexEscape 4)
  | 'U' => return .char (← hexEscape 8)
  | c => if isEscapable c then return .char c else malformed

/-! ### Bracketed classes -/

/-- The classes of ASCII characters that are named between colons. -/
def namedClass? (name : String) : Option CharSet :=
  match name with
  | "alnum" => some (.ranges [('0', '9'), ('A', 'Z'), ('a', 'z')])
  | "alpha" => some (.ranges [('A', 'Z'), ('a', 'z')])
  | "ascii" => some (.ranges [('\x00', '\x7f')])
  | "blank" => some (.ranges [('\t', '\t'), (' ', ' ')])
  | "cntrl" => some (.ranges [('\x00', '\x1f'), ('\x7f', '\x7f')])
  | "digit" => some (.ranges [('0', '9')])
  | "graph" => some (.ranges [('!', '~')])
  | "lower" => some (.ranges [('a', 'z')])
  | "print" => some (.ranges [(' ', '~')])
  | "punct" => some (.ranges [('!', '/'), (':', '@'), ('[', '\x60'), ('\x7b', '~')])
  | "space" => some (.ranges [('\t', '\r'), (' ', ' ')])
  | "upper" => some (.ranges [('A', 'Z')])
  | "word" => some (.ranges [('0', '9'), ('A', 'Z'), ('_', '_'), ('a', 'z')])
  | "xdigit" => some (.ranges [('0', '9'), ('A', 'F'), ('a', 'f')])
  | _ => none

/-- Reads a named class, if one comes next. -/
def namedClass : PatternReader (Option CharSet) := do
  let start ← get
  if ← pass? ['[', ':'] then
    let negated ← pass? ['^']
    let name := (← get).rest.takeWhile (· != ':')
    drop name.length
    match namedClass? (String.ofList name), ← pass? [':', ']'] with
    | some set, true =>
      let set ← inCase set
      return some (if negated then .complement set else set)
    | _, _ =>
      set start
      return none
  else
    return none

/-- A member of a class: a character, or a set by an escape. -/
def classMember : PatternReader Escape := do
  match ← next with
  | '\\' => escape
  | c => return .char c

/-- A character or a range of characters, or a set by an escape. -/
def classRange : PatternReader CharSet := do
  match ← classMember with
  | .boundary _ => malformed
  | .set s => do
    if (← get).rest.head? == some '-' && !isRangeEnd ((← get).rest.drop 1).head? then malformed
    return s
  | .char low => do
    skipIgnored
    let rest := (← get).rest
    if rest.head? == some '-' && !isRangeEnd (rest.drop 1).head? then
      drop 1
      skipIgnored
      match ← classMember with
      | .char high => if low ≤ high then inCase (.range low high) else malformed
      | _ => malformed
    else inCase (.single low)
where
  /-- Whether the character after a hyphen keeps the hyphen from making a range. -/
  isRangeEnd (c : Option Char) : Bool := c.isNone || c == some ']' || c == some '-'

/-- Hyphens at the start of a class stand for themselves. -/
def leadingHyphens : Nat → PatternReader (List CharSet)
  | 0 => return []
  | fuel + 1 => do
    if ← pass? ['-'] then return .single '-' :: (← leadingHyphens fuel)
    else return []

/-- The operators between the sets of a class. -/
def setOperator? : PatternReader (Option (CharSet → CharSet → CharSet)) := do
  if ← pass? ['&', '&'] then return some .inter
  else if ← pass? ['-', '-'] then return some fun s t => .inter s (.complement t)
  else if ← pass? ['~', '~'] then
    return some fun s t => .union (.inter s (.complement t)) (.inter t (.complement s))
  else return none

/-- Reads a class from behind its opening bracket, and its closing bracket. -/
def bracketed : Nat → PatternReader CharSet
  | 0 => malformed
  | fuel + 1 => do
    skipIgnored
    let negated ← pass? ['^']
    skipIgnored
    let hyphens ← leadingHyphens fuel
    let first ← if hyphens.isEmpty then pass? [']'] else pure false
    let bracket ← inCase (.single ']')
    let set ← operands fuel none (if first then [bracket] else hyphens)
    return if negated then .complement set else set
where
  /-- Reads members up to the closing bracket. `left` is the operand and the operator before
  them. -/
  operands (fuel : Nat) (left : Option (CharSet → CharSet)) (members : List CharSet) :
      PatternReader CharSet := do
    match fuel with
    | 0 => malformed
    | fuel + 1 =>
      skipIgnored
      let here := (left.getD id) (.unionAll members)
      if ← pass? [']'] then return here
      match ← setOperator? with
      | some op => operands fuel (some (op here)) []
      | none =>
        match ← namedClass with
        | some set => operands fuel left (members ++ [set])
        | none =>
          if ← pass? ['['] then
            let inner ← bracketed fuel
            operands fuel left (members ++ [inner])
          else
            let set ← classRange
            operands fuel left (members ++ [set])

/-! ### Groups -/

/-- Whether a character may stand in the name of a group. -/
def isNamePart (first : Bool) (c : Char) : Bool :=
  c == '_' || Text.isAlphabetic c ||
    (!first && (Text.isAlphanumeric c || c == '.' || c == '[' || c == ']'))

/-- Passes the name of a group, which no other group may have, and the bracket behind it. -/
def groupName : PatternReader Unit := do
  let name := (← get).rest.takeWhile (· != '>')
  match name with
  | [] => malformed
  | c :: cs => if !(isNamePart true c && cs.all (isNamePart false)) then malformed
  if (← get).groups.contains name then malformed
  modify fun s => { s with groups := name :: s.groups }
  drop name.length
  pass ['>']

/-- The flags with one of them turned on or off. Characters are always those of Unicode: the flag
for that may be turned on, but not off. -/
def setFlag? (on : Bool) (flags : PatternFlags) : Char → Option PatternFlags
  | 'i' => some { flags with ignoreCase := on }
  | 'm' => some { flags with multiLine := on }
  | 's' => some { flags with dotAll := on }
  | 'R' => some { flags with returns := on }
  | 'U' => some { flags with swapGreed := on }
  | 'x' => some { flags with extended := on }
  | 'u' => if on then some flags else none
  | _ => none

/-- Turns on the letters before a hyphen, and turns off those after it. A letter may come only
once, and one has to follow the hyphen. -/
def applyFlags (letters : List Char) : PatternReader Unit := do
  let on := letters.takeWhile (· != '-')
  let off := (letters.dropWhile (· != '-')).drop 1
  if (on ++ off).eraseDups.length != (on ++ off).length then malformed
  if letters.contains '-' && off.isEmpty then malformed
  let flags := (← get).flags
  match on.foldlM (setFlag? true) flags with
  | none => malformed
  | some flags =>
    match off.foldlM (setFlag? false) flags with
    | none => malformed
    | some flags => modify fun s => { s with flags := flags }

/-! ### Patterns -/

/-- One character, or one that differs in case only if case is ignored. -/
def literal (c : Char) : PatternReader Pattern :=
  return .char (← inCase (.single c))

/-- Reads a number of repetitions, with white space around it. -/
def count : PatternReader (Option Nat) := do
  modify fun s => { s with rest := s.rest.dropWhile Text.isBlank }
  let ds := (← get).rest.takeWhile Text.isDigit
  drop ds.length
  modify fun s => { s with rest := s.rest.dropWhile Text.isBlank }
  return Number.readDigits? ds

/-- The bounds of a repetition, if one comes next. -/
def bounds : PatternReader (Option (Nat × Option Nat)) := do
  skipIgnored
  if ← pass? ['*'] then return some (0, none)
  else if ← pass? ['+'] then return some (1, none)
  else if ← pass? ['?'] then return some (0, some 1)
  else if ← pass? ['{'] then
    match ← count with
    | none => malformed
    | some least =>
      let most ←
        if ← pass? [','] then count else pure (some least)
      let open_ := most.isNone
      pass ['}']
      skipIgnored
      if most.any (· < least) then malformed
      return some (least, if open_ then none else most)
  else return none

/-- The pattern with the repetitions that follow it. -/
def repetitions (p : Pattern) : Nat → PatternReader Pattern
  | 0 => malformed
  | fuel + 1 => do
    match ← bounds with
    | none => return p
    | some (least, most) =>
      let lazy ← pass? ['?']
      let greedy := lazy == (← get).flags.swapGreed
      repetitions (.repeated p least most greedy) fuel

/-- The characters that the point matches. -/
def point (flags : PatternFlags) : CharSet :=
  if flags.dotAll then .all
  else if flags.returns then .complement (.union (.single '\r') (.single '\n'))
  else .complement (.single '\n')

/-- Where the anchor for a start holds. -/
def startAnchor (flags : PatternFlags) : Boundary :=
  if !flags.multiLine then .textStart
  else if flags.returns then .returnStart
  else .lineStart

/-- Where the anchor for an end holds. -/
def endAnchor (flags : PatternFlags) : Boundary :=
  if !flags.multiLine then .textEnd
  else if flags.returns then .returnEnd
  else .lineEnd

/-- What begins with a given character and has no parts: a point, an anchor, an escape or a
literal. -/
def simple (c : Char) : PatternReader Pattern := do
  match c with
  | '.' => return .char (point (← get).flags)
  | '^' => return .boundary (startAnchor (← get).flags)
  | '$' => return .boundary (endAnchor (← get).flags)
  | '*' | '+' | '?' | '{' => malformed
  | '\\' =>
    match ← escape with
    | .char c => literal c
    | .set s => return .char s
    | .boundary b => return .boundary b
  | c => literal c

mutual

/-- Reads alternatives. -/
def alternatives : Nat → PatternReader Pattern
  | 0 => malformed
  | fuel + 1 => do
    let first ← sequence fuel
    if ← pass? ['|'] then return .either first (← alternatives fuel) else return first

/-- Reads items one after another, up to the end of the alternative. -/
def sequence : Nat → PatternReader Pattern
  | 0 => malformed
  | fuel + 1 => do
    skipIgnored
    match ← peek? with
    | none | some '|' | some ')' => return .empty
    | some _ =>
      let first ← item fuel
      return .concat first (← sequence fuel)

/-- Reads one item with its repetitions. -/
def item : Nat → PatternReader Pattern
  | 0 => malformed
  | fuel + 1 => do
    match ← next with
    | '(' => group fuel
    | '[' => do repetitions (.char (← bracketed fuel)) fuel
    | c => do repetitions (← simple c) fuel

/-- Reads a group from behind its opening parenthesis, or flags for the rest of the group around
it. -/
def group : Nat → PatternReader Pattern
  | 0 => malformed
  | fuel + 1 => do
    let outer := (← get).flags
    skipIgnored
    if ← pass? ['?', 'P', '<'] then groupName
    else if ← pass? ['?', '<'] then groupName
    else if ← pass? ['?'] then
      let letters := (← get).rest.takeWhile fun c => c != ':' && c != ')'
      drop letters.length
      applyFlags letters
      if ← pass? [')'] then
        if letters.isEmpty then malformed
        return .empty
      pass [':']
    let body ← alternatives fuel
    pass [')']
    modify fun s => { s with flags := outer }
    repetitions body fuel

end

end PatternReader

/-- Patterns of a greater extent are refused. -/
def Pattern.extentLimit : Nat := 327680

/-- The pattern that a text writes. -/
def Pattern.read? (source : List Char) : Option Pattern :=
  match PatternReader.alternatives (4 * source.length + 8) ⟨source, default, []⟩ with
  | some (p, ⟨[], _, _⟩) => if p.extent ≤ extentLimit then some p else none
  | _ => none

/-- The pattern that matches whole texts only. -/
def Pattern.readWhole? (source : String) : Option Pattern :=
  Pattern.read? ("^(?:".toList ++ source.toList ++ ")$".toList)

end ExprLang
