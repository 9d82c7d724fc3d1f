import ExprLang.ParseError
import ExprLang.Text.Alphabet

/-!
# The lexer

A lexer holds what is left of a text, the place it has reached, and the modes it is in: literal
text at the bottom, then an expression, then any number of open braces inside it. `Lexer.next`
reads one token; after an error or at the end of the text it can be asked again. `Lexer.items`
reads up to and including the end or the first error, and ends because every other token is at
least one character long (`length_next_lt`).
-/

namespace ExprLang

/-- What a lexer reads next: literal text, an expression, or the inside of braces in one. -/
inductive LexMode where
  | text
  | expression
  | braces
deriving DecidableEq, Repr, Inhabited

/-- A lexer in the middle of a text. -/
structure Lexer where
  /-- The characters not yet read. -/
  rest : List Char
  /-- The place of the first of them. -/
  position : Position
  /-- The open modes, innermost first; with none open the lexer reads literal text. -/
  modes : List LexMode
  /-- The last word was read as the qualifier of a function call, so the next one is its name. -/
  suffixPending : Bool
deriving DecidableEq, Repr, Inhabited

namespace Lexer

/-- Reads a template: literal text with expressions in it. -/
def ofTemplate (source : String) : Lexer :=
  ⟨source.toList, .start, [], false⟩

/-- Reads a bare expression, as if its opening bracket had been read already. -/
def ofExpression (source : String) : Lexer :=
  ⟨source.toList, .start, [.expression], false⟩

/-- The innermost mode. -/
def mode (l : Lexer) : LexMode :=
  l.modes.head?.getD .text

/-- The number of brackets open. -/
def depth (l : Lexer) : Nat :=
  l.modes.length

/-- The lexer after the next `n` characters. -/
def skip (l : Lexer) (n : Nat) : Lexer :=
  { l with rest := l.rest.drop n, position := l.position.advanceOver (l.rest.take n) }

/-- Opens a mode. -/
def push (l : Lexer) (mode : LexMode) : Lexer :=
  { l with modes := mode :: l.modes }

/-- Closes the innermost mode; literal text cannot be closed. -/
def pop (l : Lexer) : Lexer :=
  { l with modes := l.modes.tail }

@[simp] theorem rest_skip (l : Lexer) (n : Nat) : (l.skip n).rest = l.rest.drop n := rfl

@[simp] theorem rest_push (l : Lexer) (m : LexMode) : (l.push m).rest = l.rest := rfl

@[simp] theorem rest_pop (l : Lexer) : l.pop.rest = l.rest := rfl

/-! ### Character classes -/

/-- The characters that may stand between the tokens of an expression. -/
def isGap (c : Char) : Bool :=
  c == ' ' || c == '\t' || c == '\n' || c == '\r'

/-- The characters that begin a word. -/
def isWordStart (c : Char) : Bool :=
  Text.isAlphabetic c || c == '_' || c == '$'

/-- The characters that continue a word. -/
def isWordPart (c : Char) : Bool :=
  Text.isAlphanumeric c || c == '_' || c == '$'

theorem isWordPart_of_isWordStart {c : Char} (h : isWordStart c = true) :
    isWordPart c = true := by
  simp only [isWordStart, isWordPart, Bool.or_eq_true] at h ⊢
  rcases h with (h | h) | h
  · exact .inl (.inl (Text.isAlphanumeric_of_isAlphabetic h))
  · exact .inl (.inr h)
  · exact .inr h

/-! ### Literal text -/

/-- The literal text up to the next expression start, escapes resolved, with the number of
characters it takes in the source. A backslash before an expression start makes it literal. -/
def literalRun : List Char → List Char × Nat
  | [] => ([], 0)
  | '$' :: '{' :: _ => ([], 0)
  | '#' :: '{' :: _ => ([], 0)
  | '\\' :: '$' :: '{' :: cs =>
    let (text, n) := literalRun cs
    ('$' :: '{' :: text, n + 3)
  | '\\' :: '#' :: '{' :: cs =>
    let (text, n) := literalRun cs
    ('#' :: '{' :: text, n + 3)
  | c :: cs =>
    let (text, n) := literalRun cs
    (c :: text, n + 1)

/-- The next token where literal text is read. -/
def nextInText (l : Lexer) : Token × Lexer :=
  match l.rest with
  | [] => (.atEnd l.position, l)
  | '$' :: '{' :: _ =>
    (⟨.startDynamic, TokenKind.startDynamic.image, l.position⟩, (l.skip 2).push .expression)
  | '#' :: '{' :: _ =>
    (⟨.startDeferred, TokenKind.startDeferred.image, l.position⟩, (l.skip 2).push .expression)
  | cs =>
    let (text, n) := literalRun cs
    (⟨.literalText, String.ofList text, l.position⟩, l.skip n)

/-! ### Strings -/

/-- How the characters after an opening quote read as a string. Each outcome counts the
characters it has read. -/
inductive StringScan where
  /-- Up to and including the closing quote. -/
  | closed (text : List Char) (width : Nat)
  /-- Up to a character that must not follow a backslash. -/
  | badEscape (ch : Char) (width : Nat)
  /-- To the end of the text, without a closing quote. -/
  | unterminated (width : Nat)
deriving DecidableEq, Repr

/-- The outcome when `n` more characters, which stand for `c`, come first. -/
def StringScan.after (c : Char) (n : Nat) : StringScan → StringScan
  | closed text width => closed (c :: text) (width + n)
  | badEscape ch width => badEscape ch (width + n)
  | unterminated width => unterminated (width + n)

/-- Whether a backslash may stand before the character. -/
def isEscapable (c : Char) : Bool :=
  c == '\\' || c == '\'' || c == '"'

/-- Reads what follows an opening quote. -/
def scanString (quote : Char) : List Char → StringScan
  | [] => .unterminated 0
  | c :: cs =>
    if c = quote then .closed [] 1
    else if c = '\\' then
      match cs with
      | [] => .unterminated 1
      | e :: cs => if isEscapable e then (scanString quote cs).after e 2 else .badEscape e 1
    else (scanString quote cs).after c 1

/-- The token of a string whose opening quote comes next. -/
def nextString (l : Lexer) (quote : Char) (cs : List Char) : Except ParseError Token × Lexer :=
  match scanString quote cs with
  | .closed text width =>
    (.ok ⟨.string, String.ofList text, l.position⟩, l.skip (width + 1))
  | .badEscape ch width =>
    let stopped := l.skip (width + 1)
    (.error (.invalidEscape ch stopped.position), stopped)
  | .unterminated width => (.error (.unterminatedString l.position), l.skip (width + 1))

/-! ### Numbers -/

/-- A point and the digits after it, if a point comes first. -/
def fraction : List Char → List Char
  | '.' :: cs => '.' :: cs.takeWhile Text.isDigit
  | _ => []

/-- The characters of a sign, if one comes first. -/
def sign : List Char → List Char
  | '+' :: _ => ['+']
  | '-' :: _ => ['-']
  | _ => []

/-- An exponent, if a complete one comes first: `e` or `E`, perhaps a sign, digits. -/
def exponent : List Char → List Char
  | [] => []
  | c :: cs =>
    let digits := (cs.drop (sign cs).length).takeWhile Text.isDigit
    if (c == 'e' || c == 'E') && !digits.isEmpty then c :: (sign cs ++ digits) else []

/-- The token of a number that comes next: digits, perhaps a fraction, perhaps an exponent. -/
def nextNumber (l : Lexer) : Token × Lexer :=
  let whole := l.rest.takeWhile Text.isDigit
  let point := fraction (l.rest.drop whole.length)
  let power := exponent (l.rest.drop (whole.length + point.length))
  let width := whole.length + point.length + power.length
  let kind := if point.isEmpty && power.isEmpty then .integer else .float
  (⟨kind, String.ofList (l.rest.take width), l.position⟩, l.skip width)

/-! ### Words -/

/-- Whether a function name and its opening parenthesis follow: a colon, a word with no gap
before it, and the parenthesis after any gap. -/
def startsSuffix : List Char → Bool
  | ':' :: c :: cs =>
    isWordStart c && ((cs.dropWhile isWordPart).dropWhile isGap).head? == some '('
  | _ => false

/-- The token of a word that comes next. The word before a function suffix is an identifier, the
suffix follows its colon, and any other word may be a reserved one. -/
def nextWord (l : Lexer) : Token × Lexer :=
  let chars := l.rest.takeWhile isWordPart
  let word := String.ofList chars
  let after := l.skip chars.length
  if l.suffixPending then
    (⟨.functionSuffix, word, l.position⟩, { after with suffixPending := false })
  else if startsSuffix after.rest then
    (⟨.identifier, word, l.position⟩, { after with suffixPending := true })
  else
    (⟨(TokenKind.ofWord? word).getD .identifier, word, l.position⟩, after)

/-! ### Symbols -/

/-- The kind and the length of the symbol that begins with `c`, with `next` after it. The longer
symbol wins, and a character that begins none is a token of its own. -/
def symbolAt (c : Char) (next : Option Char) : TokenKind × Nat :=
  match c, next with
  | '>', some '=' => (.operator .ge .symbol, 2)
  | '<', some '=' => (.operator .le .symbol, 2)
  | '=', some '=' => (.operator .eq .symbol, 2)
  | '!', some '=' => (.operator .ne .symbol, 2)
  | '&', some '&' => (.operator .and .symbol, 2)
  | '|', some '|' => (.operator .or .symbol, 2)
  | '+', some '=' => (.concat, 2)
  | '-', some '>' => (.arrow, 2)
  | '>', _ => (.operator .gt .symbol, 1)
  | '<', _ => (.operator .lt .symbol, 1)
  | '=', _ => (.assign, 1)
  | '!', _ => (.operator .not .symbol, 1)
  | '+', _ => (.plus, 1)
  | '-', _ => (.minus, 1)
  | '*', _ => (.star, 1)
  | '/', _ => (.operator .div .symbol, 1)
  | '%', _ => (.operator .mod .symbol, 1)
  | '?', _ => (.question, 1)
  | '.', _ => (.dot, 1)
  | '(', _ => (.openParen, 1)
  | ')', _ => (.closeParen, 1)
  | '[', _ => (.openBracket, 1)
  | ']', _ => (.closeBracket, 1)
  | ':', _ => (.colon, 1)
  | ';', _ => (.semicolon, 1)
  | ',', _ => (.comma, 1)
  | '#', _ => (.hash, 1)
  | _, _ => (.illegal, 1)

theorem symbolAt_width_pos (c : Char) (next : Option Char) : 0 < (symbolAt c next).2 := by
  unfold symbolAt
  split <;> simp

/-- The token of the symbol that comes next. -/
def nextSymbol (l : Lexer) (c : Char) (cs : List Char) : Token × Lexer :=
  let (kind, width) := symbolAt c cs.head?
  (⟨kind, String.ofList (l.rest.take width), l.position⟩, l.skip width)

/-! ### Expressions -/

/-- The lexer after the gap before the next token. -/
def skipGap (l : Lexer) : Lexer :=
  l.skip (l.rest.takeWhile isGap).length

/-- The next token of an expression, when no gap comes before it. -/
def nextToken (l : Lexer) : Except ParseError Token × Lexer :=
  match l.rest with
  | [] => (.ok (.atEnd l.position), l)
  | c :: cs =>
    if c = '{' then
      (.ok ⟨.openBrace, TokenKind.openBrace.image, l.position⟩, (l.skip 1).push .braces)
    else if c = '}' then
      (.ok ⟨.closeBrace, TokenKind.closeBrace.image, l.position⟩, (l.skip 1).pop)
    else if c = '\'' ∨ c = '"' then l.nextString c cs
    else if Text.isDigit c || (c == '.' && cs.head?.any Text.isDigit) then
      (.ok l.nextNumber.1, l.nextNumber.2)
    else if isWordStart c then (.ok l.nextWord.1, l.nextWord.2)
    else (.ok (l.nextSymbol c cs).1, (l.nextSymbol c cs).2)

/-- Reads the next token. -/
def next (l : Lexer) : Except ParseError Token × Lexer :=
  match l.mode with
  | .text => (.ok l.nextInText.1, l.nextInText.2)
  | _ => l.skipGap.nextToken

/-! ### Progress -/

theorem literalRun_width_pos {cs : List Char} (h : cs ≠ [])
    (dynamic : ∀ r, cs ≠ '$' :: '{' :: r) (deferred : ∀ r, cs ≠ '#' :: '{' :: r) :
    0 < (literalRun cs).2 := by
  unfold literalRun
  split <;> simp_all

theorem length_nextInText_lt {l : Lexer} (h : l.nextInText.1.kind ≠ .endOfText) :
    l.nextInText.2.rest.length < l.rest.length := by
  unfold nextInText at h ⊢
  split at h
  · simp [Token.atEnd] at h
  · rename_i after start
    simp only [rest_push, rest_skip, start, List.length_drop, List.length_cons]
    omega
  · rename_i after start
    simp only [rest_push, rest_skip, start, List.length_drop, List.length_cons]
    omega
  · rename_i empty dynamic deferred
    have pos : 0 < (literalRun l.rest).2 :=
      literalRun_width_pos (by simpa using empty) (by simpa using dynamic) (by simpa using deferred)
    have : 0 < l.rest.length := List.length_pos_iff.mpr (by simpa using empty)
    simp only [rest_skip, List.length_drop]
    omega

theorem length_nextNumber_lt {l : Lexer} {c : Char} {cs : List Char} (h : l.rest = c :: cs)
    (hc : Text.isDigit c || (c == '.' && cs.head?.any Text.isDigit)) :
    l.nextNumber.2.rest.length < l.rest.length := by
  have pos : 0 < (l.rest.takeWhile Text.isDigit).length +
      (fraction (l.rest.drop (l.rest.takeWhile Text.isDigit).length)).length := by
    by_cases digit : Text.isDigit c
    · have : 0 < (l.rest.takeWhile Text.isDigit).length := by simp [h, digit]
      omega
    · have point : c = '.' := by simp_all
      simp [h, point, fraction, Text.isDigit]
  simp only [nextNumber, rest_skip, List.length_drop]
  have : 0 < l.rest.length := by simp [h]
  omega

theorem length_nextWord_lt {l : Lexer} {c : Char} {cs : List Char} (h : l.rest = c :: cs)
    (hc : isWordStart c) : l.nextWord.2.rest.length < l.rest.length := by
  have part := isWordPart_of_isWordStart hc
  have shorter : (l.skip (l.rest.takeWhile isWordPart).length).rest.length < l.rest.length := by
    have taken : 0 < (l.rest.takeWhile isWordPart).length := by simp [h, part]
    have : 0 < l.rest.length := by simp [h]
    simp only [rest_skip, List.length_drop]
    omega
  unfold nextWord
  dsimp only
  split
  · exact shorter
  · split <;> exact shorter

/-- Reading a token other than the end makes the rest of the text shorter. -/
theorem length_next_lt {l : Lexer} {t : Token} (h : l.next.1 = .ok t)
    (notEnd : t.kind ≠ .endOfText) : l.next.2.rest.length < l.rest.length := by
  unfold next at h ⊢
  split at h
  · simp only [Except.ok.injEq] at h
    exact length_nextInText_lt (h ▸ notEnd)
  · have shorter : l.skipGap.rest.length ≤ l.rest.length := by
      simp [skipGap]
    refine Nat.lt_of_lt_of_le ?_ shorter
    generalize l.skipGap = m at h
    unfold nextToken at h ⊢
    split at h
    · simp only [Except.ok.injEq] at h
      subst h
      simp [Token.atEnd] at notEnd
    · rename_i c cs rest
      split
      · simp [rest]
      · split
        · simp [rest]
        · split
          · unfold nextString
            split <;> simp only [rest_skip, rest, List.length_drop, List.length_cons] <;> omega
          · split
            · exact length_nextNumber_lt rest (by assumption)
            · split
              · exact length_nextWord_lt rest (by assumption)
              · have := symbolAt_width_pos c cs.head?
                simp [nextSymbol, rest]
                omega

/-! ### Whole texts -/

/-- The tokens from here up to and including the end of the text, or up to the first error, which
is then the last item. -/
def items (l : Lexer) : List (Except ParseError Token) :=
  match read : l.next.1 with
  | .error e => [.error e]
  | .ok t =>
    if final : t.kind = .endOfText then [.ok t]
    else
      have := length_next_lt read final
      .ok t :: l.next.2.items
termination_by l.rest.length

end Lexer

end ExprLang
