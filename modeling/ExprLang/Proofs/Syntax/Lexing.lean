import ExprLang.Expr.Printer
import ExprLang.Proofs.Number.Integers

/-!
# Reading printed pieces

The lexer reads each piece of a printed text as what it was printed for, and stops at the space
behind it. **Key theorem** (`items_spaced`): on pieces that can be read (`Legible`), with one space
between them, the lexer gives the tokens of the pieces and then the end of the text.

- The position of a token does not matter to the parser: `Token.shown` is what does.
- Braces open and close a mode of the lexer; `Legible` counts them, so that the lexer never leaves
  the expression.
-/

namespace ExprLang

/-! ### Words and names -/

/-- A text that the lexer reads as one word. -/
def IsWord (name : String) : Prop :=
  ∃ c cs, name.toList = c :: cs ∧ Lexer.isWordStart c = true ∧ ∀ d ∈ cs, Lexer.isWordPart d = true

theorem IsWord.parts {name : String} (h : IsWord name) :
    ∀ c ∈ name.toList, Lexer.isWordPart c = true := by
  obtain ⟨c, cs, chars, start, parts⟩ := h
  rw [chars]
  exact List.forall_mem_cons.mpr ⟨Lexer.isWordPart_of_isWordStart start, parts⟩

/-- Whether a text is one word. -/
def isWord (name : String) : Bool :=
  match name.toList with
  | [] => false
  | c :: cs => Lexer.isWordStart c && cs.all Lexer.isWordPart

theorem isWord_iff {name : String} : isWord name = true ↔ IsWord name := by
  unfold isWord IsWord
  cases name.toList with
  | nil => simp
  | cons c cs =>
    rw [Bool.and_eq_true, List.all_eq_true]
    constructor
    · exact fun h => ⟨c, cs, rfl, h⟩
    · rintro ⟨c', cs', same, h⟩
      cases same
      exact h

instance (name : String) : Decidable (IsWord name) :=
  decidable_of_iff (isWord name = true) isWord_iff

/-- A word that is not reserved. -/
structure IsName (name : String) : Prop where
  word : IsWord name
  free : TokenKind.ofWord? name = none

instance (name : String) : Decidable (IsName name) :=
  decidable_of_iff (IsWord name ∧ TokenKind.ofWord? name = none)
    ⟨fun h => ⟨h.1, h.2⟩, fun h => ⟨h.word, h.free⟩⟩

/-! ### What the parser sees of a token -/

/-- The kind and the lexeme of a token. -/
def Token.shown (t : Token) : TokenKind × String :=
  (t.kind, t.lexeme)

/-- What an item shows; an error shows nothing. -/
def shownItem : Except ParseError Token → Option (TokenKind × String)
  | .ok t => some t.shown
  | .error _ => none

/-- What the end of a text shows. -/
def endShown : TokenKind × String :=
  (.endOfText, "")

/-- The tokens that a piece is read as. -/
def Lexeme.shown : Lexeme → List (TokenKind × String)
  | mark kind => [(kind, kind.image)]
  | word name => [(.identifier, name)]
  | integer n => [(.integer, String.ofList (Number.digits n))]
  | real text => [(.float, text)]
  | string s => [(.string, s)]
  | qualified q name => [(.identifier, q), (.colon, TokenKind.colon.image), (.functionSuffix, name)]

/-- The tokens that several pieces are read as. -/
def shownOf (ls : List Lexeme) : List (TokenKind × String) :=
  ls.flatMap Lexeme.shown

@[simp] theorem shownOf_nil : shownOf [] = [] := rfl

@[simp] theorem shownOf_cons (l : Lexeme) (ls : List Lexeme) :
    shownOf (l :: ls) = l.shown ++ shownOf ls := rfl

@[simp] theorem shownOf_append (ls ms : List Lexeme) :
    shownOf (ls ++ ms) = shownOf ls ++ shownOf ms := by
  simp [shownOf]

/-! ### Legible pieces -/

/-- The tokens without braces that are written with symbols. -/
def symbolKinds : List TokenKind :=
  [.dot, .openParen, .closeParen, .openBracket, .closeBracket, .colon, .semicolon, .comma, .star,
    .plus, .minus, .question, .concat, .assign, .arrow, .hash] ++
    DualOperator.all.map (.operator · .symbol)

/-- The tokens that are written with a reserved word only. -/
def wordKinds : List TokenKind :=
  [.boolean true, .boolean false, .null, .empty, .instanceOf]

/-- Pieces that the lexer reads as what they stand for, within `depth` open braces. -/
inductive Legible : Nat → List Lexeme → Prop where
  | nil {depth : Nat} : Legible depth []
  | symbol {depth : Nat} {kind : TokenKind} {ls : List Lexeme} : kind ∈ symbolKinds →
      Legible depth ls → Legible depth (.mark kind :: ls)
  | keyword {depth : Nat} {kind : TokenKind} {ls : List Lexeme} : kind ∈ wordKinds →
      Legible depth ls → Legible depth (.mark kind :: ls)
  | openBrace {depth : Nat} {ls : List Lexeme} :
      Legible (depth + 1) ls → Legible depth (.mark .openBrace :: ls)
  | closeBrace {depth : Nat} {ls : List Lexeme} :
      Legible depth ls → Legible (depth + 1) (.mark .closeBrace :: ls)
  | word {depth : Nat} {name : String} {ls : List Lexeme} : IsName name →
      Legible depth ls → Legible depth (.word name :: ls)
  | integer {depth : Nat} {n : Nat} {ls : List Lexeme} :
      Legible depth ls → Legible depth (.integer n :: ls)
  | string {depth : Nat} {s : String} {ls : List Lexeme} :
      Legible depth ls → Legible depth (.string s :: ls)
  | qualified {depth : Nat} {q name : String} {ls : List Lexeme} : IsWord q → IsWord name →
      Legible depth (.mark .openParen :: ls) →
        Legible depth (.qualified q name :: .mark .openParen :: ls)

namespace Lexer

/-! ### Characters -/

/-- A character that begins a symbol other than a brace. -/
def isSymbolStart (c : Char) : Bool :=
  c != '{' && c != '}' && c != '\'' && c != '"' && !Text.isDigit c && !isWordStart c

theorem not_wordStart_of_isDigit {c : Char} (h : Text.isDigit c = true) :
    isWordStart c = false := by
  simp only [Text.isDigit, Bool.and_eq_true, decide_eq_true_eq, Char.le_def,
    UInt32.le_iff_toNat_le] at h
  have low : 48 ≤ c.toNat := h.1
  have high : c.toNat ≤ 57 := h.2
  have ascii : c.toNat < 128 := by omega
  have letter : c.isAlpha = false := by
    show (decide (65 ≤ c.val ∧ c.val ≤ 90) || decide (97 ≤ c.val) && decide (c.val ≤ 122)) = false
    simp [UInt32.le_iff_toNat_le]
    omega
  have other : c ≠ '_' ∧ c ≠ '$' := by
    constructor <;> rintro rfl <;> revert low high <;> decide
  simp [isWordStart, Text.isAlphabetic, ascii, letter, other]

theorem not_isDigit_of_wordStart {c : Char} (h : isWordStart c = true) :
    Text.isDigit c = false := by
  cases digit : Text.isDigit c with
  | false => rfl
  | true => simp [not_wordStart_of_isDigit digit] at h

theorem ne_of_test {p : Char → Bool} {c d : Char} (h : p c = true) (hd : p d = false) :
    c ≠ d := by
  rintro rfl
  rw [h] at hd
  cases hd

/-- A character of a class that no gap is in. -/
theorem not_isGap_of_test {p : Char → Bool} {c : Char} (h : p c = true)
    (gaps : p ' ' = false ∧ p '\t' = false ∧ p '\n' = false ∧ p '\r' = false) :
    isGap c = false := by
  obtain ⟨space, tab, newline, back⟩ := gaps
  simp [isGap, ne_of_test h space, ne_of_test h tab, ne_of_test h newline, ne_of_test h back]

theorem not_isGap_of_isWordStart {c : Char} (h : isWordStart c = true) : isGap c = false :=
  not_isGap_of_test h (by decide)

theorem not_isGap_of_isDigit {c : Char} (h : Text.isDigit c = true) : isGap c = false :=
  not_isGap_of_test h (by decide)

/-! ### One token -/

/-- What a token can be by the characters it begins with. -/
inductive TokenClass where
  | openBrace | closeBrace | string | number | word | symbol

/-- The class of the token that begins with `c`, with `next` after it. -/
def classOf (c : Char) (next : Option Char) : TokenClass :=
  if c = '{' then .openBrace
  else if c = '}' then .closeBrace
  else if c = '\'' ∨ c = '"' then .string
  else if Text.isDigit c || (c == '.' && next.any Text.isDigit) then .number
  else if isWordStart c then .word
  else .symbol

/-- The next token as one of a class. -/
def nextOf (l : Lexer) (c : Char) (cs : List Char) :
    TokenClass → Except ParseError Token × Lexer
  | .openBrace =>
    (.ok ⟨.openBrace, TokenKind.openBrace.image, l.position⟩, (l.skip 1).push .braces)
  | .closeBrace => (.ok ⟨.closeBrace, TokenKind.closeBrace.image, l.position⟩, (l.skip 1).pop)
  | .string => l.nextString c cs
  | .number => (.ok l.nextNumber.1, l.nextNumber.2)
  | .word => (.ok l.nextWord.1, l.nextWord.2)
  | .symbol => (.ok (l.nextSymbol c cs).1, (l.nextSymbol c cs).2)

theorem nextToken_eq {l : Lexer} {c : Char} {cs : List Char} (h : l.rest = c :: cs) :
    l.nextToken = l.nextOf c cs (classOf c cs.head?) := by
  simp only [nextToken, h, classOf]
  repeat' split
  all_goals rfl

/-- What the characters that a token begins with are, by its class. -/
inductive Begins (c : Char) (next : Option Char) : TokenClass → Prop where
  | openBrace : c = '{' → Begins c next .openBrace
  | closeBrace : c = '}' → Begins c next .closeBrace
  | string : c = '\'' ∨ c = '"' → Begins c next .string
  | number : Text.isDigit c = true ∨ c = '.' ∧ next.any Text.isDigit = true →
      Begins c next .number
  | word : isWordStart c = true → Begins c next .word
  | symbol : isSymbolStart c = true → (c = '.' → next.any Text.isDigit = false) →
      Begins c next .symbol

section Class

variable {c : Char} {next : Option Char}

theorem begins_classOf (c : Char) (next : Option Char) : Begins c next (classOf c next) := by
  unfold classOf
  split
  · exact .openBrace ‹_›
  · split
    · exact .closeBrace ‹_›
    · split
      · exact .string ‹_›
      · split
        · rename_i number
          exact .number (by simpa using number)
        · split
          · exact .word ‹_›
          · rename_i notOpen notClose notQuote notNumber notWord
            simp only [Bool.or_eq_true, Bool.and_eq_true, beq_iff_eq, not_or, not_and,
              Bool.not_eq_true] at notQuote notNumber notWord
            refine .symbol ?_ notNumber.2
            simp [isSymbolStart, notOpen, notClose, notQuote, notNumber.1, notWord]

theorem Begins.of_classOf {cls : TokenClass} (h : classOf c next = cls) : Begins c next cls :=
  h ▸ begins_classOf c next

theorem eq_openBrace_of_classOf (h : classOf c next = .openBrace) : c = '{' := by
  cases Begins.of_classOf h with
  | openBrace same => exact same

theorem eq_closeBrace_of_classOf (h : classOf c next = .closeBrace) : c = '}' := by
  cases Begins.of_classOf h with
  | closeBrace same => exact same

theorem quote_of_classOf (h : classOf c next = .string) : c = '\'' ∨ c = '"' := by
  cases Begins.of_classOf h with
  | string quote => exact quote

theorem isWordStart_of_classOf (h : classOf c next = .word) : isWordStart c = true := by
  cases Begins.of_classOf h with
  | word start => exact start

end Class

/-- The kinds that a token of a class can have. -/
def TokenClass.kinds : TokenClass → List TokenKind
  | .openBrace => [.openBrace]
  | .closeBrace => [.closeBrace]
  | .string => [.string]
  | .number => [.integer, .float]
  | .word => .identifier :: .functionSuffix :: TokenKind.reserved
  | .symbol => .illegal :: symbolKinds

section Kinds

variable (l : Lexer) (c : Char)

theorem kind_nextNumber : l.nextNumber.1.kind ∈ TokenClass.number.kinds := by
  unfold nextNumber
  dsimp only
  split <;> decide

theorem kind_nextWord : l.nextWord.1.kind ∈ TokenClass.word.kinds := by
  have name : TokenKind.identifier ∈ TokenClass.word.kinds := List.mem_cons_self
  unfold nextWord
  dsimp only
  split
  · exact List.mem_cons_of_mem _ List.mem_cons_self
  · split
    · exact name
    · cases reserved : TokenKind.ofWord? (String.ofList (l.rest.takeWhile isWordPart)) with
      | none => exact name
      | some kind =>
        exact List.mem_cons_of_mem _ (List.mem_cons_of_mem _ (TokenKind.image_of_ofWord? reserved).1)

theorem kind_symbolAt (next : Option Char) : (symbolAt c next).1 ∈ TokenClass.symbol.kinds := by
  unfold symbolAt
  split <;> decide

/-- A token is of a kind of its class. -/
theorem kind_of_nextOf {cs : List Char} {cls : TokenClass} {t : Token}
    (read : (l.nextOf c cs cls).1 = .ok t) : t.kind ∈ cls.kinds := by
  cases cls with
  | openBrace =>
    cases read
    exact List.mem_singleton_self _
  | closeBrace =>
    cases read
    exact List.mem_singleton_self _
  | string =>
    unfold nextOf nextString at read
    dsimp only at read
    split at read <;> cases read
    exact List.mem_singleton_self _
  | number =>
    cases read
    exact kind_nextNumber l
  | word =>
    cases read
    exact kind_nextWord l
  | symbol =>
    cases read
    exact kind_symbolAt c cs.head?

end Kinds

theorem nextToken_word {l : Lexer} {c : Char} {cs : List Char} (h : l.rest = c :: cs)
    (start : isWordStart c = true) : l.nextToken = (.ok l.nextWord.1, l.nextWord.2) := by
  have digit : Text.isDigit c = false := not_isDigit_of_wordStart start
  have notOpen : c ≠ '{' := ne_of_test start (by decide)
  have notClose : c ≠ '}' := ne_of_test start (by decide)
  have notQuote : c ≠ '\'' ∧ c ≠ '"' :=
    ⟨ne_of_test start (by decide), ne_of_test start (by decide)⟩
  have notPoint : c ≠ '.' := ne_of_test start (by decide)
  unfold nextToken
  rw [h]
  simp [notOpen, notClose, notQuote, notPoint, digit, start]

theorem nextToken_symbol {l : Lexer} {c : Char} {cs : List Char} (h : l.rest = c :: cs)
    (start : isSymbolStart c = true) (noFraction : cs.head?.any Text.isDigit = false) :
    l.nextToken = (.ok (l.nextSymbol c cs).1, (l.nextSymbol c cs).2) := by
  simp only [isSymbolStart, Bool.and_eq_true, bne_iff_ne, Bool.not_eq_true'] at start
  unfold nextToken
  rw [h]
  simp [start, noFraction]

theorem nextToken_number {l : Lexer} {c : Char} {cs : List Char} (h : l.rest = c :: cs)
    (digit : Text.isDigit c = true) : l.nextToken = (.ok l.nextNumber.1, l.nextNumber.2) := by
  have notOpen : c ≠ '{' := ne_of_test digit (by decide)
  have notClose : c ≠ '}' := ne_of_test digit (by decide)
  have notQuote : c ≠ '\'' ∧ c ≠ '"' :=
    ⟨ne_of_test digit (by decide), ne_of_test digit (by decide)⟩
  unfold nextToken
  rw [h]
  simp [notOpen, notClose, notQuote, digit]

/-! ### One piece with nothing or a space behind it -/

/-- Nothing, or a space and more. -/
def AtGap (cs : List Char) : Prop :=
  ∀ c ∈ cs.head?, c = ' '

theorem AtGap.eq_nil_or_cons {tail : List Char} (gap : AtGap tail) :
    tail = [] ∨ ∃ cs, tail = ' ' :: cs := by
  cases tail with
  | nil => exact .inl rfl
  | cons c cs =>
    obtain rfl : c = ' ' := gap c rfl
    exact .inr ⟨cs, rfl⟩

theorem takeWhile_append_atGap {p : Char → Bool} {w tail : List Char}
    (all : ∀ c ∈ w, p c = true) (stop : p ' ' = false) (gap : AtGap tail) :
    (w ++ tail).takeWhile p = w := by
  rw [List.takeWhile_append_of_pos all]
  obtain rfl | ⟨cs, rfl⟩ := gap.eq_nil_or_cons
  · simp
  · simp [stop]

/-- The characters of a word, where something else than a word follows. -/
theorem takeWhile_word {name : String} {tail : List Char} (h : IsWord name)
    (stop : tail.takeWhile isWordPart = []) :
    (name.toList ++ tail).takeWhile isWordPart = name.toList := by
  rw [List.takeWhile_append_of_pos h.parts, stop, List.append_nil]

theorem nextToken_of_isWord {l : Lexer} {name : String} {tail : List Char} (word : IsWord name)
    (h : l.rest = name.toList ++ tail) : l.nextToken = (.ok l.nextWord.1, l.nextWord.2) := by
  obtain ⟨c, cs, chars, start, -⟩ := word
  have first : l.rest = c :: (cs ++ tail) := by rw [h, chars]; rfl
  exact nextToken_word first start

theorem takeWhile_gap {p : Char → Bool} {tail : List Char} (stop : p ' ' = false)
    (gap : AtGap tail) : tail.takeWhile p = [] := by
  simpa using takeWhile_append_atGap (w := []) (p := p) (by simp) stop gap

theorem startsSuffix_of_atGap {tail : List Char} (gap : AtGap tail) :
    startsSuffix tail = false := by
  obtain rfl | ⟨cs, rfl⟩ := gap.eq_nil_or_cons <;> rfl

/-- A word with a gap behind it is reserved, or a name. -/
theorem nextToken_word_atGap {l : Lexer} {name : String} {tail : List Char} (word : IsWord name)
    (h : l.rest = name.toList ++ tail) (gap : AtGap tail) (fresh : l.suffixPending = false) :
    l.nextToken =
      (.ok ⟨(TokenKind.ofWord? name).getD .identifier, name, l.position⟩,
        l.skip name.toList.length) := by
  have chars : l.rest.takeWhile isWordPart = name.toList := by
    rw [h]
    exact takeWhile_word word (takeWhile_gap (by decide) gap)
  have noSuffix : startsSuffix (l.rest.drop name.toList.length) = false := by
    rw [h, List.drop_left]
    exact startsSuffix_of_atGap gap
  rw [nextToken_of_isWord word h]
  unfold nextWord
  simp [chars, fresh, noSuffix]

/-- A symbol other than a brace with a gap behind it. -/
theorem nextToken_symbol_atGap {l : Lexer} {kind : TokenKind} {tail : List Char}
    (symbol : kind ∈ symbolKinds) (h : l.rest = kind.image.toList ++ tail) (gap : AtGap tail) :
    l.nextToken =
      (.ok ⟨kind, kind.image, l.position⟩, l.skip kind.image.toList.length) := by
  -- no symbol goes on with a space, so that each is read in full in front of one
  have reads : ∀ kind ∈ symbolKinds, ∀ next ∈ [none, some ' '],
      (match kind.image.toList with
        | [] => false
        | c :: cs => isSymbolStart c && !(cs.head?.or next).any Text.isDigit &&
          symbolAt c (cs.head?.or next) == (kind, cs.length + 1)) = true := by
    decide
  have next : tail.head? ∈ [none, some ' '] := by
    obtain rfl | ⟨cs, rfl⟩ := gap.eq_nil_or_cons <;> simp
  have read := reads kind symbol _ next
  cases image : kind.image.toList with
  | nil => simp [image] at read
  | cons c cs =>
    rw [image] at h
    simp only [image, Bool.and_eq_true, Bool.not_eq_true', beq_iff_eq] at read
    obtain ⟨⟨start, noFraction⟩, symbolRead⟩ := read
    have first : l.rest = c :: (cs ++ tail) := h
    rw [nextToken_symbol first start (by simpa using noFraction)]
    unfold nextSymbol
    have text : String.ofList (c :: cs) = kind.image := by rw [← image, String.ofList_toList]
    simp [symbolRead, h, text]

theorem nextToken_openBrace {l : Lexer} {tail : List Char} (h : l.rest = '{' :: tail) :
    l.nextToken =
      (.ok ⟨.openBrace, TokenKind.openBrace.image, l.position⟩, (l.skip 1).push .braces) := by
  unfold nextToken
  simp [h]

theorem nextToken_closeBrace {l : Lexer} {tail : List Char} (h : l.rest = '}' :: tail) :
    l.nextToken =
      (.ok ⟨.closeBrace, TokenKind.closeBrace.image, l.position⟩, (l.skip 1).pop) := by
  unfold nextToken
  simp [h]

theorem nextToken_openParen {l : Lexer} {tail : List Char} (h : l.rest = '(' :: tail) :
    l.nextToken = (.ok ⟨.openParen, TokenKind.openParen.image, l.position⟩, l.skip 1) := by
  have symbol : classOf '(' tail.head? = .symbol := rfl
  rw [nextToken_eq h, symbol, nextOf, nextSymbol, h]
  rfl

/-- Digits with a gap behind them. -/
theorem nextToken_integer_atGap {l : Lexer} {n : Nat} {tail : List Char}
    (h : l.rest = Number.digits n ++ tail) (gap : AtGap tail) :
    l.nextToken =
      (.ok ⟨.integer, String.ofList (Number.digits n), l.position⟩,
        l.skip (Number.digits n).length) := by
  have whole : l.rest.takeWhile Text.isDigit = Number.digits n := by
    rw [h]
    exact takeWhile_append_atGap (fun c => Number.isDigit_of_mem_digits) (by decide) gap
  -- neither a fraction nor an exponent begins with a space
  have noPoint : fraction tail = [] := by
    obtain rfl | ⟨cs, rfl⟩ := gap.eq_nil_or_cons <;> rfl
  have noPower : exponent tail = [] := by
    obtain rfl | ⟨cs, rfl⟩ := gap.eq_nil_or_cons <;> rfl
  have behind : l.rest.drop (Number.digits n).length = tail := by rw [h, List.drop_left]
  have taken : l.rest.take (Number.digits n).length = Number.digits n := by rw [h, List.take_left]
  cases digits : Number.digits n with
  | nil => exact absurd digits Nat.toDigits_ne_nil
  | cons c cs =>
    have digit : Text.isDigit c = true := Number.isDigit_of_mem_digits (n := n) (by simp [digits])
    rw [digits] at h
    have first : l.rest = c :: (cs ++ tail) := h
    rw [nextToken_number first digit, ← digits]
    simp [nextNumber, whole, behind, noPoint, noPower, taken]

/-- Both quotes are escaped, so that it does not matter which of them is put around a string. -/
theorem scanString_escape {quote : Char} (isQuote : quote = '\'' ∨ quote = '"')
    (cs tail : List Char) :
    scanString quote (Lexeme.escape cs ++ quote :: tail) =
      .closed cs ((Lexeme.escape cs).length + 1) := by
  have notBackslash : '\\' ≠ quote := by
    rcases isQuote with rfl | rfl <;> decide
  induction cs with
  | nil =>
    unfold scanString
    simp [Lexeme.escape]
  | cons c cs ih =>
    by_cases escapable : isEscapable c = true
    · simp only [Lexeme.escape, escapable, if_true, List.cons_append]
      unfold scanString
      simp [escapable, ih, StringScan.after, notBackslash]
    · -- what is not escaped neither ends the string nor escapes
      have plain : c ≠ quote ∧ c ≠ '\\' := by
        constructor
        · rintro rfl
          rcases isQuote with rfl | rfl <;> exact escapable rfl
        · rintro rfl
          exact escapable rfl
      simp only [Lexeme.escape, escapable]
      unfold scanString
      simp [ih, StringScan.after, plain]

/-- A string in quotes of one kind. -/
theorem nextToken_string {l : Lexer} {quote : Char} {s : String} {tail : List Char}
    (isQuote : quote = '\'' ∨ quote = '"')
    (h : l.rest = quote :: (Lexeme.escape s.toList ++ quote :: tail)) :
    l.nextToken =
      (.ok ⟨.string, s, l.position⟩, l.skip ((Lexeme.escape s.toList).length + 2)) := by
  have notBrace : quote ≠ '{' ∧ quote ≠ '}' := by
    rcases isQuote with rfl | rfl <;> decide
  unfold nextToken
  rw [h]
  simp [notBrace, isQuote, nextString, scanString_escape isQuote]

/-! ### A qualified name -/

/-- The word in front of a function name is its qualifier, whether it is reserved or not. -/
theorem nextToken_qualifier {l : Lexer} {q : String} {tail : List Char} (word : IsWord q)
    (h : l.rest = q.toList ++ tail) (suffix : startsSuffix tail = true)
    (fresh : l.suffixPending = false) :
    l.nextToken =
      (.ok ⟨.identifier, q, l.position⟩,
        { l.skip q.toList.length with suffixPending := true }) := by
  have colon : tail.takeWhile isWordPart = [] := by
    cases tail with
    | nil => rfl
    | cons c cs =>
      have : c = ':' := by
        unfold startsSuffix at suffix
        split at suffix
        · simp_all
        · cases suffix
      subst this
      rfl
  have chars : l.rest.takeWhile isWordPart = q.toList := by
    rw [h]
    exact takeWhile_word word colon
  have behind : l.rest.drop q.toList.length = tail := by rw [h, List.drop_left]
  rw [nextToken_of_isWord word h]
  unfold nextWord
  simp [chars, fresh, behind, suffix]

/-- The word behind the colon is the name of the function. -/
theorem nextToken_suffix {l : Lexer} {name : String} {tail : List Char} (word : IsWord name)
    (h : l.rest = name.toList ++ tail) (gap : AtGap tail) (pending : l.suffixPending = true) :
    l.nextToken =
      (.ok ⟨.functionSuffix, name, l.position⟩,
        { l.skip name.toList.length with suffixPending := false }) := by
  have chars : l.rest.takeWhile isWordPart = name.toList := by
    rw [h]
    exact takeWhile_word word (takeWhile_gap (by decide) gap)
  rw [nextToken_of_isWord word h]
  unfold nextWord
  simp [chars, pending]

/-! ### Whole texts -/

theorem items_of_error {l : Lexer} {e : ParseError} (read : l.next.1 = .error e) :
    l.items = [.error e] := by
  rw [items]
  split <;> simp_all

theorem items_of_end {l : Lexer} {t : Token} (read : l.next.1 = .ok t)
    (final : t.kind = .endOfText) : l.items = [.ok t] := by
  rw [items]
  split <;> simp_all

theorem items_of_token {l : Lexer} {t : Token} (read : l.next.1 = .ok t)
    (more : t.kind ≠ .endOfText) : l.items = .ok t :: l.next.2.items := by
  rw [items]
  split <;> simp_all

theorem next_inText {l : Lexer} (text : l.mode = .text) :
    l.next = (.ok l.nextInText.1, l.nextInText.2) := by
  unfold next
  rw [text]

theorem next_inside {l : Lexer} (inside : l.mode ≠ .text) : l.next = l.skipGap.nextToken := by
  unfold next
  split
  · exact absurd ‹_› inside
  · rfl

theorem items_cons {l after : Lexer} {t : Token} (inside : l.mode ≠ .text)
    (read : l.skipGap.nextToken = (.ok t, after)) (more : t.kind ≠ .endOfText) :
    l.items = .ok t :: after.items := by
  rw [← next_inside inside] at read
  rw [items_of_token (congrArg Prod.fst read) more, read]

/-- A text with a gap at most is read as its end. -/
theorem items_gap {l : Lexer} (inside : l.mode ≠ .text) (h : l.skipGap.rest = []) :
    l.items.map shownItem = [some endShown] := by
  have next : l.next.1 = .ok (.atEnd l.skipGap.position) := by
    rw [next_inside inside, nextToken, h]
  rw [items_of_end next rfl]
  rfl

/-- The lexer is inside an expression, within some open braces. -/
def Within (l : Lexer) (opened : Nat) : Prop :=
  l.modes = List.replicate opened .braces ++ [.expression]

theorem Within.inside {l : Lexer} {opened : Nat} (h : l.Within opened) : l.mode ≠ .text := by
  unfold mode
  rw [h]
  cases opened <;> simp [List.replicate_succ]

/-- Where the lexer stands between the pieces of a printed text: perhaps before a gap, inside the
expression and as many braces as are open. -/
structure Between (l : Lexer) (depth : Nat) (ls : List Lexeme) : Prop where
  rest : l.rest = spaced ls ∨ l.rest = ' ' :: spaced ls
  modes : l.modes = List.replicate depth .braces ++ [.expression]
  fresh : l.suffixPending = false

theorem Between.inside {l : Lexer} {depth : Nat} {ls : List Lexeme} (h : Between l depth ls) :
    l.mode ≠ .text :=
  Within.inside h.modes

/-- The text behind a piece. -/
theorem spaced_cons (piece : Lexeme) (ls : List Lexeme) :
    ∃ tail, spaced (piece :: ls) = piece.chars ++ tail ∧ AtGap tail ∧
      (tail = spaced ls ∨ tail = ' ' :: spaced ls) := by
  cases ls with
  | nil => exact ⟨[], by simp [spaced], by simp [AtGap], .inl rfl⟩
  | cons l ls => exact ⟨' ' :: spaced (l :: ls), rfl, by simp [AtGap], .inr rfl⟩

/-- Behind the gap the next piece begins. -/
theorem Between.skipGap {l : Lexer} {depth : Nat} {ls : List Lexeme} (h : Between l depth ls)
    (start : ∀ c ∈ (spaced ls).head?, isGap c = false) :
    l.skipGap.rest = spaced ls ∧ l.skipGap.modes = l.modes ∧ l.skipGap.suffixPending = false := by
  refine ⟨?_, rfl, h.fresh⟩
  have none : (spaced ls).takeWhile isGap = [] := by
    cases text : spaced ls with
    | nil => rfl
    | cons c cs => simp [start c (by simp [text])]
  unfold Lexer.skipGap
  rcases h.rest with rest | rest
  · simp [rest, none]
  · simp [rest, none, isGap]

/-- The lexer behind a piece that it has read. -/
theorem Between.skip {m : Lexer} {depth : Nat} {ls : List Lexeme} {chars tail : List Char}
    (rest : m.rest = chars ++ tail) (behind : tail = spaced ls ∨ tail = ' ' :: spaced ls)
    (modes : m.modes = List.replicate depth .braces ++ [.expression])
    (fresh : m.suffixPending = false) : Between (m.skip chars.length) depth ls := by
  refine ⟨?_, modes, fresh⟩
  rw [rest_skip, rest, List.drop_left]
  exact behind

theorem not_isGap_of_mark {kind : TokenKind} (h : kind ∈ symbolKinds ++ wordKinds) :
    ∃ c cs, kind.image.toList = c :: cs ∧ isGap c = false := by
  have starts : ∀ kind ∈ symbolKinds ++ wordKinds,
      (kind.image.toList.head?.any fun c => !isGap c) = true := by
    decide
  have start := starts kind h
  cases image : kind.image.toList with
  | nil => simp [image] at start
  | cons c cs => exact ⟨c, cs, rfl, by simpa [image] using start⟩

/-- A reserved word is a word. -/
theorem isWord_of_keyword {kind : TokenKind} (h : kind ∈ wordKinds) : IsWord kind.image := by
  have words : ∀ kind ∈ wordKinds, IsWord kind.image := by decide
  exact words kind h

/-- What the lexer gives on a piece that is one token, with the pieces behind it to come. -/
theorem items_piece {l : Lexer} {depth after : Nat} {piece : Lexeme} {ls : List Lexeme}
    (h : Between l depth (piece :: ls))
    (start : ∃ c cs, piece.chars = c :: cs ∧ isGap c = false)
    (read : ∀ (m : Lexer) (tail : List Char), m.rest = piece.chars ++ tail → AtGap tail →
      (tail = spaced ls ∨ tail = ' ' :: spaced ls) →
      m.modes = List.replicate depth .braces ++ [.expression] → m.suffixPending = false →
      ∃ t next, m.nextToken = (.ok t, next) ∧ piece.shown = [t.shown] ∧ t.kind ≠ .endOfText ∧
        Between next after ls)
    (rest : ∀ next, Between next after ls →
      next.items.map shownItem = (shownOf ls ++ [endShown]).map some) :
    l.items.map shownItem = (shownOf (piece :: ls) ++ [endShown]).map some := by
  obtain ⟨tail, text, gap, behind⟩ := spaced_cons piece ls
  obtain ⟨c, cs, chars, noGap⟩ := start
  have head : ∀ c ∈ (spaced (piece :: ls)).head?, isGap c = false := by
    rw [text, chars]
    simpa using noGap
  obtain ⟨here, modes, fresh⟩ := h.skipGap head
  rw [text] at here
  obtain ⟨t, next, token, shown, more, between⟩ :=
    read _ tail here gap behind (modes.trans h.modes) fresh
  rw [items_cons h.inside token more, List.map_cons, rest next between, shownOf_cons, shown]
  rfl

theorem rest_skipGap {l : Lexer} {c : Char} {cs : List Char} (h : l.rest = c :: cs)
    (start : isGap c = false) : l.skipGap.rest = c :: cs := by
  unfold skipGap
  simp [h, start]

theorem modes_skipGap (l : Lexer) : l.skipGap.modes = l.modes := rfl

theorem drop_length_takeWhile (p : Char → Bool) (cs : List Char) :
    cs.drop (cs.takeWhile p).length = cs.dropWhile p := by
  have whole : cs = cs.takeWhile p ++ cs.dropWhile p := List.takeWhile_append_dropWhile.symm
  have prefixed := List.prefix_iff_eq_append.mp (List.takeWhile_prefix p (l := cs))
  exact List.append_cancel_left (prefixed.trans whole)

theorem rest_skipGap_eq_dropWhile (l : Lexer) : l.skipGap.rest = l.rest.dropWhile isGap :=
  drop_length_takeWhile isGap l.rest

/-- A colon inside an expression. -/
theorem nextToken_colon {l : Lexer} {c : Char} {cs : List Char} (h : l.rest = ':' :: c :: cs)
    (start : isWordStart c = true) :
    l.nextToken = (.ok ⟨.colon, TokenKind.colon.image, l.position⟩, l.skip 1) := by
  have noDigit : Text.isDigit c = false := not_isDigit_of_wordStart start
  rw [nextToken_symbol h (by decide) (by simp [noDigit])]
  have symbol : symbolAt ':' (some c) = (.colon, 1) := rfl
  simp [nextSymbol, symbol, h, TokenKind.image]

/-- A name between a colon and a parenthesis, as it is printed, is the name of a function. -/
theorem startsSuffix_name {name : String} (word : IsWord name) (more : List Char) :
    startsSuffix (':' :: (name.toList ++ ' ' :: '(' :: more)) = true := by
  obtain ⟨c, cs, chars, start, parts⟩ := word
  have behind : (cs ++ ' ' :: '(' :: more).dropWhile isWordPart = ' ' :: '(' :: more := by
    rw [List.dropWhile_append_of_pos parts]
    rfl
  rw [chars, List.cons_append, startsSuffix, start, behind]
  rfl

/-- A qualified name in front of an opening parenthesis is three tokens. -/
theorem items_qualified {l : Lexer} {depth : Nat} {q name : String} {ls : List Lexeme}
    (hq : IsWord q) (hname : IsWord name)
    (h : Between l depth (.qualified q name :: .mark .openParen :: ls))
    (rest : ∀ next, Between next depth (.mark .openParen :: ls) →
      next.items.map shownItem = (shownOf (.mark .openParen :: ls) ++ [endShown]).map some) :
    l.items.map shownItem =
      (shownOf (.qualified q name :: .mark .openParen :: ls) ++ [endShown]).map some := by
  -- the text up to the parenthesis
  obtain ⟨more, paren⟩ : ∃ more, spaced (.mark .openParen :: ls) = '(' :: more := by
    obtain ⟨tail, text, -⟩ := spaced_cons (.mark .openParen) ls
    exact ⟨tail, text⟩
  have text : spaced (.qualified q name :: .mark .openParen :: ls) =
      q.toList ++ ':' :: (name.toList ++ ' ' :: '(' :: more) := by
    show q.toList ++ ':' :: name.toList ++ ' ' :: spaced (.mark .openParen :: ls) = _
    rw [paren]
    simp
  -- the qualifier
  have head : ∀ c ∈ (spaced (.qualified q name :: .mark .openParen :: ls)).head?,
      isGap c = false := by
    obtain ⟨c, cs, chars, start, -⟩ := hq
    rw [text, chars]
    simpa using not_isGap_of_isWordStart start
  obtain ⟨here, modes, fresh⟩ := h.skipGap head
  rw [text] at here
  have first := nextToken_qualifier hq here (startsSuffix_name hname more) fresh
  rw [items_cons h.inside first (by simp)]
  -- the colon
  generalize l.skipGap = m at here modes first
  obtain ⟨c, cs, chars, start, -⟩ := id hname
  let onColon : Lexer := { m.skip q.toList.length with suffixPending := true }
  have atColon : onColon.rest = ':' :: c :: (cs ++ ' ' :: '(' :: more) := by
    show m.rest.drop q.toList.length = _
    rw [here, List.drop_left, chars]
    rfl
  have inside : onColon.mode ≠ .text := by
    have : onColon.mode = l.mode := congrArg (fun ms : List LexMode => ms.head?.getD .text) modes
    rw [this]
    exact h.inside
  have second := nextToken_colon (l := onColon.skipGap) (rest_skipGap atColon (by decide)) start
  rw [items_cons inside second (by simp)]
  -- the name
  let onName : Lexer := onColon.skipGap.skip 1
  have atName : onName.rest = c :: (cs ++ ' ' :: '(' :: more) := by
    show onColon.skipGap.rest.drop 1 = _
    rw [rest_skipGap atColon (by decide)]
    rfl
  have behind : onName.skipGap.rest = name.toList ++ ' ' :: '(' :: more := by
    rw [rest_skipGap atName (not_isGap_of_isWordStart start), chars]
    rfl
  have third := nextToken_suffix hname behind (by simp [AtGap]) rfl
  have stillInside : onName.mode ≠ .text := inside
  rw [items_cons stillInside third (by simp)]
  -- the parenthesis and what follows it
  have kept : onName.skipGap.modes = m.modes :=
    (modes_skipGap onName).trans (modes_skipGap onColon)
  generalize onName.skipGap = k at behind kept
  have next : Between { k.skip name.toList.length with suffixPending := false } depth
      (.mark .openParen :: ls) := by
    refine ⟨.inr ?_, kept.trans (modes.trans h.modes), rfl⟩
    show k.rest.drop name.toList.length = _
    rw [behind, List.drop_left, paren]
  simp only [List.map_cons, rest _ next, shownOf_cons]
  rfl

/-- The lexer reads printed pieces as what they stand for. -/
theorem items_spaced {depth : Nat} {ls : List Lexeme} (legible : Legible depth ls) {l : Lexer}
    (h : Between l depth ls) : l.items.map shownItem = (shownOf ls ++ [endShown]).map some := by
  induction legible generalizing l with
  | nil => exact items_gap h.inside (h.skipGap (by simp [spaced])).1
  | @symbol depth kind ls symbol _ ih =>
    refine items_piece h (not_isGap_of_mark (List.mem_append_left wordKinds symbol)) ?_
      fun next => ih
    intro m tail here gap behind modes fresh
    refine ⟨_, _, nextToken_symbol_atGap symbol here gap, rfl, ?_,
      Between.skip here behind modes fresh⟩
    rintro rfl
    revert symbol
    decide
  | @keyword depth kind ls keyword _ ih =>
    refine items_piece h (not_isGap_of_mark (List.mem_append_right symbolKinds keyword)) ?_
      fun next => ih
    intro m tail here gap behind modes fresh
    have reserved : ∀ kind ∈ wordKinds, TokenKind.ofWord? kind.image = some kind := by decide
    have token := nextToken_word_atGap (isWord_of_keyword keyword) here gap fresh
    rw [reserved kind keyword] at token
    refine ⟨_, _, token, rfl, ?_, Between.skip here behind modes fresh⟩
    rintro rfl
    revert keyword
    decide
  | openBrace _ ih =>
    refine items_piece h ⟨'{', [], rfl, rfl⟩ ?_ fun next => ih
    intro m tail here gap behind modes fresh
    have after := Between.skip here behind modes fresh
    refine ⟨_, _, nextToken_openBrace here, rfl, by simp, ?_⟩
    refine ⟨after.rest, ?_, fresh⟩
    -- the lexer is one brace deeper
    show .braces :: m.modes = _
    rw [modes, List.replicate_succ, List.cons_append]
  | closeBrace _ ih =>
    refine items_piece h ⟨'}', [], rfl, rfl⟩ ?_ fun next => ih
    intro m tail here gap behind modes fresh
    have after := Between.skip here behind modes fresh
    refine ⟨_, _, nextToken_closeBrace here, rfl, by simp, ?_⟩
    refine ⟨after.rest, ?_, fresh⟩
    show m.modes.tail = _
    rw [modes, List.replicate_succ]
    rfl
  | @word depth name ls isName _ ih =>
    have start : ∃ c cs, (Lexeme.word name).chars = c :: cs ∧ isGap c = false := by
      obtain ⟨c, cs, chars, start, -⟩ := isName.word
      exact ⟨c, cs, chars, not_isGap_of_isWordStart start⟩
    refine items_piece h start ?_ fun next => ih
    intro m tail here gap behind modes fresh
    have token := nextToken_word_atGap isName.word here gap fresh
    rw [isName.free] at token
    exact ⟨_, _, token, rfl, by simp, Between.skip here behind modes fresh⟩
  | @integer depth n ls _ ih =>
    have start : ∃ c cs, (Lexeme.integer n).chars = c :: cs ∧ isGap c = false := by
      cases digits : Number.digits n with
      | nil => exact absurd digits Nat.toDigits_ne_nil
      | cons c cs =>
        have digit : Text.isDigit c = true := Number.isDigit_of_mem_digits (n := n) (by simp [digits])
        exact ⟨c, cs, digits, not_isGap_of_isDigit digit⟩
    refine items_piece h start ?_ fun next => ih
    intro m tail here gap behind modes fresh
    have token := nextToken_integer_atGap here gap
    exact ⟨_, _, token, rfl, by simp, Between.skip here behind modes fresh⟩
  | @string depth s ls _ ih =>
    refine items_piece h ⟨'\'', _, rfl, rfl⟩ ?_ fun next => ih
    intro m tail here gap behind modes fresh
    have after := Between.skip here behind modes fresh
    have text : m.rest = '\'' :: (Lexeme.escape s.toList ++ '\'' :: tail) := by
      simpa [Lexeme.chars] using here
    refine ⟨_, _, nextToken_string (.inl rfl) text, rfl, by simp, ?_⟩
    simpa [Lexeme.chars] using after
  | qualified hq hname _ ih => exact items_qualified hq hname h fun next => ih

/-- A printed expression is read as the tokens of its pieces. -/
theorem items_ofExpression {ls : List Lexeme} (legible : Legible 0 ls) :
    (Lexer.ofExpression (String.ofList (spaced ls))).items.map shownItem =
      (shownOf ls ++ [endShown]).map some :=
  items_spaced legible ⟨.inl (by simp [ofExpression]), rfl, rfl⟩

end Lexer

end ExprLang
