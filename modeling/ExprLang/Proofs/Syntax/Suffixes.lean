import ExprLang.Proofs.Syntax.Progress
import ExprLang.Proofs.Syntax.Respaced

/-!
# Qualified names and reserved words

A word is the name of a function just if it stands behind an identifier and a colon with nothing
between the three, and a parenthesis follows. The lexer decides this at the word in front of the colon,
before it looks whether that word is reserved. What it goes by there is `Lexer.AtColon`; among the
tokens the same shows as `Lexer.AttachedCall` (`Lexer.atColon_iff`). **Key theorems**:
`suffix_iff_attached` on the names of functions, `reserved_word_kinds` on the words in front of them.
-/

namespace ExprLang

/-- The second token stands right behind the characters of the first. -/
def Token.Touches (t u : Token) : Prop :=
  u.position.offset = t.position.offset + t.lexeme.length

/-- A word as it is written, whatever it stands for. -/
structure Token.IsWordToken (t : Token) : Prop where
  plain : t.kind ∉ [.literalText, .string]
  word : IsWord t.lexeme

/-- From the `n`-th token on a text has `q:name(`, with nothing around the colon. -/
structure Lexer.AttachedCall (l : Lexer) (n : Nat) (q colon name paren : Token) : Prop where
  first : l.items[n]? = some (.ok q)
  second : l.items[n + 1]? = some (.ok colon)
  third : l.items[n + 2]? = some (.ok name)
  fourth : l.items[n + 3]? = some (.ok paren)
  touches : q.Touches colon ∧ colon.Touches name
  isColon : colon.kind = .colon
  isWord : name.IsWordToken
  isParen : paren.kind = .openParen

namespace Lexer

/-! ### One token -/

section Step

variable {l m : Lexer} {t u : Token}

theorem rest_nextWord (l : Lexer) : l.nextWord.2.rest = l.rest.dropWhile isWordPart := by
  have behind := drop_length_takeWhile isWordPart l.rest
  unfold nextWord
  dsimp only
  split
  · exact behind
  · split <;> exact behind

/-- A word with no suffix pending is a qualifier if a suffix follows, and else what it is by itself. -/
theorem nextWord_fresh (fresh : l.suffixPending = false) :
    l.nextWord.2.suffixPending = startsSuffix l.nextWord.2.rest ∧
    l.nextWord.1.kind = if startsSuffix l.nextWord.2.rest then .identifier
      else (TokenKind.ofWord? l.nextWord.1.lexeme).getD .identifier := by
  unfold nextWord
  rw [fresh]
  dsimp only
  rw [if_neg Bool.false_ne_true]
  split
  · rename_i suffix
    exact ⟨suffix.symm, rfl⟩
  · rename_i none
    exact ⟨fresh.trans (eq_false_of_ne_true none).symm, rfl⟩

theorem not_isWordToken_of_lexeme (none : isWord t.lexeme = false) : ¬ t.IsWordToken := by
  intro word
  simp [isWord_iff.mpr word.word] at none

theorem not_isWordToken_of_colon (shown : t.shown = (.colon, TokenKind.colon.image)) :
    ¬ t.IsWordToken := by
  have lexeme : t.lexeme = TokenKind.colon.image := congrArg Prod.snd shown
  exact not_isWordToken_of_lexeme (by rw [lexeme]; rfl)

theorem not_isWordToken_nextInText (l : Lexer) : ¬ l.nextInText.1.IsWordToken := by
  unfold nextInText
  split
  · exact not_isWordToken_of_lexeme rfl
  · exact not_isWordToken_of_lexeme (by decide : isWord "$\x7b" = false)
  · exact not_isWordToken_of_lexeme (by decide : isWord "#\x7b" = false)
  · exact fun word => absurd (.head _) word.plain

/-- A word is not read where literal text is. -/
theorem inside_of_word (word : t.IsWordToken) (read : l.next = (.ok t, m)) : l.mode ≠ .text := by
  intro inText
  rw [next_inText inText] at read
  obtain ⟨token, -⟩ := Prod.mk.inj read
  exact l.not_isWordToken_nextInText (Except.ok.inj token ▸ word)

/-- A word is read by `nextWord`. -/
theorem next_word (word : t.IsWordToken) (read : l.next = (.ok t, m)) :
    t = l.skipGap.nextWord.1 ∧ m = l.skipGap.nextWord.2 ∧
      ∃ tail, l.skipGap.rest = t.lexeme.toList ++ tail := by
  rw [next_inside (inside_of_word word read)] at read
  obtain ⟨span, reads⟩ := exists_readsFrom_nextToken (congrArg Prod.fst read)
  have text : l.skipGap.rest = t.lexeme.toList ++ l.skipGap.nextToken.2.rest := by
    rw [reads.lexeme word.plain]
    exact reads.passes.rest
  rw [nextToken_of_isWord word.word text] at read
  obtain ⟨token, behind⟩ := Prod.mk.inj read
  exact ⟨(Except.ok.inj token).symm, behind.symm, _, text⟩

theorem rest_skipGap_of_none (none : l.rest.takeWhile isGap = []) : l.skipGap.rest = l.rest := by
  rw [skipGap, none]
  rfl

theorem takeWhile_gap_of_cons {c : Char} {cs ds : List Char} (rest : ds = c :: cs)
    (noGap : isGap c = false) : ds.takeWhile isGap = [] := by
  rw [rest, List.takeWhile_cons_of_neg (by simp [noGap])]

/-- Two tokens touch just if there is no gap between them. -/
theorem touches_iff (plain : t.kind ∉ [.literalText, .string]) (read : l.next = (.ok t, m))
    (inside : m.mode ≠ .text) (read' : m.next.1 = .ok u) :
    t.Touches u ↔ m.rest.takeWhile isGap = [] := by
  obtain ⟨gap, span, middle, -, -, -, reads, -⟩ := exists_gap_of_next (congrArg Prod.fst read)
  have length : t.lexeme.length = span.length := by
    rw [← reads.lexeme plain, String.length_toList]
  have behind : m.position.offset = t.position.offset + t.lexeme.length := by
    have place := reads.passes.position
    rw [read] at place
    rw [place, reads.position, Position.offset_advanceOver, length]
  rw [next_inside inside] at read'
  obtain ⟨span', reads'⟩ := exists_readsFrom_nextToken read'
  have place : u.position.offset = m.position.offset + (m.rest.takeWhile isGap).length := by
    rw [reads'.position, (passes_skipGap m).position, Position.offset_advanceOver]
  unfold Token.Touches
  rw [place, behind, ← List.length_eq_zero_iff]
  omega

/-- The characters that are a colon and a parenthesis, with the kinds of these. -/
def marks : List (TokenKind × Char) :=
  [(.colon, ':'), (.openParen, '(')]

theorem symbolAt_mark {c mark : Char} {next : Option Char}
    (mem : ((symbolAt c next).1, mark) ∈ marks) : c = mark ∧ (symbolAt c next).2 = 1 := by
  unfold symbolAt at mem ⊢
  split at mem <;> simp_all [marks]

/-- A colon or a parenthesis is read from its character. -/
theorem next_mark (mark : Char) (mem : (t.kind, mark) ∈ marks) (inside : l.mode ≠ .text)
    (read : l.next = (.ok t, m)) :
    l.skipGap.rest = mark :: m.rest ∧ m.modes = l.modes := by
  rw [next_inside inside] at read
  cases rest : l.skipGap.rest with
  | nil =>
    simp only [nextToken, rest, Prod.mk.injEq, Except.ok.injEq] at read
    simp [← read.1, marks, Token.atEnd] at mem
  | cons c cs =>
    rw [nextToken_eq rest] at read
    have kinds := kind_of_nextOf l.skipGap c (congrArg Prod.fst read)
    cases cls : classOf c cs.head? with
    | symbol =>
      rw [cls] at read
      obtain ⟨token, behind⟩ := Prod.mk.inj read
      obtain rfl := Except.ok.inj token
      obtain ⟨rfl, width⟩ := symbolAt_mark mem
      rw [← behind]
      simp only [nextSymbol, width]
      exact ⟨by rw [rest_skip, rest]; rfl, rfl⟩
    | _ =>
      -- neither mark begins a token of another class
      simp only [marks, List.mem_cons, Prod.mk.injEq, List.not_mem_nil, or_false] at mem
      rw [cls] at kinds
      rcases mem with ⟨kind, -⟩ | ⟨kind, -⟩ <;> exact absurd (kind ▸ kinds) (by decide)

/-- A word, a colon and a word that touch, with a parenthesis behind them, are a qualified name. -/
theorem atColon_of_touches {l₁ l₂ l₃ : Lexer} {colon name paren : Token}
    (fresh : l.suffixPending = false) (word : t.IsWordToken) (isColon : colon.kind = .colon)
    (isWord : name.IsWordToken) (isParen : paren.kind = .openParen)
    (touches : t.Touches colon ∧ colon.Touches name) (first : l.next = (.ok t, l₁))
    (second : l₁.next = (.ok colon, l₂)) (third : l₂.next = (.ok name, l₃))
    (fourth : l₃.next = (.ok paren, l₃.next.2)) : l₁.AtColon := by
  obtain ⟨-, behind₁, -⟩ := next_word word first
  obtain ⟨-, behind₃, tail, text₂⟩ := next_word isWord third
  have inside : l.mode ≠ .text := inside_of_word word first
  have inside₁ : l₁.mode ≠ .text := by
    rw [behind₁, mode, modes_nextWord]
    exact inside
  have inside₂ : l₂.mode ≠ .text := inside_of_word isWord third
  have inside₃ : l₃.mode ≠ .text := by
    rw [behind₃, mode, modes_nextWord]
    exact inside₂
  have none₁ : l₁.rest.takeWhile isGap = [] :=
    (touches_iff word.plain first inside₁ (congrArg Prod.fst second)).mp touches.1
  have none₂ : l₂.rest.takeWhile isGap = [] :=
    (touches_iff (by simp [isColon]) second inside₂ (congrArg Prod.fst third)).mp touches.2
  obtain ⟨rest₁, -⟩ := next_mark ':' (by simp [marks, isColon]) inside₁ second
  obtain ⟨rest₃, -⟩ := next_mark '(' (by simp [marks, isParen]) inside₃ fourth
  have starts : startsSuffix l₁.rest = true := by
    obtain ⟨c, cs, chars, start, -⟩ := isWord.word
    have part := isWordPart_of_isWordStart start
    rw [chars, rest_skipGap_of_none none₂] at text₂
    rw [rest_skipGap_eq_dropWhile, behind₃, rest_nextWord, rest_skipGap_of_none none₂, text₂,
      List.cons_append, List.dropWhile_cons_of_pos part] at rest₃
    rw [rest_skipGap_of_none none₁, text₂] at rest₁
    rw [rest₁, List.cons_append, startsSuffix, start, rest₃]
    rfl
  refine ⟨?_, inside₁, starts⟩
  rw [behind₁] at starts ⊢
  exact (nextWord_fresh (l := l.skipGap) fresh).1.trans starts

end Step

/-! ### Whole texts -/

section Items

variable {l : Lexer} {n : Nat} {t : Token} {item : Except ParseError Token}

theorem next_after (there : l.items[n]? = some (.ok t)) :
    (l.after n).next = (.ok t, l.after (n + 1)) :=
  Prod.ext (next_after_of_items there) rfl

/-- In front of an item there are tokens. -/
theorem exists_before (there : l.items[n + 1]? = some item) : ∃ t, l.items[n]? = some (.ok t) := by
  obtain ⟨lt, -⟩ := List.getElem?_eq_some_iff.mp there
  have before : l.items[n]? = some l.items[n] := List.getElem?_eq_getElem _
  cases first : l.items[n] with
  | ok t => exact ⟨t, first ▸ before⟩
  | error e =>
    rw [first] at before
    have last := (isFinal_iff before).mp trivial
    omega

theorem items_after (lt : n < l.items.length) : (l.after n).items = l.items.drop n := by
  induction n generalizing l with
  | zero => rfl
  | succ n ih =>
    rw [← after_next]
    cases read : l.next.1 with
    | error e =>
      rw [items_of_error read] at lt
      simp at lt
    | ok t =>
      by_cases final : t.kind = .endOfText
      · rw [items_of_end read final] at lt
        simp at lt
      · rw [items_of_token read final] at lt ⊢
        exact ih (Nat.lt_of_succ_lt_succ lt)

/-- At the colon of a qualified name the colon, the name and a parenthesis are the next items. -/
theorem AtColon.items_after (here : (l.after n).AtColon) (lt : n < l.items.length) :
    ∃ colon name paren, l.items[n]? = some (.ok colon) ∧ l.items[n + 1]? = some (.ok name) ∧
      l.items[n + 2]? = some (.ok paren) ∧ colon.kind = .colon ∧ name.kind = .functionSuffix ∧
      name.IsWordToken ∧ paren.kind = .openParen := by
  obtain ⟨colon, name, paren, behind, items, shown, kind, word, shown'⟩ := here.items
  have there (i : Nat) : l.items[n + i]? =
      (Except.ok colon :: .ok name :: .ok paren :: behind)[i]? := by
    rw [← items, Lexer.items_after lt, List.getElem?_drop]
  exact ⟨colon, name, paren, there 0, there 1, there 2, congrArg Prod.fst shown, kind,
    ⟨by simp [kind], word⟩, congrArg Prod.fst shown'⟩

/-- Something comes behind a word. -/
theorem lt_length_of_word (word : t.IsWordToken) (there : l.items[n]? = some (.ok t)) :
    n + 1 < l.items.length := by
  obtain ⟨lt, -⟩ := List.getElem?_eq_some_iff.mp there
  obtain ⟨token, -⟩ := next_word word (next_after there)
  have notEnd : t.kind ≠ .endOfText := by
    rw [token]
    exact ne_endOfText_of_mem_kinds (kind_nextWord _)
  have notLast := mt (isFinal_iff there).mpr notEnd
  omega

variable (fresh : l.suffixPending = false)
include fresh

theorem awaits_after (there : l.items[n]? = some item) : (l.after n).Awaits := by
  induction n generalizing item with
  | zero => exact .nothing fresh
  | succ n ih =>
    obtain ⟨t, before⟩ := exists_before there
    exact (follows_next (ih before) (next_after_of_items before)).awaits

/-- What is read at a token, and where that leaves the lexer. -/
theorem follows_after (there : l.items[n]? = some (.ok t)) :
    Follows (l.after n) t (l.after (n + 1)) :=
  follows_next (awaits_after fresh there) (next_after_of_items there)

/-- A lexer with a suffix pending has read the qualifier or the colon. -/
theorem exists_of_pending (there : l.items[n]? = some item)
    (pending : (l.after n).suffixPending = true) :
    ∃ k q, n = k + 1 ∧ l.items[k]? = some (.ok q) ∧
      ((l.after n).AtColon ∧ q.kind = .identifier ∨ (l.after n).AtSuffix ∧ (l.after k).AtColon) := by
  cases n with
  | zero => simp [after, fresh] at pending
  | succ k =>
    obtain ⟨q, before⟩ := exists_before there
    refine ⟨k, q, rfl, before, ?_⟩
    cases follows_after fresh before with
    | qualifier _ here kind => exact .inl ⟨here, kind⟩
    | colon atColon here => exact .inr ⟨here, atColon⟩
    | other _ none => simp [pending] at none
    | name _ none => simp [pending] at none
    | suffix _ none => simp [pending] at none

/-- In front of the colon of a qualified name the qualifier was read. -/
theorem AtColon.before (here : (l.after n).AtColon) (there : l.items[n]? = some item) :
    ∃ k q, n = k + 1 ∧ l.items[k]? = some (.ok q) ∧ q.kind = .identifier := by
  obtain ⟨k, q, next, before, ⟨-, kind⟩ | ⟨suffix, -⟩⟩ := exists_of_pending fresh there here.pending
  · exact ⟨k, q, next, before, kind⟩
  · exact absurd suffix here.not_atSuffix

/-- In front of the name of a function its colon was read. -/
theorem AtSuffix.before (here : (l.after n).AtSuffix) (there : l.items[n]? = some item) :
    ∃ k colon, n = k + 1 ∧ l.items[k]? = some (.ok colon) ∧ (l.after k).AtColon := by
  obtain ⟨k, colon, next, before, ⟨atColon, -⟩ | ⟨-, atColon⟩⟩ :=
    exists_of_pending fresh there here.pending
  · exact absurd here atColon.not_atSuffix
  · exact ⟨k, colon, next, before, atColon⟩

/-- An identifier is a word as it is written. -/
theorem isWordToken_of_identifier (there : l.items[n]? = some (.ok t)) (kind : t.kind = .identifier) :
    t.IsWordToken := by
  refine ⟨by simp [kind], ?_⟩
  cases follows_after fresh there with
  | other _ _ notName => exact absurd kind notName
  | name _ _ _ word => exact word
  | qualifier _ _ _ word => exact word
  | colon _ _ shown => exact absurd ((congrArg Prod.fst shown).symm.trans kind) (by simp)
  | suffix _ _ other => exact absurd (other.symm.trans kind) (by simp)

/-- No suffix is pending where a qualified name begins. -/
theorem AttachedCall.not_pending {colon name paren : Token}
    (call : l.AttachedCall n t colon name paren) (word : t.IsWordToken) :
    (l.after n).suffixPending = false := by
  cases follows_after fresh call.first with
  | other none => exact none
  | name none => exact none
  | qualifier none => exact none
  | colon _ _ shown => exact absurd word (not_isWordToken_of_colon shown)
  | suffix here =>
    -- behind the name of a function there is a parenthesis, not a colon
    obtain ⟨k, u, rfl, before, atColon⟩ := here.before fresh call.first
    obtain ⟨lt, -⟩ := List.getElem?_eq_some_iff.mp before
    obtain ⟨-, -, paren', -, -, behind, -, -, -, isParen⟩ := atColon.items_after lt
    obtain rfl : paren' = colon := by simpa [behind] using call.second
    simp [call.isColon] at isParen

/-- The lexer takes a word for a qualifier just if a colon and a word touch it and each other, and a
parenthesis follows. -/
theorem atColon_iff (there : l.items[n]? = some (.ok t)) (word : t.IsWordToken) :
    (l.after (n + 1)).AtColon ↔ ∃ colon name paren, l.AttachedCall n t colon name paren := by
  constructor
  · intro here
    obtain ⟨colon, name, paren, second, third, fourth, isColon, -, isWord, isParen⟩ :=
      here.items_after (lt_length_of_word word there)
    obtain ⟨d, ds, rest, -⟩ := of_startsSuffix here.suffix
    obtain ⟨u, next, read, -, suffix, -⟩ := here.next
    obtain rfl : next = l.after (n + 2) := congrArg Prod.snd (read.symm.trans (next_after second))
    obtain ⟨c, cs, rest', start⟩ := suffix.start
    refine ⟨colon, name, paren, there, second, third, fourth, ⟨?_, ?_⟩, isColon, isWord, isParen⟩
    · rw [touches_iff word.plain (next_after there) here.inside (next_after_of_items second)]
      exact takeWhile_gap_of_cons rest (by decide)
    · rw [touches_iff (by simp [isColon]) (next_after second) suffix.inside
        (next_after_of_items third)]
      exact takeWhile_gap_of_cons rest' (not_isGap_of_isWordStart start)
  · rintro ⟨colon, name, paren, call⟩
    have now := call.not_pending fresh word
    exact atColon_of_touches now word call.isColon call.isWord call.isParen call.touches
      (next_after there) (next_after call.second) (next_after call.third)
      (Prod.ext (next_after_of_items call.fourth) rfl)

end Items

end Lexer

/-- The lexer of a text, read as a template or as an expression, takes a token for the name of a function
just if it is a word, a colon and an identifier stand in front of it with nothing between the three,
and the next token is a parenthesis. -/
theorem suffix_iff_attached (source : String) (l : Lexer)
    (start : l = .ofTemplate source ∨ l = .ofExpression source) (n : Nat) (t : Token)
    (there : l.items[n]? = some (.ok t)) :
    t.kind = .functionSuffix ↔
      ∃ k q colon paren, n = k + 2 ∧ q.kind = .identifier ∧ l.AttachedCall k q colon t paren := by
  have fresh : l.suffixPending = false := by rcases start with rfl | rfl <;> rfl
  constructor
  · intro kind
    cases Lexer.follows_after fresh there with
    | suffix here =>
      obtain ⟨m, colon, rfl, second, atColon⟩ := here.before fresh there
      obtain ⟨k, q, rfl, first, name⟩ := atColon.before fresh second
      have isWord := Lexer.isWordToken_of_identifier fresh first name
      obtain ⟨colon', t', paren, call⟩ := (Lexer.atColon_iff fresh first isWord).mp atColon
      obtain rfl : t' = t := by simpa [there] using call.third.symm
      exact ⟨k, q, colon', paren, rfl, name, call⟩
    | other _ _ _ notSuffix => exact absurd kind notSuffix
    | name _ _ other => simp [kind] at other
    | qualifier _ _ other => simp [kind] at other
    | colon _ _ shown => exact absurd ((congrArg Prod.fst shown).symm.trans kind) (by simp)
  · rintro ⟨k, q, colon, paren, rfl, name, call⟩
    have isWord := Lexer.isWordToken_of_identifier fresh call.first name
    have atColon := (Lexer.atColon_iff fresh call.first isWord).mpr ⟨colon, t, paren, call⟩
    obtain ⟨-, t', -, -, third, -, -, kind, -⟩ :=
      atColon.items_after (Lexer.lt_length_of_word isWord call.first)
    obtain rfl : t' = t := by simpa [third] using there
    exact kind

/-- Of the words in a chain only the last is the name of a function, and a blank may follow it. -/
theorem suffix_iff_attached_chain :
    let l := Lexer.ofExpression "a:b:c (x)"
    let b : Token := ⟨.identifier, "b", ⟨2, 1, 3⟩⟩
    let c : Token := ⟨.functionSuffix, "c", ⟨4, 1, 5⟩⟩
    l.items[2]? = some (.ok b) ∧
      (¬∃ k q colon paren, 2 = k + 2 ∧ q.kind = .identifier ∧ l.AttachedCall k q colon b paren) ∧
      l.items[4]? = some (.ok c) ∧
      ∃ k q colon paren, 4 = k + 2 ∧ q.kind = .identifier ∧ l.AttachedCall k q colon c paren := by
  intro l b c
  have there : l.items[2]? = some (.ok b) := by decide +kernel
  have there' : l.items[4]? = some (.ok c) := by decide +kernel
  have second := suffix_iff_attached "a:b:c (x)" l (.inr rfl) 2 b there
  have fourth := suffix_iff_attached "a:b:c (x)" l (.inr rfl) 4 c there'
  exact ⟨there, mt second.mpr (by decide), there', fourth.mp rfl⟩

/-! ### Reserved words -/

/-- The words that are reserved. -/
def TokenKind.reservedWords : List String :=
  reserved.map image

example : TokenKind.reservedWords = ["true", "false", "null", "empty", "instanceof", "gt", "lt", "ge",
    "le", "eq", "ne", "not", "and", "or", "div", "mod"] := by
  decide

theorem TokenKind.exists_ofWord? {word : String} (mem : word ∈ reservedWords) :
    ∃ kind, ofWord? word = some kind := by
  obtain ⟨kind, mem, image⟩ := List.mem_map.mp mem
  have found : (reserved.find? (·.image == word)).isSome :=
    List.find?_isSome.mpr ⟨kind, mem, beq_iff_eq.mpr image⟩
  exact Option.isSome_iff_exists.mp found

theorem isWord_of_reserved {word : String} (mem : word ∈ TokenKind.reservedWords) : IsWord word := by
  have all : ∀ w ∈ TokenKind.reservedWords, isWord w = true := by decide
  exact isWord_iff.mp (all word mem)

/-- A reserved word, wherever it is read as a word in a text, is an identifier just if a colon touches
it, a word touches the colon, and a parenthesis follows. In all other places it has the meaning for
which it is reserved, except where it is the name of a function itself. -/
theorem reserved_word_kinds (source : String) (l : Lexer)
    (start : l = .ofTemplate source ∨ l = .ofExpression source) (n : Nat) (t : Token)
    (there : l.items[n]? = some (.ok t)) (plain : t.kind ∉ [.literalText, .string])
    (reserved : t.lexeme ∈ TokenKind.reservedWords) :
    (t.kind = .identifier ↔ ∃ colon name paren, l.AttachedCall n t colon name paren) ∧
      (t.kind ∉ [.identifier, .functionSuffix] → TokenKind.ofWord? t.lexeme = some t.kind) := by
  have fresh : l.suffixPending = false := by rcases start with rfl | rfl <;> rfl
  have word : t.IsWordToken := ⟨plain, isWord_of_reserved reserved⟩
  obtain ⟨kind, known⟩ := TokenKind.exists_ofWord? reserved
  rw [← Lexer.atColon_iff fresh there word]
  cases Lexer.follows_after fresh there with
  | other now none notName =>
    refine ⟨iff_of_false notName fun here => ?_, fun _ => ?_⟩
    · simp [here.pending] at none
    · obtain ⟨token, -⟩ := Lexer.next_word word (Lexer.next_after there)
      have own := (Lexer.nextWord_fresh (l := (l.after n).skipGap) now).2
      rw [← token, known] at own
      split at own
      · exact absurd own notName
      · rw [known, own]
        rfl
  | name _ _ _ _ free => simp [known] at free
  | qualifier _ here name => exact ⟨iff_of_true name here, fun other => by simp [name] at other⟩
  | colon _ _ shown => exact absurd word (Lexer.not_isWordToken_of_colon shown)
  | suffix _ none suffix =>
    refine ⟨iff_of_false (by simp [suffix]) fun here => ?_, fun other => by simp [suffix] at other⟩
    simp [here.pending] at none

/-- In front of the call of a function `true` is its qualifier, not the branch of a conditional. -/
theorem reserved_word_kinds_branch :
    let l := Lexer.ofExpression "c ? true:f(x)"
    let t : Token := ⟨.identifier, "true", ⟨4, 1, 5⟩⟩
    l.items[2]? = some (.ok t) ∧ t.lexeme ∈ TokenKind.reservedWords ∧
      ∃ colon name paren, l.AttachedCall 2 t colon name paren := by
  intro l t
  have there : l.items[2]? = some (.ok t) := by decide +kernel
  have reserved : t.lexeme ∈ TokenKind.reservedWords := by decide
  obtain ⟨name, -⟩ :=
    reserved_word_kinds "c ? true:f(x)" l (.inr rfl) 2 t there (by decide) reserved
  exact ⟨there, reserved, name.mp rfl⟩

end ExprLang
