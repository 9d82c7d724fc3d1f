import ExprLang.Proofs.Syntax.Rereading

/-!
# Tokens with spaces between them

The tokens of an expression are written with one space between neighbours, and with none at the colon
in front of the name of a function. The lexer reads the same tokens again: it goes through the same
states as before (`Retraces`), whatever stood between the tokens. **Key theorem**:
`respaced_reads_back`.
-/

namespace ExprLang

/-- No space is written between a token and the next one: they meet at the colon in front of the name
of a function. -/
def joined (t u : Token) (behind : List Token) : Bool :=
  t.kind == .colon && u.kind == .functionSuffix ||
    u.kind == .colon && behind.head?.any (·.kind == .functionSuffix)

/-- What is written between a token and those behind it. -/
def gapBehind (t : Token) : List Token → List Char
  | [] => []
  | u :: behind => if joined t u behind then [] else [' ']

/-- Tokens with one space between neighbours, but for those that are joined. -/
def respaced (quote : Char) : List Token → List Char
  | [] => []
  | t :: ts => t.written quote ++ (gapBehind t ts ++ respaced quote ts)

/-- Every closing brace has an opening one in front of it, or one of those that are open already. -/
def NoUnmatched (opened : Nat) (ts : List Token) : Prop :=
  ∀ n, ((ts.take n).countP fun t => t.kind == .closeBrace) ≤
    opened + (ts.take n).countP fun t => t.kind == .openBrace

/-- It is enough to look at the tokens that there are. -/
theorem noUnmatched_iff {opened : Nat} {ts : List Token} :
    (∀ n < ts.length + 1, ((ts.take n).countP fun t => t.kind == .closeBrace) ≤
      opened + (ts.take n).countP fun t => t.kind == .openBrace) ↔ NoUnmatched opened ts := by
  refine ⟨fun first n => ?_, fun h n _ => h n⟩
  by_cases inside : n < ts.length + 1
  · exact first n inside
  · have whole := first ts.length (Nat.lt_succ_self _)
    rw [List.take_length] at whole
    rwa [List.take_of_length_le (by omega)]

instance (opened : Nat) (ts : List Token) : Decidable (NoUnmatched opened ts) :=
  decidable_of_iff _ noUnmatched_iff

theorem NoUnmatched.opens {opened : Nat} {t : Token} {ts : List Token}
    (h : NoUnmatched opened (t :: ts)) (kind : t.kind = .openBrace) : NoUnmatched (opened + 1) ts := by
  intro n
  have counts := h (n + 1)
  simp [kind] at counts
  omega

theorem NoUnmatched.closes {opened : Nat} {t : Token} {ts : List Token}
    (h : NoUnmatched opened (t :: ts)) (kind : t.kind = .closeBrace) :
    ∃ outer, opened = outer + 1 ∧ NoUnmatched outer ts := by
  have first := h 1
  simp [kind] at first
  refine ⟨opened - 1, by omega, fun n => ?_⟩
  have counts := h (n + 1)
  simp [kind] at counts
  omega

theorem NoUnmatched.other {opened : Nat} {t : Token} {ts : List Token}
    (h : NoUnmatched opened (t :: ts)) (kind : t.kind ∉ [.endOfText, .openBrace, .closeBrace]) :
    NoUnmatched opened ts := by
  intro n
  have counts := h (n + 1)
  simp only [List.mem_cons, List.not_mem_nil, or_false, not_or] at kind
  simpa [kind] using counts

namespace Lexer

/-- The modes behind a token depend on its kind and on those before it only. -/
theorem Braces.modes_eq {l m : Lexer} {kind : TokenKind} {ms ms' : List LexMode}
    (h : Braces l kind ms) (h' : Braces m kind ms') (same : m.modes = l.modes) : ms' = ms := by
  cases h with
  | final here _ modes => cases h' <;> simp_all
  | opens here modes => cases h' <;> simp_all
  | closes here _ modes => cases h' <;> simp_all
  | other here modes => cases h' <;> simp_all

/-- Where the braces are matched the lexer stays inside the expression. -/
theorem Within.behind {l : Lexer} {opened : Nat} {t : Token} {ts : List Token} {ms : List LexMode}
    (h : l.Within opened) (braces : Braces l t.kind ms) (matched : NoUnmatched opened (t :: ts))
    (notEnd : t.kind ≠ .endOfText) :
    ∃ opened', ms = List.replicate opened' .braces ++ [.expression] ∧ NoUnmatched opened' ts := by
  cases braces with
  | final final => exact absurd final notEnd
  | opens kind modes =>
    refine ⟨opened + 1, ?_, matched.opens kind⟩
    rw [modes, h]
    rfl
  | closes kind _ modes =>
    obtain ⟨outer, rfl, matched'⟩ := matched.closes kind
    refine ⟨outer, ?_, matched'⟩
    rw [modes, h]
    rfl
  | other kind modes => exact ⟨opened, modes.trans h, matched.other kind⟩

variable {l l' : Lexer} {t last : Token} {ts : List Token} {quote : Char}

theorem AtColon.not_atSuffix (colon : l.AtColon) : ¬ l.AtSuffix := by
  intro suffix
  obtain ⟨d, ds, rest, -⟩ := of_startsSuffix colon.suffix
  obtain ⟨c, cs, rest', start⟩ := suffix.start
  rw [rest] at rest'
  cases rest'
  cases start

/-- No name of a function is read where none is pending. -/
theorem not_suffix_of_fresh (fresh : l.suffixPending = false) (read : l.next.1 = .ok t) :
    t.kind ≠ .functionSuffix := by
  cases follows_next (.nothing fresh) read with
  | other _ _ _ notSuffix => exact notSuffix
  | name _ _ kind => simp [kind]
  | qualifier _ _ kind => simp [kind]
  | colon here => simp [here.pending] at fresh
  | suffix here => simp [here.pending] at fresh

/-- Where no name of a function is pending, the next two tokens are not its colon and itself. -/
theorem not_joined_of_fresh {u : Token} {behind : List Token} (fresh : l.suffixPending = false)
    (items : l.items = (u :: behind ++ [last]).map .ok) : joined t u behind = false := by
  obtain ⟨read, ⟨-, none⟩ | ⟨-, items'⟩⟩ := items_cases items
  · simp at none
  have notSuffix := not_suffix_of_fresh fresh read
  have second (kind : u.kind = .colon) : ∀ v ∈ behind.head?, v.kind ≠ .functionSuffix := by
    have fresh' : l.next.2.suffixPending = false := by
      cases follows_next (.nothing fresh) read with
      | other _ fresh' => exact fresh'
      | name _ fresh' => exact fresh'
      | qualifier _ _ name => simp [kind] at name
      | colon here => simp [here.pending] at fresh
      | suffix _ fresh' => exact fresh'
    cases behind with
    | nil => simp
    | cons v behind =>
      obtain ⟨read', -⟩ := items_cases items'.symm
      simpa using not_suffix_of_fresh fresh' read'
  unfold joined
  by_cases kind : u.kind = .colon
  · have none : behind.head?.any (·.kind == .functionSuffix) = false := by
      cases first : behind.head? with
      | none => rfl
      | some v => simpa using second kind v first
    simp [notSuffix, none]
  · simp [notSuffix, kind]

/-- Where no name of a function is pending a space may be written, or the text ends. -/
theorem suits_of_fresh (fresh : l.suffixPending = false)
    (items : l.items = (ts ++ [last]).map .ok) : l.Suits (gapBehind t ts ++ respaced quote ts) := by
  refine ⟨fun _ => ?_, fun colon => ?_, fun suffix => ?_⟩
  · cases ts with
    | nil => simp [gapBehind, respaced, AtGap]
    | cons u behind =>
      rw [gapBehind, not_joined_of_fresh fresh items]
      simp [AtGap]
  · simp [colon.pending] at fresh
  · simp [suffix.pending] at fresh

/-- Behind a qualifier the colon, the name and a parenthesis are written so that they are read as
such again. -/
theorem AtColon.suits (here : l.AtColon) (items : l.items = (ts ++ [last]).map .ok)
    (final : last.kind = .endOfText) : l.Suits (gapBehind t ts ++ respaced quote ts) := by
  refine ⟨fun fresh => by simp [here.pending] at fresh, fun _ => ?_,
    fun suffix => absurd suffix here.not_atSuffix⟩
  obtain ⟨colon, name, paren, more, items', shown, kind, word, shown'⟩ := here.items
  rw [items] at items'
  rcases ts with _ | ⟨u, _ | ⟨v, _ | ⟨w, behind⟩⟩⟩
  · simp at items'
  · simp at items'
  · have same : last = paren := by simp_all
    have paren' : paren.kind = .openParen := congrArg Prod.fst shown'
    rw [same, paren'] at final
    cases final
  · obtain ⟨rfl, rfl, rfl⟩ : u = colon ∧ v = name ∧ w = paren := by simp_all
    have colonKind : u.kind = .colon := congrArg Prod.fst shown
    have parenKind : w.kind = .openParen := congrArg Prod.fst shown'
    have text : gapBehind t (u :: v :: w :: behind) ++ respaced quote (u :: v :: w :: behind) =
        ':' :: (v.lexeme.toList ++ ' ' :: '(' :: (gapBehind w behind ++ respaced quote behind)) := by
      rw [respaced, respaced, respaced, Token.written_of_shown shown (by simp),
        Token.written_of_plain (t := v) (by simp [kind]), Token.written_of_shown shown' (by simp)]
      simp [gapBehind, joined, colonKind, parenKind, kind, TokenKind.image]
    rw [text]
    exact startsSuffix_name word _

/-- Behind the colon the name of the function is written without a space in front of it. -/
theorem AtSuffix.suits (here : l.AtSuffix) (colon : t.kind = .colon)
    (items : l.items = (ts ++ [last]).map .ok) (final : last.kind = .endOfText) :
    l.Suits (gapBehind t ts ++ respaced quote ts) := by
  refine ⟨fun fresh => by simp [here.pending] at fresh,
    fun colon => absurd here colon.not_atSuffix, fun _ => ?_⟩
  obtain ⟨name, next, read, kind, word, -⟩ := here.next
  cases ts with
  | nil =>
    obtain ⟨read', -⟩ := items_cases items
    rw [read] at read'
    cases read'
    simp [kind] at final
  | cons u behind =>
    obtain ⟨read', -⟩ := items_cases items
    rw [read] at read'
    cases read'
    obtain ⟨c, cs, chars, start, -⟩ := word
    refine ⟨c, cs ++ (gapBehind name behind ++ respaced quote behind), ?_, start⟩
    rw [gapBehind, joined, colon, kind, respaced, Token.written_of_plain (by simp [kind]), chars]
    rfl

theorem Follows.suits (h : Follows l t l') (items : l'.items = (ts ++ [last]).map .ok)
    (final : last.kind = .endOfText) : l'.Suits (gapBehind t ts ++ respaced quote ts) := by
  cases h with
  | other _ fresh => exact suits_of_fresh fresh items
  | name _ fresh => exact suits_of_fresh fresh items
  | suffix _ fresh => exact suits_of_fresh fresh items
  | qualifier _ here => exact here.suits items final
  | colon _ here shown => exact here.suits (congrArg Prod.fst shown) items final

/-- What is written of the tokens that are read does not begin with a gap. -/
theorem respaced_starts (isQuote : quote = '\'' ∨ quote = '"') (inside : l.mode ≠ .text)
    (items : l.items = (ts ++ [last]).map .ok) :
    ∀ c ∈ (respaced quote ts).head?, isGap c = false := by
  cases ts with
  | nil => simp [respaced]
  | cons u behind =>
    obtain ⟨read, ⟨-, none⟩ | ⟨notEnd, -⟩⟩ := items_cases items
    · simp at none
    obtain ⟨c, cs, chars, noGap⟩ := written_starts isQuote inside read notEnd
    rw [respaced, chars]
    simpa using noGap

theorem dropWhile_of_starts {p : Char → Bool} {cs : List Char}
    (starts : ∀ c ∈ cs.head?, p c = false) : cs.dropWhile p = cs := by
  cases cs with
  | nil => rfl
  | cons c cs => exact List.dropWhile_cons_of_neg (by simp [starts c rfl])

/-- The space behind a token is a gap, and so is nothing. -/
theorem dropWhile_gapBehind (starts : ∀ c ∈ (respaced quote ts).head?, isGap c = false) :
    (gapBehind t ts ++ respaced quote ts).dropWhile isGap = respaced quote ts := by
  have blank : ∀ c ∈ gapBehind t ts, isGap c = true := by
    unfold gapBehind
    split
    · simp
    · split <;> simp [isGap]
  rw [List.dropWhile_append_of_pos blank, dropWhile_of_starts starts]

/-- The second lexer is where the first one was, in front of the tokens as they are written. -/
structure Retraces (quote : Char) (l m : Lexer) (ts : List Token) : Prop where
  modes : m.modes = l.modes
  pending : m.suffixPending = l.suffixPending
  rest : m.skipGap.rest = respaced quote ts

/-- A lexer in front of the tokens as they are written reads them again. -/
theorem Retraces.items {m : Lexer} {opened : Nat} (h : Retraces quote l m ts)
    (isQuote : quote = '\'' ∨ quote = '"') (awaits : l.Awaits) (within : l.Within opened)
    (matched : NoUnmatched opened ts) (items : l.items = (ts ++ [last]).map .ok)
    (final : last.kind = .endOfText) :
    m.items.map shownItem = (ts ++ [last]).map fun t => some t.shown := by
  have inside := within.inside
  have inside' : m.mode ≠ .text := by
    rw [mode, h.modes]
    exact inside
  induction ts generalizing l m opened with
  | nil =>
    obtain ⟨read, -⟩ := items_cases items
    have own := items_gap inside ((skipGap_eq_nil_iff inside read).mpr final)
    rw [items] at own
    rw [items_gap inside' h.rest, ← own]
    rfl
  | cons t ts ih =>
    obtain ⟨read, ⟨-, none⟩ | ⟨notEnd, behind⟩⟩ := items_cases items
    · simp at none
    have follows := follows_next awaits read
    have suits : l.next.2.Suits (gapBehind t ts ++ respaced quote ts) :=
      follows.suits behind.symm final
    obtain ⟨t', m', again, shown, rest, pending⟩ :=
      reread (m := m.skipGap) isQuote awaits inside h.pending read notEnd h.rest suits
    have kinds : t'.kind = t.kind := congrArg Prod.fst shown
    -- both lexers are in the same modes behind the token
    have braces : Braces l.skipGap t.kind l.next.2.modes := by
      rw [next_inside inside] at read ⊢
      exact braces_nextToken read
    have braces' : Braces m.skipGap t.kind m'.modes := by
      have token := braces_nextToken (congrArg Prod.fst again)
      rwa [again, kinds] at token
    obtain ⟨opened', within', matched'⟩ := Within.behind (l := l.skipGap) within braces matched notEnd
    have within' : l.next.2.Within opened' := within'
    have modes : m'.modes = l.next.2.modes := braces.modes_eq braces' h.modes
    have gap : m'.skipGap.rest = respaced quote ts := by
      rw [rest_skipGap_eq_dropWhile, rest]
      exact dropWhile_gapBehind (respaced_starts isQuote within'.inside behind.symm)
    have later := ih ⟨modes, pending, gap⟩ follows.awaits within' matched' behind.symm within'.inside
      (by rw [mode, modes]; exact within'.inside)
    rw [items_cons inside' again (kinds ▸ notEnd), List.map_cons, later]
    exact congrArg (fun shown => some shown :: _) shown

end Lexer

/-- The tokens of an expression that has no error and no unmatched brace are read again from a text in
which one space stands between neighbours, and none at the colon in front of the name of a function.
Strings are in quotes of either kind there, with all quotes and backslashes escaped. -/
theorem respaced_reads_back (source : String) (ts : List Token) (last : Token)
    (read : (Lexer.ofExpression source).items = (ts ++ [last]).map .ok)
    (matched : NoUnmatched 0 ts) (quote : Char) (isQuote : quote = '\'' ∨ quote = '"') :
    (Lexer.ofExpression (String.ofList (respaced quote ts))).items.map shownItem =
      (ts ++ [last]).map fun t => some t.shown := by
  have inside : (Lexer.ofExpression source).mode ≠ .text := by
    show LexMode.expression ≠ .text
    decide
  have final : last.kind = .endOfText := by
    have ended := (Lexer.ofExpression source).ended_items
    rw [read] at ended
    exact (ended last [] ⟨ts.map .ok, by simp⟩).mpr rfl
  have rest : (Lexer.ofExpression (String.ofList (respaced quote ts))).skipGap.rest =
      respaced quote ts := by
    have text : (Lexer.ofExpression (String.ofList (respaced quote ts))).rest = respaced quote ts :=
      String.toList_ofList
    rw [Lexer.rest_skipGap_eq_dropWhile, text]
    exact Lexer.dropWhile_of_starts (Lexer.respaced_starts isQuote inside read)
  have retraces : Lexer.Retraces quote (.ofExpression source)
      (.ofExpression (String.ofList (respaced quote ts))) ts := ⟨rfl, rfl, rest⟩
  have within : (Lexer.ofExpression source).Within 0 := rfl
  exact retraces.items isQuote (.nothing rfl) within matched read final

/-- A qualified call in a set, with a number that is no longer than its digits. -/
theorem respaced_reads_back_call :
    let source := "\x7bf:g( 'a\\'b',.5e)\x7d"
    let again := "\x7b f:g ( \"a\\'b\" , .5 e ) \x7d"
    (Lexer.ofExpression again).items.map shownItem =
      (Lexer.ofExpression source).items.map shownItem := by
  intro source again
  let ts : List Token := [⟨.openBrace, "\x7b", ⟨0, 1, 1⟩⟩, ⟨.identifier, "f", ⟨1, 1, 2⟩⟩,
    ⟨.colon, ":", ⟨2, 1, 3⟩⟩, ⟨.functionSuffix, "g", ⟨3, 1, 4⟩⟩, ⟨.openParen, "(", ⟨4, 1, 5⟩⟩,
    ⟨.string, "a'b", ⟨6, 1, 7⟩⟩, ⟨.comma, ",", ⟨12, 1, 13⟩⟩, ⟨.float, ".5", ⟨13, 1, 14⟩⟩,
    ⟨.identifier, "e", ⟨15, 1, 16⟩⟩, ⟨.closeParen, ")", ⟨16, 1, 17⟩⟩,
    ⟨.closeBrace, "\x7d", ⟨17, 1, 18⟩⟩]
  let last : Token := ⟨.endOfText, "", ⟨18, 1, 19⟩⟩
  have read : (Lexer.ofExpression source).items = (ts ++ [last]).map .ok := by decide +kernel
  have matched : NoUnmatched 0 ts := by decide
  have text : String.ofList (respaced '"' ts) = again := by decide
  rw [← text, respaced_reads_back source ts last read matched '"' (.inr rfl), read]
  rfl

end ExprLang
