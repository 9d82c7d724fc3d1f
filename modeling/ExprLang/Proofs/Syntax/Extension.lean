import ExprLang.Proofs.Syntax.Lexing

/-!
# Texts in front of a brace

The lexer reads a text as before if a brace that closes stands behind it: no word, number, symbol or
string goes on with one (`Extends.nextToken`). The only tokens that change its modes are the braces
themselves (`braces_nextToken`).
-/

namespace ExprLang

namespace Lexer

/-- The second lexer has a brace behind the text of the first one, and `tail` behind that. -/
structure Extends (tail : List Char) (l l' : Lexer) : Prop where
  rest : l'.rest = l.rest ++ '}' :: tail
  modes : l'.modes = l.modes
  pending : l'.suffixPending = l.suffixPending

/-! ### Characters in front of a brace -/

section Brace

variable (cs tail : List Char)

theorem takeWhile_brace {p : Char → Bool} (stop : p '}' = false) :
    (cs ++ '}' :: tail).takeWhile p = cs.takeWhile p := by
  induction cs with
  | nil => simp [stop]
  | cons c cs ih => simp only [List.cons_append, List.takeWhile_cons, ih]

theorem dropWhile_brace {p : Char → Bool} (stop : p '}' = false) :
    (cs ++ '}' :: tail).dropWhile p = cs.dropWhile p ++ '}' :: tail := by
  induction cs with
  | nil => simp [stop]
  | cons c cs ih =>
    simp only [List.cons_append, List.dropWhile_cons, ih]
    split <;> rfl

theorem fraction_brace : fraction (cs ++ '}' :: tail) = fraction cs := by
  cases cs with
  | nil => rfl
  | cons c cs =>
    by_cases point : c = '.'
    · subst point
      simp only [List.cons_append, fraction]
      rw [takeWhile_brace cs tail (by decide)]
    · simp [fraction, point]

theorem sign_brace : sign (cs ++ '}' :: tail) = sign cs := by
  cases cs with
  | nil => rfl
  | cons c cs =>
    unfold sign
    split <;> split <;> simp_all

theorem sign_isPrefix : sign cs <+: cs := by
  unfold sign
  split <;> simp

theorem exponent_brace : exponent (cs ++ '}' :: tail) = exponent cs := by
  cases cs with
  | nil => rfl
  | cons c cs =>
    simp only [List.cons_append, exponent, sign_brace]
    rw [List.drop_append_of_le_length (sign_isPrefix cs).length_le, takeWhile_brace _ _ (by decide)]

theorem startsSuffix_brace : startsSuffix (cs ++ '}' :: tail) = startsSuffix cs := by
  match cs with
  | [] => rfl
  | [c] =>
    by_cases colon : c = ':'
    · subst colon
      rfl
    · simp [startsSuffix, colon]
  | c :: d :: cs =>
    by_cases colon : c = ':'
    · subst colon
      simp only [List.cons_append, startsSuffix]
      rw [dropWhile_brace _ _ (by decide), dropWhile_brace _ _ (by decide)]
      cases (cs.dropWhile isWordPart).dropWhile isGap <;> rfl
    · simp [startsSuffix, colon]

theorem symbolAt_brace (c : Char) : symbolAt c (cs ++ '}' :: tail).head? = symbolAt c cs.head? := by
  cases cs with
  | cons d cs => rfl
  | nil =>
    show symbolAt c (some '}') = symbolAt c none
    unfold symbolAt
    split <;> simp_all

theorem fraction_isPrefix : fraction cs <+: cs := by
  unfold fraction
  split
  · exact List.cons_prefix_cons.mpr ⟨rfl, List.takeWhile_prefix _⟩
  · exact List.nil_prefix

theorem exponent_isPrefix : exponent cs <+: cs := by
  unfold exponent
  split
  · exact List.nil_prefix
  · rename_i c cs
    dsimp only
    split
    · have parts : sign cs ++ cs.drop (sign cs).length = cs :=
        List.prefix_iff_eq_append.mp (sign_isPrefix cs)
      refine List.cons_prefix_cons.mpr ⟨rfl, ?_⟩
      conv => rhs; rw [← parts]
      exact (List.prefix_append_right_inj _).mpr (List.takeWhile_prefix _)
    · exact List.nil_prefix

theorem symbolAt_width_le (c : Char) : (symbolAt c cs.head?).2 ≤ cs.length + 1 := by
  cases cs with
  | nil =>
    show (symbolAt c none).2 ≤ 1
    unfold symbolAt
    split <;> simp_all
  | cons d cs =>
    unfold symbolAt
    split <;> simp

end Brace

/-! ### One token -/

/-- What two lexers read shows the same, and leaves the second one with the same text behind. -/
def Alongside (tail : List Char) (r r' : Token × Lexer) : Prop :=
  r'.1.shown = r.1.shown ∧ Extends tail r.2 r'.2

namespace Extends

variable {tail : List Char} {l l' : Lexer}

theorem take (h : Extends tail l l') {n : Nat} (le : n ≤ l.rest.length) :
    l'.rest.take n = l.rest.take n := by
  rw [h.rest, List.take_append_of_le_length le]

theorem skip (h : Extends tail l l') {n : Nat} (le : n ≤ l.rest.length) :
    Extends tail (l.skip n) (l'.skip n) := by
  refine ⟨?_, h.modes, h.pending⟩
  rw [rest_skip, rest_skip, h.rest, List.drop_append_of_le_length le]

theorem skipGap (h : Extends tail l l') : Extends tail l.skipGap l'.skipGap := by
  unfold Lexer.skipGap
  rw [h.rest, takeWhile_brace _ _ (by decide)]
  exact h.skip (List.takeWhile_prefix _).length_le

theorem nextNumber (h : Extends tail l l') : Alongside tail l.nextNumber l'.nextNumber := by
  have whole : l'.rest.takeWhile Text.isDigit = l.rest.takeWhile Text.isDigit := by
    rw [h.rest, takeWhile_brace _ _ (by decide)]
  have drop (n : Nat) (le : n ≤ l.rest.length) :
      l'.rest.drop n = l.rest.drop n ++ '}' :: tail := by
    rw [h.rest, List.drop_append_of_le_length le]
  -- each part of the number ends before the brace
  have first := (List.takeWhile_prefix Text.isDigit (l := l.rest)).length_le
  have second := (fraction_isPrefix (l.rest.drop (l.rest.takeWhile Text.isDigit).length)).length_le
  have third := (exponent_isPrefix (l.rest.drop ((l.rest.takeWhile Text.isDigit).length +
    (fraction (l.rest.drop (l.rest.takeWhile Text.isDigit).length)).length))).length_le
  rw [List.length_drop] at second third
  unfold Lexer.nextNumber
  dsimp only
  rw [whole, drop _ first, fraction_brace, drop _ (by omega), exponent_brace]
  exact ⟨congrArg (fun text => (_, String.ofList text)) (h.take (by omega)), h.skip (by omega)⟩

theorem nextWord (h : Extends tail l l') : Alongside tail l.nextWord l'.nextWord := by
  have word : l'.rest.takeWhile isWordPart = l.rest.takeWhile isWordPart := by
    rw [h.rest, takeWhile_brace _ _ (by decide)]
  have after := h.skip (List.takeWhile_prefix isWordPart (l := l.rest)).length_le
  have suffix : startsSuffix (l'.skip (l.rest.takeWhile isWordPart).length).rest =
      startsSuffix (l.skip (l.rest.takeWhile isWordPart).length).rest := by
    rw [after.rest, startsSuffix_brace]
  unfold Lexer.nextWord
  simp only [word, suffix, h.pending]
  split
  · exact ⟨rfl, after.rest, after.modes, rfl⟩
  · split
    · exact ⟨rfl, after.rest, after.modes, rfl⟩
    · exact ⟨rfl, after⟩

theorem nextSymbol (h : Extends tail l l') {c : Char} {cs : List Char} (rest : l.rest = c :: cs) :
    Alongside tail (l.nextSymbol c cs) (l'.nextSymbol c (cs ++ '}' :: tail)) := by
  have width : (symbolAt c cs.head?).2 ≤ l.rest.length := by
    rw [rest]
    exact symbolAt_width_le cs c
  unfold Lexer.nextSymbol
  rw [symbolAt_brace]
  exact ⟨by simp only [Token.shown, h.take width], h.skip width⟩

end Extends

theorem StringScan.of_after {c : Char} {n width : Nat} {text : List Char} {scan : StringScan}
    (closed : scan.after c n = .closed text width) :
    ∃ text' width', scan = .closed text' width' ∧ text = c :: text' ∧ width = width' + n := by
  cases scan with
  | closed text' width' =>
    cases closed
    exact ⟨text', width', rfl, rfl, rfl⟩
  | badEscape ch w => cases closed
  | unterminated w => cases closed

section Scan

variable {quote : Char} (cs : List Char)

theorem scanString_quote : scanString quote (quote :: cs) = .closed [] 1 := by
  unfold scanString
  exact if_pos rfl

theorem scanString_escaped {e : Char} (notQuote : '\\' ≠ quote) (escapable : isEscapable e = true) :
    scanString quote ('\\' :: e :: cs) = (scanString quote cs).after e 2 := by
  simp [scanString, notQuote, escapable]

theorem scanString_plain {c : Char} (notQuote : c ≠ quote) (notBackslash : c ≠ '\\') :
    scanString quote (c :: cs) = (scanString quote cs).after c 1 := by
  conv => lhs; unfold scanString
  rw [if_neg notQuote, if_neg notBackslash]

end Scan

variable {quote : Char} {cs text : List Char} {width : Nat}

/-- A closed string is closed whatever comes behind it. -/
theorem scanString_append (closed : scanString quote cs = .closed text width) (more : List Char) :
    scanString quote (cs ++ more) = .closed text width ∧ width ≤ cs.length := by
  induction cs using scanString.induct quote generalizing text width with
  | case1 => cases closed
  | case2 cs =>
    rw [scanString_quote] at closed
    cases closed
    exact ⟨scanString_quote _, by simp⟩
  | case3 other => simp [scanString, other] at closed
  | case4 e cs escapable other ih =>
    rw [scanString_escaped _ other escapable] at closed
    obtain ⟨text', width', inner, rfl, rfl⟩ := StringScan.of_after closed
    obtain ⟨inner', le⟩ := ih inner
    rw [List.cons_append, List.cons_append, scanString_escaped _ other escapable, inner']
    exact ⟨rfl, Nat.add_le_add_right le 2⟩
  | case5 e cs escapable other => simp [scanString, other, escapable] at closed
  | case6 e cs other plain ih =>
    rw [scanString_plain _ other plain] at closed
    obtain ⟨text', width', inner, rfl, rfl⟩ := StringScan.of_after closed
    obtain ⟨inner', le⟩ := ih inner
    rw [List.cons_append, scanString_plain _ other plain, inner']
    exact ⟨rfl, Nat.add_le_add_right le 1⟩

/-- A brace closes no string. -/
theorem scanString_of_brace (other : '}' ≠ quote)
    (closed : scanString quote (cs ++ ['}']) = .closed text width) :
    ∃ text width, scanString quote cs = .closed text width := by
  induction cs using scanString.induct quote generalizing text width with
  | case1 => simp [scanString, other, StringScan.after] at closed
  | case2 cs => exact ⟨[], 1, scanString_quote cs⟩
  | case3 backslash =>
    have plain : isEscapable '}' = false := by decide
    simp [scanString, backslash, plain] at closed
  | case4 e cs escapable backslash ih =>
    rw [List.cons_append, List.cons_append, scanString_escaped _ backslash escapable] at closed
    obtain ⟨_, _, inner, -, -⟩ := StringScan.of_after closed
    obtain ⟨text, width, inner⟩ := ih inner
    exact ⟨e :: text, width + 2, by rw [scanString_escaped _ backslash escapable, inner]; rfl⟩
  | case5 e cs escapable backslash => simp [scanString, backslash, escapable] at closed
  | case6 e cs differs plain ih =>
    rw [List.cons_append, scanString_plain _ differs plain] at closed
    obtain ⟨_, _, inner, -, -⟩ := StringScan.of_after closed
    obtain ⟨text, width, inner⟩ := ih inner
    exact ⟨e :: text, width + 1, by rw [scanString_plain _ differs plain, inner]; rfl⟩

namespace Extends

variable {tail : List Char} {l l' : Lexer}

theorem nextString (h : Extends tail l l') {quote : Char} {cs : List Char} {t : Token}
    (rest : l.rest = quote :: cs) (read : (l.nextString quote cs).1 = .ok t) :
    ∃ t', (l'.nextString quote (cs ++ '}' :: tail)).1 = .ok t' ∧
      Alongside tail (t, (l.nextString quote cs).2)
        (t', (l'.nextString quote (cs ++ '}' :: tail)).2) := by
  unfold Lexer.nextString at read ⊢
  cases scan : scanString quote cs with
  | closed text width =>
    rw [scan] at read
    cases read
    obtain ⟨scan', le⟩ := scanString_append scan ('}' :: tail)
    rw [scan']
    exact ⟨_, rfl, rfl, h.skip (by rw [rest]; exact Nat.succ_le_succ le)⟩
  | badEscape ch width =>
    rw [scan] at read
    cases read
  | unterminated width =>
    rw [scan] at read
    cases read

/-- The text of the second lexer begins with the same class of token. -/
theorem nextToken_eq (h : Extends tail l l') {c : Char} {cs : List Char} (rest : l.rest = c :: cs) :
    l'.nextToken = l'.nextOf c (cs ++ '}' :: tail) (classOf c cs.head?) := by
  have rest' : l'.rest = c :: (cs ++ '}' :: tail) := by rw [h.rest, rest]; rfl
  rw [Lexer.nextToken_eq rest']
  cases cs <;> rfl

/-- A token that is read is read in front of a brace too. -/
theorem nextToken (h : Extends tail l l') {t : Token} (more : l.rest ≠ [])
    (read : l.nextToken.1 = .ok t) :
    ∃ t', l'.nextToken.1 = .ok t' ∧ Alongside tail (t, l.nextToken.2) (t', l'.nextToken.2) := by
  obtain ⟨c, cs, rest⟩ := List.exists_cons_of_ne_nil more
  have after := h.skip (n := 1) (by simp [rest])
  rw [Lexer.nextToken_eq rest] at read ⊢
  rw [h.nextToken_eq rest]
  cases kind : classOf c cs.head? with
  | openBrace =>
    rw [kind] at read
    cases read
    exact ⟨_, rfl, rfl, after.rest, congrArg (LexMode.braces :: ·) h.modes, h.pending⟩
  | closeBrace =>
    rw [kind] at read
    cases read
    exact ⟨_, rfl, rfl, after.rest, congrArg List.tail h.modes, h.pending⟩
  | string =>
    rw [kind] at read
    exact h.nextString rest read
  | number =>
    rw [kind] at read
    cases read
    exact ⟨_, rfl, h.nextNumber⟩
  | word =>
    rw [kind] at read
    cases read
    exact ⟨_, rfl, h.nextWord⟩
  | symbol =>
    rw [kind] at read
    cases read
    exact ⟨_, rfl, h.nextSymbol rest⟩

/-- A token that is read in front of the last brace is read without it. -/
theorem nextToken_of_brace (h : Extends [] l l') {t : Token} (more : l.rest ≠ [])
    (read : l'.nextToken.1 = .ok t) : ∃ t, l.nextToken.1 = .ok t := by
  obtain ⟨c, cs, rest⟩ := List.exists_cons_of_ne_nil more
  rw [h.nextToken_eq rest] at read
  rw [Lexer.nextToken_eq rest]
  cases kind : classOf c cs.head? with
  | string =>
    -- only a string may end behind the text, and none ends with a brace
    rw [kind] at read
    have other : '}' ≠ c := by
      rcases quote_of_classOf kind with rfl | rfl <;> decide
    unfold nextOf Lexer.nextString at read ⊢
    dsimp only at read ⊢
    split at read
    · rename_i closed
      obtain ⟨text, width, closed⟩ := scanString_of_brace other closed
      exact ⟨_, by rw [closed]⟩
    · cases read
    · cases read
  | _ => exact ⟨_, rfl⟩

end Extends

/-! ### Braces -/

/-- What the kind of a token says of the text in front of which it was read, and of the modes behind
it. -/
inductive Braces (l : Lexer) (kind : TokenKind) (modes : List LexMode) : Prop where
  | final : kind = .endOfText → l.rest = [] → modes = l.modes → Braces l kind modes
  | opens : kind = .openBrace → modes = .braces :: l.modes → Braces l kind modes
  | closes {cs : List Char} : kind = .closeBrace → l.rest = '}' :: cs → modes = l.modes.tail →
      Braces l kind modes
  | other : kind ∉ [.endOfText, .openBrace, .closeBrace] → modes = l.modes → Braces l kind modes

/-- No class has the end of the text in it, and only two have braces. -/
theorem not_brace_of_mem_kinds {cls : TokenClass} {kind : TokenKind} (mem : kind ∈ cls.kinds)
    (notOpen : cls ≠ .openBrace) (notClose : cls ≠ .closeBrace) :
    kind ∉ [.endOfText, .openBrace, .closeBrace] := by
  revert kind
  cases cls with
  | openBrace => exact absurd rfl notOpen
  | closeBrace => exact absurd rfl notClose
  | _ => decide

theorem modes_nextWord (l : Lexer) : l.nextWord.2.modes = l.modes := by
  unfold nextWord
  dsimp only
  repeat' split
  all_goals rfl

theorem braces_nextToken {l : Lexer} {t : Token} (read : l.nextToken.1 = .ok t) :
    Braces l t.kind l.nextToken.2.modes := by
  cases rest : l.rest with
  | nil =>
    simp only [nextToken, rest] at read ⊢
    cases read
    exact .final rfl rest rfl
  | cons c cs =>
    rw [nextToken_eq rest] at read ⊢
    have mem := kind_of_nextOf l c read
    cases kind : classOf c cs.head? with
    | openBrace =>
      rw [kind] at read
      cases read
      exact .opens rfl rfl
    | closeBrace =>
      rw [kind] at read
      cases read
      exact .closes rfl (eq_closeBrace_of_classOf kind ▸ rest) rfl
    | string =>
      rw [kind] at read mem
      refine .other (not_brace_of_mem_kinds mem (by simp) (by simp)) ?_
      unfold nextOf nextString at read ⊢
      dsimp only at read ⊢
      split at read <;> cases read
      rfl
    | number =>
      rw [kind] at mem
      exact .other (not_brace_of_mem_kinds mem (by simp) (by simp)) rfl
    | word =>
      rw [kind] at mem
      exact .other (not_brace_of_mem_kinds mem (by simp) (by simp)) (modes_nextWord l)
    | symbol =>
      rw [kind] at mem
      exact .other (not_brace_of_mem_kinds mem (by simp) (by simp)) rfl

end Lexer

end ExprLang
