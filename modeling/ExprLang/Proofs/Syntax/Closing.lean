import ExprLang.Proofs.Syntax.Extension
import ExprLang.Proofs.Syntax.TokensKept.Combinators

/-!
# Whole texts in front of a brace

A text without errors that opens all the braces it closes is read as before in front of one more
brace, and then the brace instead of the end (`Extends.items_closed`). The other way round, a text
that is read up to such a brace, with nothing behind it, has no other end
(`Extends.items_of_closed`): a brace that closes too early leaves literal text behind. A `Tally`
counts the braces.
-/

namespace ExprLang

namespace Lexer

/-- The braces that are open are those that a tally counts. -/
theorem Within.pass {l next : Lexer} {y z : Tally} {t : Token} (h : l.Within y.opened)
    (braces : Braces l t.kind next.modes) (passed : y.pass t = some z) : next.Within z.opened := by
  unfold Within at h ⊢
  unfold Tally.pass at passed
  cases braces with
  | final kind _ modes =>
    rw [kind] at passed
    cases passed
    exact modes.trans h
  | opens kind modes =>
    rw [kind] at passed
    cases passed
    rw [modes, h]
    rfl
  | closes kind _ modes =>
    rw [kind] at passed
    cases opened : y.opened with
    | zero =>
      rw [opened] at passed
      cases passed
    | succ n =>
      rw [opened] at passed h
      cases passed
      rw [modes, h]
      rfl
  | other kind modes =>
    rw [modes, h]
    split at passed
    · simp_all
    · cases passed
    · simp_all
    · cases passed
      rfl

/-- What the first item of a text says of the lexer. -/
theorem items_cases {l : Lexer} {t : Token} {behind : List (Except ParseError Token)}
    (items : l.items = .ok t :: behind) :
    l.next.1 = .ok t ∧ (t.kind = .endOfText ∧ behind = [] ∨
      t.kind ≠ .endOfText ∧ behind = l.next.2.items) := by
  cases read : l.next.1 with
  | error e =>
    rw [items_of_error read] at items
    cases items
  | ok u =>
    by_cases final : u.kind = .endOfText
    · rw [items_of_end read final] at items
      cases items
      exact ⟨rfl, .inl ⟨final, rfl⟩⟩
    · rw [items_of_token read final] at items
      cases items
      exact ⟨rfl, .inr ⟨final, rfl⟩⟩

variable {l l' : Lexer} {y z : Tally}

/-- At the end of a text nothing but the end is read. -/
theorem items_of_nil {l : Lexer} (rest : l.rest = []) :
    ∃ last : Token, l.items = [.ok last] ∧ last.kind = .endOfText := by
  by_cases inside : l.mode = .text
  · have read : l.next.1 = .ok (.atEnd l.position) := by
      simp only [next, inside, nextInText, rest]
    exact ⟨_, items_of_end read rfl, rfl⟩
  · have rest' : l.skipGap.rest = [] := by simp [skipGap, rest]
    have read : l.next.1 = .ok (.atEnd l.skipGap.position) := by
      rw [next_inside inside, nextToken, rest']
    exact ⟨_, items_of_end read rfl, rfl⟩

/-- Literal text that is left is read before the end. -/
theorem not_final_of_text {l : Lexer} {t : Token} (modes : l.modes = []) (more : l.rest ≠ [])
    (read : l.next.1 = .ok t) : t.kind ≠ .endOfText := by
  have text : l.mode = .text := by rw [mode, modes]; rfl
  simp only [next, text] at read
  cases read
  unfold nextInText
  split
  · contradiction
  · simp
  · simp
  · simp

variable {l l' : Lexer} {y z : Tally} {t : Token}

/-- The end of a text is read where nothing but a gap is left, and only there. -/
theorem skipGap_eq_nil_iff (inside : l.mode ≠ .text) (read : l.next.1 = .ok t) :
    l.skipGap.rest = [] ↔ t.kind = .endOfText := by
  rw [next_inside inside] at read
  constructor
  · intro rest
    rw [nextToken, rest] at read
    cases read
    rfl
  · intro final
    cases braces_nextToken read with
    | final _ rest _ => exact rest
    | opens kind => simp [kind] at final
    | closes kind => simp [kind] at final
    | other kind => simp [final] at kind

theorem Within.next (h : l.Within y.opened) (read : l.next.1 = .ok t) (passed : y.pass t = some z) :
    l.next.2.Within z.opened := by
  rw [next_inside h.inside] at read ⊢
  exact Within.pass (l := l.skipGap) h (braces_nextToken read) passed

theorem modes_of_closeBrace (inside : l.mode ≠ .text) (read : l.next.1 = .ok t)
    (closes : t.kind = .closeBrace) : l.next.2.modes = l.modes.tail := by
  rw [next_inside inside] at read ⊢
  cases braces_nextToken read with
  | final kind => simp [kind] at closes
  | opens kind => simp [kind] at closes
  | closes _ _ modes => exact modes
  | other kind => simp [closes] at kind

/-- At the end of a text no name of a function is awaited. -/
theorem Awaits.of_gap (h : l.Awaits) (rest : l.skipGap.rest = []) : l.suffixPending = false := by
  cases h with
  | nothing fresh => exact fresh
  | colon here =>
    obtain ⟨c, cs, text, -⟩ := of_startsSuffix here.suffix
    rw [rest_skipGap text (by decide)] at rest
    cases rest
  | suffix here =>
    obtain ⟨c, cs, text, start⟩ := here.start
    rw [rest_skipGap text (not_isGap_of_isWordStart start)] at rest
    cases rest

namespace Extends

variable {tail : List Char}

theorem mode_eq (h : Extends tail l l') : l'.mode = l.mode :=
  congrArg (fun ms : List LexMode => ms.head?.getD .text) h.modes

/-- Where more than a gap is left, both lexers read the same. -/
theorem next (h : Extends tail l l') (inside : l.mode ≠ .text) (more : l.skipGap.rest ≠ [])
    (read : l.next.1 = .ok t) :
    ∃ t', l'.next.1 = .ok t' ∧ Alongside tail (t, l.next.2) (t', l'.next.2) := by
  rw [next_inside inside] at read ⊢
  rw [next_inside (h.mode_eq ▸ inside)]
  exact h.skipGap.nextToken more read

theorem next_of_brace (h : Extends [] l l') {t' : Token} (inside : l.mode ≠ .text)
    (more : l.skipGap.rest ≠ []) (read : l'.next.1 = .ok t') :
    ∃ t, l.next.1 = .ok t ∧ Alongside [] (t, l.next.2) (t', l'.next.2) := by
  obtain ⟨t, first⟩ : ∃ t, l.next.1 = .ok t := by
    rw [next_inside inside]
    rw [next_inside (h.mode_eq ▸ inside)] at read
    exact h.skipGap.nextToken_of_brace more read
  obtain ⟨u, second, along⟩ := h.next inside more first
  cases read.symm.trans second
  exact ⟨t, first, along⟩

/-- Where nothing but a gap is left, the brace behind the text is read. -/
theorem items_brace (h : Extends tail l l') (inside : l.mode ≠ .text)
    (rest : l.skipGap.rest = []) :
    ∃ (close : Token) (next : Lexer), l'.items = .ok close :: next.items ∧
      close.kind = .closeBrace ∧ next.rest = tail ∧ next.modes = l.modes.tail ∧
      next.suffixPending = l.suffixPending := by
  have inside' : l'.mode ≠ .text := h.mode_eq ▸ inside
  have rest' : l'.skipGap.rest = '}' :: tail := by rw [h.skipGap.rest, rest]; rfl
  refine ⟨_, _, items_cons inside' (nextToken_closeBrace rest') (by simp), rfl, ?_, ?_, h.pending⟩
  · rw [rest_pop, rest_skip, rest']
    rfl
  · exact congrArg List.tail h.modes

/-- A text without errors that opens all the braces it closes is read as before in front of one more
brace. -/
theorem items_closed {ts : List Token} {last : Token} (h : Extends tail l l') (awaits : l.Awaits)
    (within : l.Within y.opened) (items : l.items = (ts ++ [last]).map .ok)
    (final : last.kind = .endOfText) (passed : y.passAll ts = some z) (closed : z.opened = 0) :
    ∃ (us : List Token) (close : Token) (next : Lexer),
      l'.items = us.map .ok ++ .ok close :: next.items ∧
      us.map Token.shown = ts.map Token.shown ∧ close.kind = .closeBrace ∧ next.rest = tail ∧
      next.modes = [] ∧ next.suffixPending = false := by
  have inside := within.inside
  induction ts generalizing l l' y with
  | nil =>
    cases passed
    obtain ⟨read, -⟩ := items_cases items
    have gap := (skipGap_eq_nil_iff inside read).mpr final
    obtain ⟨close, next, items', kind, rest, modes, pending⟩ := h.items_brace inside gap
    refine ⟨[], close, next, items', rfl, kind, rest, ?_, pending.trans (awaits.of_gap gap)⟩
    rw [modes, within, closed]
    rfl
  | cons t ts ih =>
    obtain ⟨read, ⟨-, nil⟩ | ⟨notEnd, behind⟩⟩ := items_cases items
    · simp at nil
    obtain ⟨between, first, later⟩ := Option.bind_eq_some_iff.mp passed
    obtain ⟨t', read', shown, after⟩ :=
      h.next inside (mt (skipGap_eq_nil_iff inside read).mp notEnd) read
    have within' := within.next read first
    obtain ⟨us, close, next, items', same, rest⟩ :=
      ih after (follows_next awaits read).awaits within' behind.symm later within'.inside
    have kinds : t'.kind = t.kind := congrArg Prod.fst shown
    refine ⟨t' :: us, close, next, ?_, ?_, rest⟩
    · rw [items_of_token read' (kinds ▸ notEnd), items']
      rfl
    · rw [List.map_cons, List.map_cons, same, ← shown]

/-- A text that is read up to a last brace that it does not open, with nothing behind it, is read as
before without the brace. -/
theorem items_of_closed {us : List Token} {close last : Token} (h : Extends [] l l')
    (within : l.Within y.opened) (items : l'.items = us.map .ok ++ [.ok close, .ok last])
    (closes : close.kind = .closeBrace) (final : last.kind = .endOfText)
    (passed : y.passAll us = some z) (closed : z.opened = 0) :
    ∃ (ts : List Token) (last : Token), l.items = (ts ++ [last]).map .ok ∧
      ts.map Token.shown = us.map Token.shown ∧ last.kind = .endOfText := by
  have inside := within.inside
  induction us generalizing l l' y with
  | nil =>
    cases passed
    obtain ⟨read, ⟨end', -⟩ | ⟨-, behind⟩⟩ := items_cases items
    · simp [closes] at end'
    by_cases none : l.skipGap.rest = []
    · have read : l.next.1 = .ok (.atEnd l.skipGap.position) := by
        rw [next_inside inside, Lexer.nextToken, none]
      exact ⟨[], _, items_of_end read rfl, rfl, rfl⟩
    · -- the brace is one of the text, and behind it literal text is left
      obtain ⟨t, first, shown, after⟩ := h.next_of_brace inside none read
      have kind : t.kind = .closeBrace := (congrArg Prod.fst shown).symm.trans closes
      have modes : l'.next.2.modes = [] := by
        rw [after.modes, modes_of_closeBrace inside first kind, within, closed]
        rfl
      obtain ⟨read', -⟩ := items_cases behind.symm
      have left : l'.next.2.rest ≠ [] := by
        rw [after.rest]
        simp
      exact absurd final (not_final_of_text modes left read')
  | cons u us ih =>
    obtain ⟨read, ⟨-, nil⟩ | ⟨notEnd, behind⟩⟩ := items_cases items
    · simp at nil
    obtain ⟨between, first, later⟩ := Option.bind_eq_some_iff.mp passed
    by_cases none : l.skipGap.rest = []
    · -- nothing comes behind the brace but the end
      obtain ⟨close', next, items', -, rest, -⟩ := h.items_brace inside none
      obtain ⟨last', single, -⟩ := items_of_nil rest
      have length := congrArg List.length (items'.symm.trans items)
      simp [single] at length
    · obtain ⟨t, read', shown, after⟩ := h.next_of_brace inside none read
      have open' : l'.Within y.opened := h.modes.trans within
      have within' : l.next.2.Within between.opened :=
        after.modes.symm.trans (open'.next read first)
      obtain ⟨ts, last', items', same, final'⟩ := ih after within' behind.symm later within'.inside
      have kinds : u.kind = t.kind := congrArg Prod.fst shown
      refine ⟨t :: ts, last', ?_, ?_, final'⟩
      · rw [items_of_token read' (kinds ▸ notEnd), items']
        rfl
      · rw [List.map_cons, List.map_cons, same, ← shown]

end Extends

end Lexer

end ExprLang
