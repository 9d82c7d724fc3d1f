import ExprLang.Proofs.Syntax.SpellingIrrelevant.Productions
import ExprLang.Proofs.Syntax.Places

/-!
# Progress through a text

The lexer takes a character for each token, so that the tokens of a text have different places and
are no more than its characters and the end. The parser takes a token on every way round: what a
level gives depends on its parts only where these are tighter or have fewer tokens ahead
(`Level.Progresses`), and a template goes from part to part in the same way
(`TemplateProgresses`). **Key theorem**: `reading_progresses`.
-/

namespace ExprLang

/-! ### The items of a text -/

/-- The item is the end of the text or an error. -/
def IsFinal : Except ParseError Token → Prop
  | .ok t => t.kind = .endOfText
  | .error _ => True

/-- An item that is the only one. -/
theorem IsFinal.iff_of_alone {first item : Except ParseError Token} {n : Nat} (final : IsFinal first)
    (there : [first][n]? = some item) : IsFinal item ↔ n + 1 = 1 := by
  cases n with
  | zero =>
    cases there
    exact iff_of_true final rfl
  | succ n => cases there

namespace Lexer

variable {l : Lexer} {n : Nat}

/-- The last item and no other one is final. -/
theorem isFinal_iff {item : Except ParseError Token} (there : l.items[n]? = some item) :
    IsFinal item ↔ n + 1 = l.items.length := by
  induction l using Lexer.items.induct generalizing n with
  | case1 l e read =>
    have stops : IsFinal (.error e) := trivial
    rw [items_of_error read] at there ⊢
    exact stops.iff_of_alone there
  | case2 l t read final =>
    have stops : IsFinal (.ok t) := final
    rw [items_of_end read final] at there ⊢
    exact stops.iff_of_alone there
  | case3 l t read more shorter ih =>
    rw [items_of_token read more] at there ⊢
    rw [List.length_cons, Nat.add_right_cancel_iff]
    cases n with
    | zero =>
      cases there
      have some : l.next.2.items.length ≠ 0 := by simp [items_ne_nil]
      exact iff_of_false more some.symm
    | succ n => exact ih there

theorem length_items_le (l : Lexer) : l.items.length ≤ l.rest.length + 1 := by
  induction l using Lexer.items.induct with
  | case1 l e read => simp [items_of_error read]
  | case2 l t read final => simp [items_of_end read final]
  | case3 l t read more shorter ih =>
    rw [items_of_token read more, List.length_cons]
    omega

/-- The tokens of a text stand at different places. -/
theorem offset_lt_of_items (fresh : l.position = .start) {m : Nat} {t u : Token} (lt : m < n)
    (earlier : l.items[m]? = some (.ok t)) (later : l.items[n]? = some (.ok u)) :
    t.position.offset < u.position.offset := by
  have notEnd : t.kind ≠ .endOfText := by
    intro final
    have last := (isFinal_iff earlier).mp final
    have inside := (List.getElem?_eq_some_iff.mp later).1
    omega
  exact Nat.lt_of_lt_of_le (offset_lt_boundary fresh earlier notEnd)
    (boundary_le_offset fresh lt later)

theorem next_of_nil (none : l.rest = []) : l.next = (.ok (.atEnd l.position), l) := by
  have stays : l.skipGap = l := by
    rw [skipGap, none]
    rfl
  by_cases inside : l.mode = .text
  · rw [next_inText inside, nextInText, none]
  · rw [next_inside inside, stays, nextToken, none]

/-- The end of a text is read again and again. -/
theorem next_again {t : Token} (read : l.next.1 = .ok t) (final : t.kind = .endOfText) :
    l.next.2.next = l.next := by
  obtain ⟨gap, span, middle, -, -, -, reads, same⟩ := exists_gap_of_next read
  have atEnd := next_of_nil (reads.final final)
  rw [← same, atEnd, atEnd]

theorem next_after_end {t : Token} (there : l.items[n]? = some (.ok t))
    (final : t.kind = .endOfText) (k : Nat) : (l.after (n + k)).next.1 = .ok t := by
  have read := next_after_of_items there
  have same : (l.after (n + k)).next = (l.after n).next := by
    induction k with
    | zero => rfl
    | succ k ih =>
      rw [← ih] at read ⊢
      exact next_again read final
  rw [same, read]

end Lexer

/-! ### The streams of a text -/

/-- The parser gives something on the stream with `k` tokens taken, or it fails. -/
def Parser.Takes {α : Type} (k : Nat) (p : Parser α) (s : TokenStream) : Prop :=
  p s ≠ .error .exhausted ∧
    ∀ a s', p s = .ok (a, s') → s'.items <:+ s.items ∧ s'.ahead.length + k ≤ s.ahead.length

/-- What a level gives on a stream is settled by its parts on the streams behind it, and on the stream
itself by the parts that are tighter. If these take a token, so does the level. Its loops do not go
round more often than there are tokens ahead. -/
def Level.Progresses (level : Level) (s : TokenStream) : Prop :=
  ∀ (budget budget' : Nat) (parts parts' : Level → Parser Expr),
    s.ahead.length < budget → s.ahead.length < budget' →
    (∀ part u, u.items <:+ s.items →
      u.ahead.length < s.ahead.length ∨ u = s ∧ level.rank < part.rank →
      parts part u = parts' part u ∧ (parts part).Takes 1 u) →
    Parser.production budget parts level s = Parser.production budget' parts' level s ∧
      (Parser.production budget parts level).Takes 1 s

/-- What a template gives on a stream is settled by what its expressions and its further parts give
on the streams behind it. -/
def TemplateProgresses (s : TokenStream) : Prop :=
  ∀ (whole whole' : Parser Expr)
    (more more' : Option EvalMode → Parser (List TemplatePart × Option EvalMode))
    (seen : Option EvalMode),
    (∀ u, u.items <:+ s.items → u.ahead.length < s.ahead.length →
      (whole u = whole' u ∧ whole.Takes 1 u) ∧
        ∀ seen, more seen u = more' seen u ∧ (more seen).Takes 0 u) →
    Parser.templateRound whole more seen s = Parser.templateRound whole' more' seen s ∧
      (Parser.templateRound whole more seen).Takes 0 s

/-! ### One run against itself -/

/-- The parser is compared on a stream with itself. -/
theorem parserKeeps_eq : ParserKeeps Eq Eq where
  alike {t u} same := same ▸ .same t.kind t.lexeme t.position t.position
  unexpected {s s'} expected same := by
    obtain ⟨t, ahead⟩ := s
    obtain ⟨u, ahead'⟩ := s'
    obtain rfl : t = u := same
    rfl
  invalidNumber _ same := by rw [same]
  mixedModes same := by rw [same]
  invalidTarget same := by rw [same]

theorem exceptRel_eq_iff {ε α : Type} {x x' : Except ε α} : ExceptRel Eq Eq x x' ↔ x = x' := by
  refine ⟨fun both => ?_, ?_⟩
  · cases both with
    | ok same => rw [same]
    | error same => rw [same]
  · rintro rfl
    cases x with
    | ok a => exact .ok rfl
    | error e => exact .error rfl

theorem TokenStream.rel_eq_iff {s s' : TokenStream} : s.Rel Eq Eq s' ↔ s = s' := by
  have each : ExceptRel (Eq : ParseError → ParseError → Prop) (Eq : Token → Token → Prop) = Eq := by
    funext x x'
    exact propext exceptRel_eq_iff
  refine ⟨?_, ?_⟩
  · intro like
    obtain ⟨t, items⟩ := s
    obtain ⟨u, items'⟩ := s'
    have ahead := like.ahead
    rw [ItemsRel, each, List.forall₂_eq_eq_eq] at ahead
    exact congrArg₂ TokenStream.mk like.current ahead
  · rintro rfl
    refine ⟨rfl, ?_⟩
    rw [ItemsRel, each, List.forall₂_eq_eq_eq]

/-- What it means that two parsers keep in step if their streams are the same. -/
theorem exceptRel_iff_takes {α : Type} {k : Nat} {p p' : Parser α} {s : TokenStream} :
    ExceptRel (FailsWith Eq) (EndsRel Eq Eq s k Eq) (p s) (p' s) ↔ p s = p' s ∧ p.Takes k s := by
  refine ⟨fun both => ?_, ?_⟩
  · unfold Parser.Takes
    obtain ⟨⟨a, u⟩, ⟨a', u'⟩, here, here', ends⟩ | ⟨e, e', here, here', fails⟩ := both.ok_or_error
    · obtain rfl : a = a' := ends.result
      obtain rfl : u = u' := TokenStream.rel_eq_iff.mp ends.like
      rw [here, here']
      refine ⟨rfl, by simp, fun b v same => ?_⟩
      cases same
      exact ⟨ends.rest, ends.taken⟩
    · cases fails with
      | error same =>
        rw [here, here', same]
        exact ⟨rfl, by simp, fun b v same => by cases same⟩
  · rintro ⟨same, goesOn, takes⟩
    rw [← same]
    cases run : p s with
    | ok r =>
      obtain ⟨rest, taken⟩ := takes r.1 r.2 run
      exact .ok ⟨rfl, TokenStream.rel_eq_iff.mpr rfl, rest, taken⟩
    | error h =>
      cases h with
      | error e => exact .error (.error rfl)
      | exhausted => exact absurd run goesOn

/-- Two parsers keep in step if they give the same and go on. -/
theorem InStep.of_takes {α : Type} {text : List (Except ParseError Token)} {N : Int} {k : Nat}
    {p p' : Parser α}
    (h : ∀ u : TokenStream, u.items <:+ text → (u.ahead.length : Int) ≤ N →
      p u = p' u ∧ p.Takes k u) :
    InStep Eq Eq text Anywhere N k Eq p p' := by
  intro u u' _ there le like
  obtain rfl : u = u' := TokenStream.rel_eq_iff.mp like
  exact exceptRel_iff_takes.mpr (h u there le)

theorem InStep.takes {α : Type} {k : Nat} {p p' : Parser α} {s : TokenStream}
    (h : InStep Eq Eq s.items Anywhere s.ahead.length k Eq p p') :
    p s = p' s ∧ p.Takes k s :=
  exceptRel_iff_takes.mp
    (h s s trivial (List.suffix_refl _) (Int.le_refl _) (TokenStream.rel_eq_iff.mpr rfl))

/-! ### Progress of the grammar -/

theorem Level.progresses (level : Level) {s : TokenStream} (ended : Ended s.items) :
    level.Progresses s := by
  intro budget budget' parts parts' enough enough' settled
  refine InStep.takes (InStep.production parserKeeps_eq ended (by omega) (by omega) ?_ ?_)
  · intro part tight
    refine InStep.of_takes fun u there le => settled part u there ?_
    by_cases fewer : u.ahead.length < s.ahead.length
    · exact .inl fewer
    · have items : u.items = s.items :=
        there.eq_of_length_le (by simp only [TokenStream.items, List.length_cons]; omega)
      exact .inr ⟨TokenStream.items_injective items, tight⟩
  · intro part
    exact InStep.of_takes fun u there le => settled part u there (.inl (by omega))

theorem templateProgresses {s : TokenStream} (ended : Ended s.items) : TemplateProgresses s := by
  intro whole whole' more more' seen settled
  refine InStep.takes (InStep.templateRound parserKeeps_eq ended ?_ (fun seen => ?_) seen)
  · exact InStep.of_takes fun u there le => (settled u there (by omega)).1
  · exact InStep.of_takes fun u there le => (settled u there (by omega)).2 seen

/-- A parser that agrees with itself does not use up its budget. -/
theorem Agrees.parseAll_ne_exhausted {α : Type} {p : Parser α} (h : Agrees Eq Eq p) (l : Lexer) :
    p.parseAll l ≠ .error .exhausted := by
  have same : ItemsRel Eq Eq l.items l.items :=
    List.forall₂_same.mpr fun item _ => exceptRel_eq_iff.mpr rfl
  intro halts
  have both := h.parseAll same
  rw [halts] at both
  cases both with
  | error fails => cases fails

/-! ### Whole texts -/

/-- A text is read to its end, as a template or as an expression. It has at most one token for each
character and the end or an error, which is its last item and no other. The tokens stand one behind
the other, and the end is read again and again. Both parsers come to a result: at every place of the
text the levels of the grammar, which are tied together by `Parser.production`, and the parts of a
template come back to themselves only behind a token that they have taken. -/
theorem reading_progresses (source : String) (l : Lexer)
    (start : l = .ofTemplate source ∨ l = .ofExpression source) :
    (0 < l.items.length ∧ l.items.length ≤ source.length + 1) ∧
    (∀ (m n : Nat) (t u : Token), m < n → l.items[m]? = some (.ok t) → l.items[n]? = some (.ok u) →
      t.position.offset < u.position.offset) ∧
    (∀ (n : Nat) item, l.items[n]? = some item → (IsFinal item ↔ n + 1 = l.items.length)) ∧
    (∀ (n : Nat) (t : Token), l.items[n]? = some (.ok t) → t.kind = .endOfText →
      ∀ k, (l.after (n + k)).next.1 = .ok t) ∧
    Parser.template.parseAll l ≠ .error .exhausted ∧
    Parser.standalone.parseAll l ≠ .error .exhausted ∧
    (∀ budget level,
      Parser.expr (budget + 1) level = Parser.production budget (Parser.expr budget) level) ∧
    (∀ budget seen, Parser.templateParts (budget + 1) seen =
      Parser.templateRound (Parser.expr budget .sequence) (Parser.templateParts budget) seen) ∧
    ∀ s : TokenStream, s.items <:+ l.items →
      (∀ level : Level, level.Progresses s) ∧ TemplateProgresses s := by
  obtain ⟨fresh, text⟩ : l.position = .start ∧ l.rest = source.toList := by
    rcases start with rfl | rfl <;> exact ⟨rfl, rfl⟩
  have few := l.length_items_le
  rw [text, String.length_toList] at few
  refine ⟨⟨List.length_pos_iff.mpr l.items_ne_nil, few⟩, ?_, ?_, ?_, ?_, ?_, ?_, ?_, ?_⟩
  · exact fun m n t u lt earlier later => Lexer.offset_lt_of_items fresh lt earlier later
  · exact fun n item there => Lexer.isFinal_iff there
  · exact fun n t there final k => Lexer.next_after_end there final k
  · exact (InStep.template parserKeeps_eq).parseAll_ne_exhausted l
  · exact (InStep.standalone parserKeeps_eq).parseAll_ne_exhausted l
  · exact Parser.expr_succ
  · exact Parser.templateParts_succ
  · intro s there
    have ended : Ended s.items := l.ended_items.suffix there
    exact ⟨fun level => level.progresses ended, templateProgresses ended⟩

/-- A list that is not closed. At the end of its text no level asks a part that is not tighter. -/
theorem reading_progresses_open_list :
    let l := Lexer.ofExpression "[1,"
    let s : TokenStream := ⟨.atEnd ⟨3, 1, 4⟩, []⟩
    l.items.length = 4 ∧ 4 ≤ "[1,".length + 1 ∧ (l.after 8).next.1 = .ok s.current ∧
      Parser.standalone.parseAll l ≠ .error .exhausted ∧ s.items <:+ l.items ∧
      ∀ level : Level, level.Progresses s := by
  intro l s
  have items : l.items = [.ok ⟨.openBracket, "[", ⟨0, 1, 1⟩⟩, .ok ⟨.integer, "1", ⟨1, 1, 2⟩⟩,
      .ok ⟨.comma, ",", ⟨2, 1, 3⟩⟩, .ok s.current] := by decide +kernel
  have last : s.items <:+ l.items := ⟨l.items.take 3, by rw [items]; rfl⟩
  obtain ⟨⟨-, few⟩, -, -, again, -, returns, -, -, progress⟩ :=
    reading_progresses "[1," l (.inr rfl)
  have four : l.items.length = 4 := by rw [items]; rfl
  refine ⟨four, four ▸ few, ?_, returns, last, (progress s last).1⟩
  exact again 3 s.current (by rw [items]; rfl) rfl 5

end ExprLang
