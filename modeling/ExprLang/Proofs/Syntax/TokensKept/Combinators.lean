import ExprLang.Proofs.Syntax.Atoms
import ExprLang.Proofs.Syntax.TreesSound.Combinators

/-!
# Parsers and the tokens that they pass

`Tallies P y p Q` says that what the parser `p` gives is judged by the tally of the tokens behind
it: from a stream with `P` and the tally `y` it ends with a tally that `Q` admits for its result.
The lemmas follow the combinators of the grammar. The end of the text is never passed, since it is
the one token at which a stream stays where it is.
-/

namespace ExprLang

/-- The end of the text is the last item, and comes nowhere else. -/
abbrev Ended (items : List (Except ParseError Token)) : Prop :=
  EachToken (fun t behind => t.kind = .endOfText ↔ behind = []) items

theorem Lexer.items_ne_nil (l : Lexer) : l.items ≠ [] := by
  rw [Lexer.items]
  split
  · simp
  · split <;> simp

/-- The tokens of a text end with its end. -/
theorem Lexer.ended_items (l : Lexer) : Ended l.items := by
  induction l using Lexer.items.induct with
  | case1 l e read =>
    rw [items_of_error read]
    exact .error e
  | case2 l t read final =>
    rw [items_of_end read final]
    exact .cons (by simp [final]) .nil
  | case3 l t read more shorter ih =>
    rw [items_of_token read more]
    exact .cons (by simp [more, Lexer.items_ne_nil]) ih

namespace TokenStream

/-- The current token and those ahead. -/
def items (s : TokenStream) : List (Except ParseError Token) :=
  .ok s.current :: s.ahead

theorem items_injective {s u : TokenStream} (same : s.items = u.items) : s = u := by
  cases s
  cases u
  simpa [items] using same

/-- The rest of a text: it names its tokens and ends with its end. -/
structure Whole (s : TokenStream) : Prop where
  named : ExprLang.Named s.items
  ended : Ended s.items

variable {s s' : TokenStream}

theorem Whole.suffix (h : s.Whole) (there : s'.items <:+ s.items) : s'.Whole :=
  ⟨h.named.suffix there, h.ended.suffix there⟩

/-- A stream moves on by one token, unless it stands at the end. -/
theorem items_of_advance (ended : Ended s.items) (notEnd : s.current.kind ≠ .endOfText)
    (moved : s.advance = .ok s') : s.items = .ok s.current :: s'.items := by
  unfold TokenStream.advance at moved
  split at moved
  · rename_i ahead
    exact absurd (ended.head.mpr ahead) notEnd
  · cases moved
  · rename_i ahead
    cases moved
    rw [items, ahead]
    rfl

theorem Whole.advance (h : s.Whole) (notEnd : s.current.kind ≠ .endOfText)
    (moved : s.advance = .ok s') : s.items = .ok s.current :: s'.items :=
  items_of_advance h.ended notEnd moved

/-- A stream never goes back. -/
theorem suffix_of_advance (moved : s.advance = .ok s') : s'.items <:+ s.items := by
  unfold advance at moved
  split at moved
  · cases moved
    exact List.suffix_refl _
  · cases moved
  · rename_i ahead
    cases moved
    rw [items, items, ahead]
    exact List.suffix_cons _ _

theorem length_ahead_of_suffix (there : s'.items <:+ s.items) :
    s'.ahead.length ≤ s.ahead.length := by
  have length := there.length_le
  simp only [items, List.length_cons] at length
  omega

/-- The stream of a text has its items. -/
theorem items_ofLexer {l : Lexer} (stream : TokenStream.ofLexer l = .ok s) : s.items = l.items := by
  unfold TokenStream.ofLexer at stream
  split at stream
  · rename_i none
    exact absurd none l.items_ne_nil
  · cases stream
  · rename_i items
    cases stream
    exact items.symm

theorem whole_ofLexer {l : Lexer} (fresh : l.suffixPending = false)
    (stream : TokenStream.ofLexer l = .ok s) : s.Whole ∧ s.items = l.items :=
  ⟨⟨TokenStream.named_ofLexer (.nothing fresh) stream, items_ofLexer stream ▸ l.ended_items⟩,
    items_ofLexer stream⟩

end TokenStream

/-- From a stream with `P`, and with tokens behind it that have the tally `before`, the parser ends
with a tally that `Q` admits for what it gives. -/
def Tallies {α : Type} (P : TokenStream → Prop) (before : Tally) (p : Parser α)
    (Q : α → Tally → Prop) : Prop :=
  ∀ s a s', P s → s.Whole → p s = .ok (a, s') →
    s'.Whole ∧ ∃ ts : List Token, ∃ after, s.items = ts.map .ok ++ s'.items ∧
      before.passAll ts = some after ∧ Q a after

/-- Every token that the parser passes is in the tree that it gives, or is punctuation. -/
def TalliesTree (p : Parser Expr) : Prop :=
  ∀ y, Tallies Anywhere y p fun e after => after = y.plus e.atoms

namespace Tallies

variable {α β : Type} {P : TokenStream → Prop} {y : Tally} {Q : α → Tally → Prop}
  {R : β → Tally → Prop} {p : Parser α}

theorem weaken (h : Tallies Anywhere y p Q) : Tallies P y p Q :=
  fun s a s' _ => h s a s' trivial

theorem mono {Q' : α → Tally → Prop} (h : Tallies P y p Q) (le : ∀ a z, Q a z → Q' a z) :
    Tallies P y p Q' := by
  intro s a s' start whole ran
  obtain ⟨whole, ts, after, items, passed, q⟩ := h s a s' start whole ran
  exact ⟨whole, ts, after, items, passed, le a after q⟩

theorem pure {a : α} (h : Q a y) : Tallies P y (Pure.pure a) Q := by
  intro s b s' _ whole ran
  cases ran
  exact ⟨whole, [], y, rfl, rfl, h⟩

theorem fail (e : ParseError) : Tallies P y (Parser.fail e) Q := by
  intro s a s' _ _ ran
  cases ran

theorem exhausted : Tallies P y Parser.exhausted Q := by
  intro s a s' _ _ ran
  cases ran

theorem unexpected (expected : Expectation) : Tallies P y (Parser.unexpected expected) Q := by
  intro s a s' _ _ ran
  cases ran

theorem bind {f : α → Parser β} (hp : Tallies P y p Q)
    (hf : ∀ a between, Q a between → Tallies Anywhere between (f a) R) :
    Tallies P y (p >>= f) R := by
  intro s b s' start whole ran
  obtain ⟨a, middle, first, second⟩ := Parser.of_bind ran
  obtain ⟨whole, ts, between, items, passed, q⟩ := hp s a middle start whole first
  obtain ⟨whole, us, after, items', passed', r⟩ := hf a between q middle b s' trivial whole second
  refine ⟨whole, ts ++ us, after, ?_, ?_, r⟩
  · rw [items, items', List.map_append, List.append_assoc]
  · rw [Tally.passAll_append, passed]
    exact passed'

theorem current {f : Token → Parser β} (h : ∀ t, Tallies (fun s => s.current = t) y (f t) R) :
    Tallies P y (Parser.current >>= f) R :=
  fun s b s' _ => h s.current s b s' rfl

theorem at? {kind : TokenKind} {f : Bool → Parser β}
    (there : Tallies (fun s => s.current.kind = kind) y (f true) R)
    (other : Tallies Anywhere y (f false) R) : Tallies P y (Parser.at? kind >>= f) R := by
  intro s b s' _ whole ran
  replace ran : f (s.current.kind == kind) s = .ok (b, s') := ran
  by_cases same : s.current.kind = kind
  · rw [same, beq_self_eq_true] at ran
    exact there s b s' same whole ran
  · rw [beq_eq_false_iff_ne.mpr same] at ran
    exact other s b s' trivial whole ran

theorem notEnd_of_isMark {kind : TokenKind} (mark : kind.isMark = true) : kind ≠ .endOfText := by
  rintro rfl
  cases mark

/-- The current token is passed. -/
theorem advance {z : Tally} (notEnd : ∀ s, P s → s.current.kind ≠ .endOfText)
    (passed : ∀ s, P s → y.pass s.current = some z) :
    Tallies P y Parser.advance fun _ after => after = z := by
  intro s u s' start whole ran
  have items := whole.advance (notEnd s start) (Parser.of_advance ran)
  refine ⟨whole.suffix (items ▸ List.suffix_cons _ _), [s.current], z, items, ?_, rfl⟩
  simp [Tally.passAll, passed s start]

theorem advance_at {t : Token} {z : Tally} {f : Unit → Parser β} (notEnd : t.kind ≠ .endOfText)
    (passed : y.pass t = some z) (h : Tallies Anywhere z (f ()) R) :
    Tallies (fun s => s.current = t) y (Parser.advance >>= f) R :=
  bind (advance (fun _ same => same ▸ notEnd) fun _ same => same ▸ passed) fun _ _ same => same ▸ h

theorem advance_kind {kind : TokenKind} {z : Tally} {f : Unit → Parser β}
    (notEnd : kind ≠ .endOfText) (passed : ∀ t : Token, t.kind = kind → y.pass t = some z)
    (h : Tallies Anywhere z (f ()) R) :
    Tallies (fun s => s.current.kind = kind) y (Parser.advance >>= f) R :=
  bind (advance (fun _ same => same ▸ notEnd) fun s same => passed s.current same)
    fun _ _ same => same ▸ h

theorem expect_bind {kind : TokenKind} {z : Tally} {f : Unit → Parser β}
    (notEnd : kind ≠ .endOfText) (passed : ∀ t : Token, t.kind = kind → y.pass t = some z)
    (h : Tallies Anywhere z (f ()) R) : Tallies P y (Parser.expect kind >>= f) R := by
  intro s b s' _ whole ran
  obtain ⟨u, between, first, second⟩ := Parser.of_bind ran
  obtain ⟨here, moved⟩ := Parser.of_expect first
  have items := whole.advance (here ▸ notEnd) moved
  obtain ⟨whole', ts, after, items', rest, r⟩ :=
    h between b s' trivial (whole.suffix (items ▸ List.suffix_cons _ _)) second
  refine ⟨whole', s.current :: ts, after, ?_, ?_, r⟩
  · rw [items, items', List.map_cons, List.cons_append]
  · rw [Tally.passAll, passed _ here]
    exact rest

/-- A mark is passed that has to come here. -/
theorem mark_bind {kind : TokenKind} {f : Unit → Parser β} (mark : kind.isMark = true)
    (h : Tallies Anywhere y (f ()) R) : Tallies P y (Parser.expect kind >>= f) R :=
  expect_bind (notEnd_of_isMark mark) (fun _ same => Tally.pass_mark (same ▸ mark) y) h

/-- A mark is passed that stands here. -/
theorem at_mark {kind : TokenKind} {f : Unit → Parser β} (mark : kind.isMark = true)
    (h : Tallies Anywhere y (f ()) R) :
    Tallies (fun s => s.current.kind = kind) y (Parser.advance >>= f) R :=
  advance_kind (notEnd_of_isMark mark) (fun _ same => Tally.pass_mark (same ▸ mark) y) h

/-- A known token that is a mark is passed. -/
theorem advance_mark {t : Token} {f : Unit → Parser β} (mark : t.kind.isMark = true)
    (h : Tallies Anywhere y (f ()) R) :
    Tallies (fun s => s.current = t) y (Parser.advance >>= f) R :=
  advance_at (notEnd_of_isMark mark) (Tally.pass_mark mark y) h

/-- A known token that has an atom is passed. -/
theorem advance_atom {t : Token} {f : Unit → Parser β} (content : t.kind.isStructural = false)
    (h : Tallies Anywhere (y.plus [t.atom]) (f ()) R) :
    Tallies (fun s => s.current = t) y (Parser.advance >>= f) R := by
  refine advance_at ?_ (Tally.pass_atom content y) h
  intro final
  rw [final] at content
  cases content

/-- A name is passed. -/
theorem identifier :
    Tallies P y Parser.identifier fun name after => IsWord name ∧ after = y.plus [.name name] := by
  intro s name s' _ whole ran
  obtain ⟨kind, rfl, moved⟩ := Parser.of_identifier ran
  have items := whole.advance (by simp [kind]) moved
  have atom : s.current.atom = .name s.current.lexeme := by simp [Token.atom, kind]
  refine ⟨whole.suffix (items ▸ List.suffix_cons _ _), [s.current], _, items, ?_,
    (EachToken.head whole.named).word kind, rfl⟩
  simp [Tally.passAll, Tally.pass_atom (t := s.current) (by simp [kind]; rfl), atom]

end Tallies

end ExprLang
