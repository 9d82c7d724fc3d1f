import ExprLang.Proofs.Syntax.Lexing

/-!
# Parsers on streams that show given tokens

What a parser does on a stream that is known by the kinds and lexemes of its tokens
(`TokenStream.Shows`). `Reads p ts a rest` says that `p` reads exactly the tokens `ts` as `a` when
`rest` comes behind them. The lemmas here follow the combinators that the grammar is put together
from; none of them knows of a production.
-/

namespace ExprLang

/-! ### Streams -/

namespace TokenStream

/-- The stream shows these tokens, and nothing after them. -/
def Shows (s : TokenStream) (ts : List (TokenKind × String)) : Prop :=
  shownItem (.ok s.current) :: s.ahead.map shownItem = ts.map some

theorem Shows.cons {s : TokenStream} {t : TokenKind × String} {ts : List (TokenKind × String)}
    (h : s.Shows (t :: ts)) : s.current.shown = t ∧ s.ahead.map shownItem = ts.map some := by
  simpa [Shows, shownItem] using h

/-- An item that shows a token is that token. -/
theorem eq_ok_of_shownItem {item : Except ParseError Token} {t : TokenKind × String}
    (h : shownItem item = some t) : ∃ token, item = .ok token ∧ token.shown = t := by
  cases item with
  | error e => cases h
  | ok token => exact ⟨token, rfl, by simpa [shownItem] using h⟩

/-- Items that show a token first begin with that token. -/
theorem eq_cons_of_shown {items : List (Except ParseError Token)} {t : TokenKind × String}
    {ts : List (TokenKind × String)} (h : items.map shownItem = (t :: ts).map some) :
    ∃ token rest, items = .ok token :: rest ∧ token.shown = t ∧
      rest.map shownItem = ts.map some := by
  cases items with
  | nil => cases h
  | cons item rest =>
    rw [List.map_cons, List.map_cons, List.cons.injEq] at h
    obtain ⟨token, rfl, shown⟩ := eq_ok_of_shownItem h.1
    exact ⟨token, rest, rfl, shown, h.2⟩

theorem Shows.advance {s : TokenStream} {t : TokenKind × String} {ts : List (TokenKind × String)}
    (h : s.Shows (t :: ts)) (more : ts ≠ []) : ∃ next, s.advance = .ok next ∧ next.Shows ts := by
  obtain ⟨-, ahead⟩ := h.cons
  cases ts with
  | nil => exact absurd rfl more
  | cons u us =>
    obtain ⟨token, rest, items, shown, behind⟩ := eq_cons_of_shown ahead
    refine ⟨⟨token, rest⟩, by simp [TokenStream.advance, items], ?_⟩
    simp [Shows, shownItem, shown, behind]

/-- A look at a token that is there. -/
theorem Shows.peek {s : TokenStream} {t u : TokenKind × String} {ts : List (TokenKind × String)}
    {n : Nat} (h : s.Shows (t :: ts)) (there : ts[n]? = some u) : s.peekKind n = .ok u.1 := by
  obtain ⟨-, ahead⟩ := h.cons
  have item : s.ahead[n]?.map shownItem = some (some u) := by
    rw [← List.getElem?_map, ahead, List.getElem?_map, there]
    rfl
  cases found : s.ahead[n]? with
  | none => simp [found] at item
  | some i =>
    rw [found] at item
    obtain ⟨token, rfl, shown⟩ := eq_ok_of_shownItem (by simpa using item)
    simp [peekKind, TokenStream.peek, found, Except.map, ← shown, Token.shown]

/-- A look beyond the last token shows the last one. -/
theorem Shows.peek_last {s : TokenStream} {t u : TokenKind × String}
    {ts : List (TokenKind × String)} {n : Nat} (h : s.Shows (t :: ts)) (beyond : ts[n]? = none)
    (last : ts.getLast? = some u) : s.peekKind n = .ok u.1 := by
  obtain ⟨-, ahead⟩ := h.cons
  have none_there : s.ahead[n]? = none := by
    have length : s.ahead.length = ts.length := by simpa using congrArg List.length ahead
    rw [List.getElem?_eq_none_iff] at beyond ⊢
    omega
  have item : s.ahead.getLast?.map shownItem = some (some u) := by
    rw [← List.getLast?_map, ahead, List.getLast?_map, last]
    rfl
  cases found : s.ahead.getLast? with
  | none => simp [found] at item
  | some i =>
    rw [found] at item
    obtain ⟨token, rfl, shown⟩ := eq_ok_of_shownItem (by simpa using item)
    simp [peekKind, TokenStream.peek, none_there, found, Except.map, ← shown, Token.shown]

end TokenStream

/-! ### Parsers -/

theorem Parser.bind_ok {α β : Type} {p : Parser α} {f : α → Parser β} {s s' : TokenStream} {a : α}
    (ran : p s = .ok (a, s')) : (p >>= f) s = f a s' := by
  show (p s >>= fun r => f r.1 r.2) = _
  rw [ran]
  rfl

theorem Parser.look_ok {α : Type} {f : TokenStream → Except ParseError α} {s : TokenStream} {a : α}
    (h : f s = .ok a) : Parser.look f s = .ok (a, s) := by
  show ((f s).mapError Halt.error >>= fun a => .ok (a, s)) = _
  rw [h]
  rfl

theorem Parser.advance_ok {s s' : TokenStream} (moved : s.advance = .ok s') :
    Parser.advance s = .ok ((), s') :=
  Parser.bind_ok (Parser.look_ok moved)

theorem Parser.expect_ok {kind : TokenKind} {s s' : TokenStream} (here : s.current.kind = kind)
    (moved : s.advance = .ok s') : Parser.expect kind s = .ok ((), s') := by
  show (if s.current.kind == kind then Parser.advance else Parser.unexpected (.token kind)) s = _
  rw [if_pos (beq_iff_eq.mpr here)]
  exact Parser.advance_ok moved

theorem Parser.identifier_ok {s s' : TokenStream} (here : s.current.kind = .identifier)
    (moved : s.advance = .ok s') : Parser.identifier s = .ok (s.current.lexeme, s') := by
  show (if s.current.kind = .identifier then
      Parser.advance >>= fun _ => (pure s.current.lexeme : Parser String)
    else Parser.unexpected .identifier) s = _
  rw [if_pos here]
  exact Parser.bind_ok (Parser.advance_ok moved)

theorem Parser.bind_error {α β : Type} {p : Parser α} {f : α → Parser β} {s : TokenStream}
    {h : Halt ParseError} (ran : p s = .error h) : (p >>= f) s = .error h := by
  show (p s >>= fun r => f r.1 r.2) = _
  rw [ran]
  rfl

theorem Parser.look_error {α : Type} {f : TokenStream → Except ParseError α} {s : TokenStream}
    {e : ParseError} (h : f s = .error e) : Parser.look f s = .error (.error e) := by
  show ((f s).mapError Halt.error >>= fun a => .ok (a, s)) = _
  rw [h]
  rfl

theorem Parser.identifier_error {s : TokenStream} (other : s.current.kind ≠ .identifier) :
    Parser.identifier s = .error (.error (s.unexpected .identifier)) := by
  show (if s.current.kind = .identifier then
      Parser.advance >>= fun _ => (pure s.current.lexeme : Parser String)
    else Parser.unexpected .identifier) s = _
  rw [if_neg other]
  rfl

/-- The parser reads the tokens `ts` as `a` when `rest` comes behind them. -/
def Reads {α : Type} (p : Parser α) (ts : List (TokenKind × String)) (a : α)
    (rest : List (TokenKind × String)) : Prop :=
  ∀ s : TokenStream, s.Shows (ts ++ rest) → ∃ next, p s = .ok (a, next) ∧ next.Shows rest

/-- The kind of the first token. -/
def headKind (ts : List (TokenKind × String)) : Option TokenKind :=
  ts.head?.map Prod.fst

@[simp] theorem headKind_nil : headKind [] = none := rfl

@[simp] theorem headKind_cons (t : TokenKind × String) (ts : List (TokenKind × String)) :
    headKind (t :: ts) = some t.1 := rfl

namespace Reads

variable {α β : Type} {ts us rest : List (TokenKind × String)}

theorem pure (a : α) : Reads (Pure.pure a) [] a rest :=
  fun s shows => ⟨s, rfl, shows⟩

theorem bind {p : Parser α} {f : α → Parser β} {a : α} {b : β} (hp : Reads p ts a (us ++ rest))
    (hf : Reads (f a) us b rest) : Reads (p >>= f) (ts ++ us) b rest := by
  intro s shows
  rw [List.append_assoc] at shows
  obtain ⟨between, first, shown⟩ := hp s shows
  obtain ⟨next, second, shown⟩ := hf between shown
  exact ⟨next, (Parser.bind_ok first).trans second, shown⟩

/-- A parser that reads nothing, before another one. -/
theorem bind_nil {p : Parser α} {f : α → Parser β} {a : α} {b : β} (hp : Reads p [] a (ts ++ rest))
    (hf : Reads (f a) ts b rest) : Reads (p >>= f) ts b rest :=
  bind hp hf

/-- A parser that reads all, before another one. -/
theorem bind_last {p : Parser α} {f : α → Parser β} {a : α} {b : β} (hp : Reads p ts a rest)
    (hf : Reads (f a) [] b rest) : Reads (p >>= f) ts b rest := by
  have both : Reads (p >>= f) (ts ++ []) b rest := bind hp hf
  simpa using both

/-- The current token, which shows what comes first. -/
theorem current {f : Token → Parser α} {a : α} {k : TokenKind} {x : String}
    (first : (ts ++ rest).head? = some (k, x))
    (h : ∀ position, Reads (f ⟨k, x, position⟩) ts a rest) :
    Reads (Parser.current >>= f) ts a rest := by
  intro s shows
  cases all : ts ++ rest with
  | nil => simp [all] at first
  | cons t more =>
    obtain rfl : t = (k, x) := by simpa [all] using first
    have shown : s.current.shown = (k, x) := (all ▸ shows).cons.1
    have token : s.current = ⟨k, x, s.current.position⟩ := by
      cases current : s.current
      simpa [current, Token.shown] using shown
    show ∃ next, f s.current s = _ ∧ _
    rw [token]
    exact h _ s shows

/-- Whether the current token is of a kind. -/
theorem at? {f : Bool → Parser α} {a : α} {k kind : TokenKind}
    (first : headKind (ts ++ rest) = some k) (h : Reads (f (k == kind)) ts a rest) :
    Reads (Parser.at? kind >>= f) ts a rest := by
  obtain ⟨⟨k', x⟩, head, same⟩ := Option.map_eq_some_iff.mp first
  cases same
  exact current (f := fun t => f (t.kind == kind)) head fun _ => h

theorem at_self {f : Bool → Parser α} {a : α} {kind : TokenKind}
    (first : headKind (ts ++ rest) = some kind) (h : Reads (f true) ts a rest) :
    Reads (Parser.at? kind >>= f) ts a rest := by
  refine at? first ?_
  rwa [beq_self_eq_true]

theorem at_other {f : Bool → Parser α} {a : α} {kind : TokenKind} (nonempty : ts ++ rest ≠ [])
    (first : headKind (ts ++ rest) ≠ some kind) (h : Reads (f false) ts a rest) :
    Reads (Parser.at? kind >>= f) ts a rest := by
  cases all : ts ++ rest with
  | nil => exact absurd all nonempty
  | cons t more =>
    rw [all] at first
    have differs : (t.1 == kind) = false := by simpa using first
    refine at? (k := t.1) (by rw [all]; rfl) ?_
    rwa [differs]

/-- A look at the stream, which reads nothing. -/
theorem look {f : TokenStream → Except ParseError α} {g : α → Parser β} {b : β} (a : α)
    (looks : ∀ s : TokenStream, s.Shows (ts ++ rest) → f s = .ok a) (h : Reads (g a) ts b rest) :
    Reads (Parser.look f >>= g) ts b rest := by
  intro s shows
  obtain ⟨next, read, shown⟩ := h s shows
  exact ⟨next, (Parser.bind_ok (Parser.look_ok (looks s shows))).trans read, shown⟩

theorem advance (t : TokenKind × String) (more : rest ≠ []) :
    Reads Parser.advance [t] () rest := by
  intro s shows
  obtain ⟨next, moved, shown⟩ := TokenStream.Shows.advance shows more
  exact ⟨next, Parser.advance_ok moved, shown⟩

theorem expect (kind : TokenKind) (x : String) (more : rest ≠ []) :
    Reads (Parser.expect kind) [(kind, x)] () rest := by
  refine at? (k := kind) rfl ?_
  rw [if_pos (by simp)]
  exact advance _ more

theorem identifier (name : String) (more : rest ≠ []) :
    Reads Parser.identifier [(.identifier, name)] name rest := by
  refine current rfl fun position => ?_
  rw [if_pos rfl]
  exact bind_last (advance _ more) (pure name)

end Reads

end ExprLang
