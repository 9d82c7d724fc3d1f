import ExprLang.Proofs.Syntax.SpellingIrrelevant.Productions
import ExprLang.Proofs.Syntax.Places

/-!
# The places of errors

The parser reports an error at a token that it has read, or hands on an error of the lexer. So what
holds of the places of all items of a text holds of the place of its error
(`Agrees.position_of_parseAll`). It is a run of the parser that is compared with itself. **Key
theorem**: `tokens_in_place`, on the tokens and the errors of a text.
-/

namespace ExprLang

/-- A token and itself, at a place with a property. -/
def Token.Placed (P : Position → Prop) (t u : Token) : Prop :=
  t = u ∧ P t.position

/-- An error and itself, at a place with a property. -/
def ParseError.Placed (P : Position → Prop) (e e' : ParseError) : Prop :=
  e = e' ∧ P e.position

/-- The place of a token or of an error. -/
def placeOf : Except ParseError Token → Position
  | .ok t => t.position
  | .error e => e.position

theorem TokenStream.position_unexpected (s : TokenStream) (expected : Expectation) :
    (s.unexpected expected).position = s.current.position := by
  unfold TokenStream.unexpected
  split <;> rfl

section Placed

variable {P : Position → Prop}

theorem Token.SameUpToSpelling.refl (t : Token) : t.SameUpToSpelling t :=
  .same t.kind t.lexeme t.position t.position

/-- The parser finds its errors at places of tokens. -/
theorem parserKeeps_placed (P : Position → Prop) :
    ParserKeeps (Token.Placed P) (ParseError.Placed P) where
  alike {t u} same := same.1 ▸ .refl t
  unexpected {s s'} expected same := by
    obtain ⟨t, ahead⟩ := s
    obtain ⟨u, ahead'⟩ := s'
    obtain ⟨(rfl : t = u), place⟩ := same
    refine ⟨rfl, ?_⟩
    rw [TokenStream.position_unexpected]
    exact place
  invalidNumber _ same := ⟨same.1 ▸ rfl, same.2⟩
  mixedModes same := ⟨same.1 ▸ rfl, same.2⟩
  invalidTarget same := ⟨same.1 ▸ rfl, same.2⟩

theorem itemsRel_placed {items : List (Except ParseError Token)} (all : ∀ i ∈ items, P (placeOf i)) :
    ItemsRel (Token.Placed P) (ParseError.Placed P) items items := by
  refine List.forall₂_same.mpr fun item mem => ?_
  have place := all item mem
  cases item with
  | ok t => exact .ok ⟨rfl, place⟩
  | error e => exact .error ⟨rfl, place⟩

/-- What holds of the places of all items holds of the place of an error that a parser reports. -/
theorem Agrees.position_of_parseAll {α : Type} {p : Parser α} {l : Lexer} {e : ParseError}
    (h : Agrees (Token.Placed P) (ParseError.Placed P) p) (all : ∀ i ∈ l.items, P (placeOf i))
    (failed : p.parseAll l = .error (.error e)) : P e.position := by
  have both := h.parseAll (itemsRel_placed all)
  rw [failed] at both
  cases both with
  | error halts =>
    cases halts with
    | error same => exact same.2

end Placed

/-- All items of a text are at places of it. -/
theorem Lexer.isIn_of_items {l : Lexer} (fresh : l.position = .start)
    (item : Except ParseError Token) (there : item ∈ l.items) : (placeOf item).IsIn l.rest := by
  cases item with
  | ok t =>
    obtain ⟨n, there⟩ := List.getElem?_of_mem there
    exact (standsIn_of_items fresh there).place
  | error e => exact isIn_of_error fresh there

/-- The tokens of a text, read as a template or as an expression, stand in it one behind the other,
each on the characters between its offset and the place where the lexer is when it has read it. All
of them, and all errors of the lexer and of the parsers, have the line and the column of their
offset. -/
theorem tokens_in_place (source : String) (l : Lexer)
    (start : l = .ofTemplate source ∨ l = .ofExpression source) :
    (∀ n (t : Token), l.items[n]? = some (.ok t) →
      t.StandsIn source.toList (l.after n).mode (l.boundary n) (l.boundary (n + 1))) ∧
    (∀ m n (t : Token), m < n → l.items[n]? = some (.ok t) → l.boundary (m + 1) ≤ t.position.offset) ∧
    (∀ e, .error e ∈ l.items → e.position.IsIn source.toList) ∧
    (∀ e, Parser.template.parseAll l = .error (.error e) → e.position.IsIn source.toList) ∧
    (∀ e, Parser.standalone.parseAll l = .error (.error e) → e.position.IsIn source.toList) := by
  obtain ⟨fresh, text⟩ : l.position = .start ∧ l.rest = source.toList := by
    rcases start with rfl | rfl <;> exact ⟨rfl, rfl⟩
  rw [← text]
  have agrees := parserKeeps_placed (·.IsIn l.rest)
  have places := Lexer.isIn_of_items fresh
  refine ⟨?_, ?_, ?_, ?_, ?_⟩
  · exact fun n t there => Lexer.standsIn_of_items fresh there
  · exact fun m n t before there => Lexer.boundary_le_offset fresh before there
  · exact fun e there => Lexer.isIn_of_error fresh there
  · exact fun e failed => (InStep.template agrees).position_of_parseAll places failed
  · exact fun e failed => (InStep.standalone agrees).position_of_parseAll places failed

/-- A failure is seen without the trees, whose equality is not decided. -/
theorem Parser.parseAll_error {α : Type} {p : Parser α} {l : Lexer} {h : Halt ParseError}
    (halts : (p.parseAll l).map (fun _ => ()) = .error h) : p.parseAll l = .error h := by
  cases run : p.parseAll l with
  | ok a =>
    rw [run] at halts
    cases halts
  | error h' =>
    rw [run] at halts
    cases halts
    rfl

/-- A text in which a string goes over the end of a line, and the parser finds no operand. -/
theorem tokens_in_place_second_line :
    let source := "a\n$\x7b 'x\ny' + )"
    let l := Lexer.ofTemplate source
    let plus : Token := ⟨.plus, "+", ⟨11, 3, 4⟩⟩
    let found : Token := ⟨.closeParen, ")", ⟨13, 3, 6⟩⟩
    l.items[3]? = some (.ok plus) ∧ plus.StandsIn source.toList .expression 10 12 ∧
      Parser.template.parseAll l = .error (.error (.unexpectedToken .expression found)) ∧
      found.position.IsIn source.toList := by
  intro source l plus found
  have third : l.items[3]? = some (.ok plus) := by decide +kernel
  have mode : (l.after 3).mode = .expression := by decide +kernel
  have behind : l.boundary 3 = 10 ∧ l.boundary 4 = 12 := by decide +kernel
  have failed : Parser.template.parseAll l =
      .error (.error (.unexpectedToken .expression found)) :=
    Parser.parseAll_error (by decide +kernel)
  obtain ⟨stands, -, -, errors, -⟩ := tokens_in_place source l (.inl rfl)
  have plusStands := stands 3 plus third
  rw [mode, behind.1, behind.2] at plusStands
  exact ⟨third, plusStands, failed, errors _ failed⟩

end ExprLang
