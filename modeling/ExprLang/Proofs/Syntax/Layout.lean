import ExprLang.Proofs.Syntax.Positions
import ExprLang.Proofs.Syntax.Progress

/-!
# Spelling and layout

Two texts can have the same tokens at different places, and with operators in their other spellings.
The parser does not tell them apart: it gives the same for both, or the same error at the token with
the same number. **Key theorem**: `spelling_and_layout_do_not_matter`.
-/

namespace ExprLang

/-- Errors that say the same of tokens that show the same, wherever these are. -/
inductive ParseError.SameUpToPlace : ParseError → ParseError → Prop where
  | unexpectedToken (expected : Expectation) {t u : Token} :
      t.SameUpToSpelling u →
        SameUpToPlace (.unexpectedToken expected t) (.unexpectedToken expected u)
  | unexpectedEnd (expected : Expectation) (p p' : Position) :
      SameUpToPlace (.unexpectedEnd expected p) (.unexpectedEnd expected p')
  | illegalCharacter (ch : Char) (p p' : Position) :
      SameUpToPlace (.illegalCharacter ch p) (.illegalCharacter ch p')
  | unterminatedString (p p' : Position) :
      SameUpToPlace (.unterminatedString p) (.unterminatedString p')
  | invalidEscape (ch : Char) (p p' : Position) :
      SameUpToPlace (.invalidEscape ch p) (.invalidEscape ch p')
  | invalidNumber (lexeme : String) (p p' : Position) :
      SameUpToPlace (.invalidNumber lexeme p) (.invalidNumber lexeme p')
  | mixedModes (p p' : Position) : SameUpToPlace (.mixedModes p) (.mixedModes p')
  | invalidTarget (p p' : Position) : SameUpToPlace (.invalidTarget p) (.invalidTarget p')

namespace Lexer

/-- The number of the token or error at a place. -/
def indexOf? (l : Lexer) (p : Position) : Option Nat :=
  l.items.findIdx? fun item => placeOf item == p

/-- No other token has the place of a token. -/
theorem indexOf?_of_items {l : Lexer} (fresh : l.position = .start) {ts : List Token}
    (read : l.items = ts.map .ok) {n : Nat} {t : Token} (there : ts[n]? = some t) :
    l.indexOf? t.position = some n := by
  have token {m : Nat} {u : Token} (place : ts[m]? = some u) : l.items[m]? = some (.ok u) := by
    rw [read, List.getElem?_map, place]
    rfl
  obtain ⟨inside, here⟩ := List.getElem?_eq_some_iff.mp (token there)
  rw [indexOf?, List.findIdx?_eq_some_iff_getElem]
  refine ⟨inside, by rw [here]; exact beq_self_eq_true t.position, fun m before => ?_⟩
  have shorter : m < ts.length := by
    have := (List.getElem?_eq_some_iff.mp there).1
    omega
  have earlier := token (List.getElem?_eq_getElem shorter)
  have less := offset_lt_of_items fresh before earlier (token there)
  rw [(List.getElem?_eq_some_iff.mp earlier).2]
  intro same
  have place : ts[m].position = t.position := eq_of_beq same
  rw [place] at less
  exact Nat.lt_irrefl _ less

end Lexer

section Texts

variable {l l' : Lexer} {ts us : List Token}

/-- The tokens show the same and have the same number in their texts. -/
def Token.Counterpart (ts us : List Token) (t u : Token) : Prop :=
  t.SameUpToSpelling u ∧ ∃ n : Nat, ts[n]? = some t ∧ us[n]? = some u

/-- The errors say the same, at tokens that have the same number in their texts. -/
def Lexer.SameError (l l' : Lexer) (e e' : ParseError) : Prop :=
  e.SameUpToPlace e' ∧ ∃ n, l.indexOf? e.position = some n ∧ l'.indexOf? e'.position = some n

theorem Token.SameUpToSpelling.unexpected {t u : Token} (h : t.SameUpToSpelling u)
    (expected : Expectation) (items items' : List (Except ParseError Token)) :
    ((TokenStream.mk t items).unexpected expected).SameUpToPlace
      ((TokenStream.mk u items').unexpected expected) := by
  cases h with
  | same kind lexeme p p' =>
    unfold TokenStream.unexpected
    dsimp only
    split
    · exact .unexpectedEnd expected p p'
    · exact .illegalCharacter _ p p'
    · exact .unexpectedToken expected (.same kind lexeme p p')
  | operator op x x' lexeme lexeme' p p' =>
    exact .unexpectedToken expected (.operator op x x' lexeme lexeme' p p')

/-- The parser reports the same of tokens that have the same number. -/
theorem parserKeeps_counterparts (fresh : l.position = .start) (fresh' : l'.position = .start)
    (read : l.items = ts.map .ok) (read' : l'.items = us.map .ok) :
    ParserKeeps (Token.Counterpart ts us) (l.SameError l') := by
  have sameError {t u : Token} {e e' : ParseError} (paired : t.Counterpart ts us u)
      (alike : e.SameUpToPlace e') (place : e.position = t.position) (place' : e'.position = u.position) :
      l.SameError l' e e' := by
    obtain ⟨-, n, there, there'⟩ := paired
    rw [Lexer.SameError, place, place']
    exact ⟨alike, n, Lexer.indexOf?_of_items fresh read there,
      Lexer.indexOf?_of_items fresh' read' there'⟩
  refine ⟨fun paired => paired.1, ?_, ?_, ?_, ?_⟩
  · intro s s' expected paired
    exact sameError paired (paired.1.unexpected expected s.ahead s'.ahead)
      (s.position_unexpected expected) (s'.position_unexpected expected)
  · intro t u float paired
    refine sameError paired ?_ rfl rfl
    rw [paired.1.lexeme (by rw [float]; rfl)]
    exact .invalidNumber _ _ _
  · intro t u paired
    exact sameError paired (.mixedModes _ _) rfl rfl
  · intro t u paired
    exact sameError paired (.invalidTarget _ _) rfl rfl

theorem itemsRel_counterparts (alike : List.Forall₂ Token.SameUpToSpelling ts us) :
    ItemsRel (Token.Counterpart ts us) (l.SameError l') (ts.map .ok) (us.map .ok) := by
  rw [ItemsRel, List.forall₂_map_left_iff, List.forall₂_map_right_iff, List.forall₂_iff_get]
  refine ⟨alike.length_eq, fun n inside inside' => .ok ⟨alike.get inside inside', n, ?_, ?_⟩⟩
  · exact List.getElem?_eq_getElem inside
  · exact List.getElem?_eq_getElem inside'

/-- What a parser that keeps in step gives for both texts. -/
theorem parseAll_rel {α : Type} {p : Parser α}
    (agrees : Agrees (Token.Counterpart ts us) (l.SameError l') p) (read : l.items = ts.map .ok)
    (read' : l'.items = us.map .ok) (alike : List.Forall₂ Token.SameUpToSpelling ts us) :
    ExceptRel (FailsWith (l.SameError l')) Eq (p.parseAll l) (p.parseAll l') := by
  refine agrees.parseAll ?_
  rw [read, read']
  exact itemsRel_counterparts alike

end Texts

/-- Two texts, read as templates or as expressions, in which no token is wrong. The tokens have the
same kinds and lexemes one by one, but for the spelling of operators, and stand anywhere. Then both
parsers give the same for both texts, or errors of the same variant at tokens with the same number. -/
theorem spelling_and_layout_do_not_matter (source source' : String) (l l' : Lexer)
    (start : l = .ofTemplate source ∧ l' = .ofTemplate source' ∨
      l = .ofExpression source ∧ l' = .ofExpression source')
    (ts us : List Token) (read : l.items = ts.map .ok) (read' : l'.items = us.map .ok)
    (alike : List.Forall₂ Token.SameUpToSpelling ts us) :
    ExceptRel (FailsWith (l.SameError l')) Eq (Parser.template.parseAll l)
        (Parser.template.parseAll l') ∧
      ExceptRel (FailsWith (l.SameError l')) Eq (Parser.standalone.parseAll l)
        (Parser.standalone.parseAll l') := by
  obtain ⟨fresh, fresh'⟩ : l.position = .start ∧ l'.position = .start := by
    rcases start with ⟨rfl, rfl⟩ | ⟨rfl, rfl⟩ <;> exact ⟨rfl, rfl⟩
  have pairing := parserKeeps_counterparts fresh fresh' read read'
  exact ⟨parseAll_rel (InStep.template pairing) read read' alike,
    parseAll_rel (InStep.standalone pairing) read read' alike⟩

/-- An operand that is missing, in symbols on one line and in words on two. -/
theorem spelling_and_layout_do_not_matter_operand :
    let l := Lexer.ofExpression "!(a >= )"
    let l' := Lexer.ofExpression "not ( a\nge)"
    let e : ParseError := .unexpectedToken .expression ⟨.closeParen, ")", ⟨7, 1, 8⟩⟩
    Parser.standalone.parseAll l = .error (.error e) ∧ l.indexOf? e.position = some 4 ∧
      ∃ e', Parser.standalone.parseAll l' = .error (.error e') ∧ l.SameError l' e e' := by
  intro l l' e
  let ts : List Token := [⟨.operator .not .symbol, "!", ⟨0, 1, 1⟩⟩, ⟨.openParen, "(", ⟨1, 1, 2⟩⟩,
    ⟨.identifier, "a", ⟨2, 1, 3⟩⟩, ⟨.operator .ge .symbol, ">=", ⟨4, 1, 5⟩⟩,
    ⟨.closeParen, ")", ⟨7, 1, 8⟩⟩, ⟨.endOfText, "", ⟨8, 1, 9⟩⟩]
  let us : List Token := [⟨.operator .not .word, "not", ⟨0, 1, 1⟩⟩, ⟨.openParen, "(", ⟨4, 1, 5⟩⟩,
    ⟨.identifier, "a", ⟨6, 1, 7⟩⟩, ⟨.operator .ge .word, "ge", ⟨8, 2, 1⟩⟩,
    ⟨.closeParen, ")", ⟨10, 2, 3⟩⟩, ⟨.endOfText, "", ⟨11, 2, 4⟩⟩]
  have read : l.items = ts.map .ok := by decide +kernel
  have read' : l'.items = us.map .ok := by decide +kernel
  have alike : List.Forall₂ Token.SameUpToSpelling ts us :=
    .cons (.operator ..) (.cons (.same ..) (.cons (.same ..) (.cons (.operator ..)
      (.cons (.same ..) (.cons (.same ..) .nil)))))
  have failed : Parser.standalone.parseAll l = .error (.error e) :=
    Parser.parseAll_error (by decide +kernel)
  obtain ⟨-, both⟩ := spelling_and_layout_do_not_matter _ _ l l' (.inr ⟨rfl, rfl⟩) ts us read read'
    alike
  refine ⟨failed, by decide +kernel, ?_⟩
  rw [failed] at both
  generalize Parser.standalone.parseAll l' = other at both ⊢
  cases both with
  | error fails =>
    cases fails with
    | error same => exact ⟨_, rfl, same⟩

end ExprLang
