import ExprLang.Template
import ExprLang.Expr.Parser

/-!
# The parser of templates

The parser of templates, and both parsers applied to a whole text.
-/

namespace ExprLang

namespace Parser

/-- The mode of expressions that a token starts. -/
def modeOf? : TokenKind → Option EvalMode
  | .startDynamic => some .dynamic
  | .startDeferred => some .deferred
  | _ => none

/-- The parts of a template from here on, after expressions of a given mode, and the mode of the
whole. -/
def templateParts : Nat → Option EvalMode → Parser (List TemplatePart × Option EvalMode)
  | 0, _ => exhausted
  | budget + 1, seen => do
    let token ← current
    match token.kind with
    | .endOfText => return ([], seen)
    | .literalText =>
      advance
      let (parts, mode) ← templateParts budget seen
      return (.text token.lexeme :: parts, mode)
    | kind =>
      match modeOf? kind with
      | none => unexpected .templatePart
      | some mode =>
        if seen.all (· == mode) then
          advance
          let e ← expr budget .sequence
          expect .closeBrace
          let (parts, mode) ← templateParts budget (some mode)
          return (.expression e :: parts, mode)
        else
          fail (.mixedModes token.position)

/-- Reads a whole template. -/
def template : Parser Template := do
  let (parts, mode) ← templateParts (budgetFor (← get)) none
  return ⟨parts, mode⟩

/-- The result of a parser on the tokens of a lexer. -/
def parseAll {α : Type} (p : Parser α) (l : Lexer) : Except (Halt ParseError) α :=
  match TokenStream.ofLexer l with
  | .error e => .error (.error e)
  | .ok s => (StateT.run p s).map Prod.fst

end Parser

/-- Reads a text as a template. -/
def Template.parse (source : String) : Except (Halt ParseError) Template :=
  Parser.template.parseAll (.ofTemplate source)

/-- Reads a text as a bare expression. -/
def Expr.parse (source : String) : Except (Halt ParseError) Expr :=
  Parser.standalone.parseAll (.ofExpression source)

end ExprLang
