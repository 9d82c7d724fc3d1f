import ExprLang.Proofs.Syntax.Embedding
import Mathlib.Data.List.Infix

/-!
# Templates from pieces

A template is written piece by piece: literal text with its opening brackets escaped, and expressions
between brackets. Behind each piece the lexer reads literal text again, so that a list of pieces is
read one piece after the other (`templateParts_composed`). **Key theorem**: `compile_composed`.
-/

namespace ExprLang

/-! ### Pieces -/

/-- A piece of a template: literal text, or an expression by its source and its tree. -/
inductive Piece where
  | text (s : String)
  | expression (source : String) (tree : Expr)

/-- Literal text as it is written, with a backslash before every opening bracket. -/
def escapeText : List Char → List Char
  | [] => []
  | '$' :: '{' :: cs => '\\' :: '$' :: '{' :: escapeText cs
  | '#' :: '{' :: cs => '\\' :: '#' :: '{' :: escapeText cs
  | c :: cs => c :: escapeText cs

namespace Piece

/-- A piece as it is written in a template of a mode. -/
def written (mode : EvalMode) : Piece → List Char
  | text s => escapeText s.toList
  | expression source _ => mode.opening.toList ++ (source.toList ++ ['}'])

/-- The part of a template that a piece becomes. -/
def part : Piece → TemplatePart
  | text s => .text s
  | expression _ tree => .expression tree

def isExpression : Piece → Bool
  | text _ => false
  | expression _ _ => true

end Piece

/-- The text of a template of a mode. -/
def writePieces (mode : EvalMode) (pieces : List Piece) : String :=
  String.ofList (pieces.flatMap (·.written mode))

/-- The mode of a template with the pieces, after expressions of a given mode. -/
def modeOfPieces (mode : EvalMode) (pieces : List Piece) (seen : Option EvalMode) :
    Option EvalMode :=
  if pieces.any Piece.isExpression then some mode else seen

/-- The pieces that a template can be written from. No text is empty or next to another one, a
backslash does not escape the bracket behind it, and each source compiles on its own to its tree. -/
structure Composable (pieces : List Piece) : Prop where
  nonempty : ∀ s, .text s ∈ pieces → s ≠ ""
  apart : ∀ s t, ¬ [.text s, .text t] <:+: pieces
  plain : ∀ s source tree, [.text s, .expression source tree] <:+: pieces →
    s.toList.getLast? ≠ some '\\'
  compiled : ∀ source tree, .expression source tree ∈ pieces →
    Expression.IsSingle (Expression.compileStandalone source) tree

theorem Composable.tail {piece : Piece} {pieces : List Piece} (h : Composable (piece :: pieces)) :
    Composable pieces where
  nonempty s mem := h.nonempty s (List.mem_cons_of_mem _ mem)
  apart s t there := h.apart s t (there.trans (List.suffix_cons _ _).isInfix)
  plain s source tree there := h.plain s source tree (there.trans (List.suffix_cons _ _).isInfix)
  compiled source tree mem := h.compiled source tree (List.mem_cons_of_mem _ mem)

/-! ### Literal text -/

/-- A bracket that opens an expression comes next. -/
def Opens (cs : List Char) : Prop :=
  ∃ (mode : EvalMode) (behind : List Char), cs = mode.opening.toList ++ behind

theorem opens_cons_iff {c : Char} {cs : List Char} :
    Opens (c :: cs) ↔ (c = '$' ∨ c = '#') ∧ ∃ behind, cs = '{' :: behind := by
  constructor
  · rintro ⟨mode, behind, same⟩
    cases mode with
    | dynamic =>
      have same : c :: cs = '$' :: '{' :: behind := same
      cases same
      exact ⟨.inl rfl, behind, rfl⟩
    | deferred =>
      have same : c :: cs = '#' :: '{' :: behind := same
      cases same
      exact ⟨.inr rfl, behind, rfl⟩
  · rintro ⟨rfl | rfl, behind, rfl⟩
    · exact ⟨.dynamic, behind, rfl⟩
    · exact ⟨.deferred, behind, rfl⟩

theorem escapeText_opening (mode : EvalMode) (cs : List Char) :
    escapeText (mode.opening.toList ++ cs) = '\\' :: (mode.opening.toList ++ escapeText cs) := by
  cases mode <;> rfl

theorem escapeText_plain {c : Char} {cs : List Char} (plain : ¬ Opens (c :: cs)) :
    escapeText (c :: cs) = c :: escapeText cs := by
  rw [opens_cons_iff] at plain
  rw [escapeText]
  · rintro rest rfl rfl
    exact plain ⟨.inl rfl, rest, rfl⟩
  · rintro rest rfl rfl
    exact plain ⟨.inr rfl, rest, rfl⟩

namespace Lexer

theorem literalRun_opening (mode : EvalMode) (cs : List Char) :
    literalRun (mode.opening.toList ++ cs) = ([], 0) := by
  cases mode <;> rfl

theorem literalRun_escaped (mode : EvalMode) (cs : List Char) :
    literalRun ('\\' :: (mode.opening.toList ++ cs)) =
      (mode.opening.toList ++ (literalRun cs).1, (literalRun cs).2 + 3) := by
  cases mode <;> rfl

/-- A character that begins neither a bracket nor an escape stands for itself. -/
theorem literalRun_plain {c : Char} {cs : List Char} (plain : ¬ Opens (c :: cs))
    (unescaped : c = '\\' → ¬ Opens cs) :
    literalRun (c :: cs) = (c :: (literalRun cs).1, (literalRun cs).2 + 1) := by
  rw [opens_cons_iff] at plain
  rw [literalRun]
  · rintro rest rfl rfl
    exact plain ⟨.inl rfl, rest, rfl⟩
  · rintro rest rfl rfl
    exact plain ⟨.inr rfl, rest, rfl⟩
  · rintro rest rfl rfl
    exact unescaped rfl ⟨.dynamic, rest, rfl⟩
  · rintro rest rfl rfl
    exact unescaped rfl ⟨.deferred, rest, rfl⟩

end Lexer

/-- What comes behind literal text: the end, or an expression. -/
def EndsText (tail : List Char) : Prop :=
  tail = [] ∨ Opens tail

section Escaped

variable {cs tail : List Char} (ends : EndsText tail)
include ends

/-- Escaped text begins with a brace only if the text does. -/
theorem brace_of_escapeText {behind : List Char} (brace : escapeText cs ++ tail = '{' :: behind) :
    ∃ rest, cs = '{' :: rest := by
  cases cs with
  | nil =>
    have brace : tail = '{' :: behind := brace
    rcases ends with none | opens
    · rw [none] at brace
      cases brace
    · rw [brace, opens_cons_iff] at opens
      rcases opens.1 with wrong | wrong <;> cases wrong
  | cons c cs =>
    by_cases opens : Opens (c :: cs)
    · obtain ⟨mode, rest, same⟩ := opens
      rw [same, escapeText_opening] at brace
      cases brace
    · rw [escapeText_plain opens] at brace
      cases brace
      exact ⟨cs, rfl⟩

/-- In escaped text no bracket opens an expression. -/
theorem not_opens_escapeText (some : cs ≠ []) : ¬ Opens (escapeText cs ++ tail) := by
  cases cs with
  | nil => exact absurd rfl some
  | cons c cs =>
    by_cases opens : Opens (c :: cs)
    · obtain ⟨mode, rest, same⟩ := opens
      rw [same, escapeText_opening, List.cons_append, opens_cons_iff]
      rintro ⟨wrong | wrong, -⟩ <;> cases wrong
    · rw [escapeText_plain opens, List.cons_append, opens_cons_iff]
      rintro ⟨mark, behind, brace⟩
      exact opens (opens_cons_iff.mpr ⟨mark, brace_of_escapeText ends brace⟩)

/-- Escaped text is read back, up to an expression that no backslash at its end can escape. -/
theorem literalRun_escapeText (plain : tail ≠ [] → cs.getLast? ≠ some '\\') :
    Lexer.literalRun (escapeText cs ++ tail) = (cs, (escapeText cs).length) := by
  have opened (mode : EvalMode) {cs : List Char}
      (ih : Lexer.literalRun (escapeText cs ++ tail) = (cs, (escapeText cs).length)) :
      Lexer.literalRun (escapeText (mode.opening.toList ++ cs) ++ tail) =
        (mode.opening.toList ++ cs, (escapeText (mode.opening.toList ++ cs)).length) := by
    rw [escapeText_opening, List.cons_append, List.append_assoc, Lexer.literalRun_escaped, ih]
    cases mode <;> rfl
  have shorter {c : Char} {cs : List Char} (plain : (c :: cs).getLast? ≠ some '\\') :
      cs.getLast? ≠ some '\\' := by
    intro last
    rw [List.getLast?_cons, last] at plain
    exact plain rfl
  induction cs using escapeText.induct with
  | case1 =>
    rcases ends with rfl | ⟨mode, behind, rfl⟩
    · rfl
    · exact Lexer.literalRun_opening mode behind
  | case2 cs ih => exact opened .dynamic (ih fun more => shorter (shorter (plain more)))
  | case3 cs ih => exact opened .deferred (ih fun more => shorter (shorter (plain more)))
  | case4 c cs dynamic deferred ih =>
    have notOpens : ¬ Opens (c :: cs) := by
      rw [opens_cons_iff]
      rintro ⟨rfl | rfl, behind, rfl⟩
      · exact dynamic behind rfl rfl
      · exact deferred behind rfl rfl
    have notOpens' : ¬ Opens (c :: (escapeText cs ++ tail)) := by
      have whole := not_opens_escapeText ends (List.cons_ne_nil c cs)
      rwa [escapeText_plain notOpens] at whole
    rw [escapeText_plain notOpens, List.cons_append, Lexer.literalRun_plain notOpens' ?_,
      ih fun more => shorter (plain more)]
    · rfl
    · rintro rfl
      by_cases none : cs = []
      · -- a backslash at the end of the text is in front of the end of the template
        subst none
        intro opens
        refine plain ?_ rfl
        rintro rfl
        obtain ⟨mode, behind, same⟩ := opens
        cases mode <;> cases same
      · exact not_opens_escapeText ends none

end Escaped

/-- Literal text is read as one token. -/
theorem Lexer.nextInText_literal {l : Lexer} (some : l.rest ≠ []) (plain : ¬ Opens l.rest) :
    l.nextInText =
      (⟨.literalText, String.ofList (literalRun l.rest).1, l.position⟩,
        l.skip (literalRun l.rest).2) := by
  unfold nextInText
  split
  · contradiction
  · rename_i cs rest
    exact absurd ⟨.dynamic, cs, rest⟩ plain
  · rename_i cs rest
    exact absurd ⟨.deferred, cs, rest⟩ plain
  · rfl

/-! ### Reading the pieces -/

/-- The lexer is in literal text. -/
structure Lexer.InText (l : Lexer) : Prop where
  modes : l.modes = []
  fresh : l.suffixPending = false

namespace Lexer.InText

variable {l : Lexer} (h : l.InText)
include h

theorem mode : l.mode = .text := by
  rw [Lexer.mode, h.modes]
  rfl

/-- Literal text has no errors. -/
theorem exists_stream : ∃ s : TokenStream, s.items = l.items := by
  have read : l.next.1 = .ok l.nextInText.1 := by rw [next_inText h.mode]
  by_cases final : l.nextInText.1.kind = .endOfText
  · exact ⟨⟨_, []⟩, (items_of_end read final).symm⟩
  · exact ⟨⟨_, _⟩, (items_of_token read final).symm⟩

/-- A literal text is one token, and behind it the lexer is in literal text again. -/
theorem items_text {text : String} {tail : List Char} (nonempty : text ≠ "")
    (rest : l.rest = escapeText text.toList ++ tail) (ends : EndsText tail)
    (plain : tail ≠ [] → text.toList.getLast? ≠ some '\\') :
    ∃ (t : Token) (next : Lexer), l.items = .ok t :: next.items ∧ t.kind = .literalText ∧
      t.lexeme = text ∧ next.InText ∧ next.rest = tail := by
  have notOpens : ¬ Opens l.rest := by
    rw [rest]
    exact not_opens_escapeText ends (by simpa using nonempty)
  have run : literalRun l.rest = (text.toList, (escapeText text.toList).length) := by
    rw [rest]
    exact literalRun_escapeText ends plain
  have left : l.rest ≠ [] := by
    intro none
    rw [none] at run
    exact nonempty (String.toList_eq_nil_iff.mp (congrArg Prod.fst run).symm)
  have read : l.next = (.ok ⟨.literalText, text, l.position⟩,
      l.skip (escapeText text.toList).length) := by
    rw [next_inText h.mode, nextInText_literal left notOpens, run, String.ofList_toList]
  refine ⟨⟨.literalText, text, l.position⟩, l.skip (escapeText text.toList).length, ?_, rfl, rfl,
    ⟨h.modes, h.fresh⟩, ?_⟩
  · rw [items_of_token (congrArg Prod.fst read) (by simp), read]
  · rw [rest_skip, rest, List.drop_left]

/-- An expression is its brackets and the tokens that it has on its own, and behind it the lexer is in
literal text again. -/
theorem items_expression {mode : EvalMode} {source : String} {tail : List Char} {ts : List Token}
    {last : Token} {y : Tally} (rest : l.rest = mode.opening.toList ++ (source.toList ++ '}' :: tail))
    (bare : (Lexer.ofExpression source).items = (ts ++ [last]).map .ok)
    (final : last.kind = .endOfText) (passed : Tally.start.passAll ts = some y)
    (closed : y.opened = 0) :
    ∃ (start close : Token) (us : List Token) (next : Lexer),
      l.items = .ok start :: (us.map .ok ++ .ok close :: next.items) ∧
      Parser.modeOf? start.kind = some mode ∧ us.map Token.shown = ts.map Token.shown ∧
      close.kind = .closeBrace ∧ next.InText ∧ next.rest = tail := by
  obtain ⟨start, inner, opening, opens, brace⟩ := items_opening h.modes h.fresh rest
  obtain ⟨us, close, next, closing, same, closes, rest', modes, fresh⟩ :=
    brace.items_closed (y := Tally.start) (.nothing rfl) rfl bare final passed closed
  exact ⟨start, close, us, next, closing ▸ opening, opens, same, closes, ⟨modes, fresh⟩, rest'⟩

end Lexer.InText

/-- A stream of the tokens of a text from literal text on, with `text` left. -/
def TokenStream.OnText (s : TokenStream) (text : List Char) : Prop :=
  ∃ l : Lexer, l.InText ∧ l.rest = text ∧ s.items = l.items

namespace TokenStream.OnText

variable {s : TokenStream} {tail : List Char}

theorem atEnd (h : s.OnText []) : s.current.kind = .endOfText := by
  obtain ⟨l, -, rest, items⟩ := h
  obtain ⟨last, single, final⟩ := Lexer.items_of_nil rest
  obtain ⟨here, -⟩ := List.cons.inj (items.trans single)
  cases here
  exact final

/-- A literal text is at the front of the stream, and what is behind it comes next. -/
theorem text {text : String} (h : s.OnText (escapeText text.toList ++ tail)) (nonempty : text ≠ "")
    (ends : EndsText tail) (plain : tail ≠ [] → text.toList.getLast? ≠ some '\\') :
    ∃ v, s.current.kind = .literalText ∧ s.current.lexeme = text ∧ s.advance = .ok v ∧
      v.OnText tail ∧ s.ahead.length = v.ahead.length + 1 := by
  obtain ⟨l, inText, rest, items⟩ := h
  obtain ⟨t, next, first, kind, lexeme, inText', rest'⟩ :=
    inText.items_text nonempty rest ends plain
  obtain ⟨v, own⟩ := inText'.exists_stream
  obtain ⟨here, behind⟩ := List.cons.inj (items.trans first)
  cases here
  have ahead : s.ahead = v.items := behind.trans own.symm
  exact ⟨v, kind, lexeme, advance_of_ahead ahead, ⟨next, inText', rest', own⟩,
    congrArg List.length ahead⟩

/-- An expression between its brackets is parsed as it is on its own, and what is behind them comes
next. -/
theorem expression {mode : EvalMode} {source : String} {tree : Expr} {budget : Nat}
    (h : s.OnText (mode.opening.toList ++ (source.toList ++ '}' :: tail)))
    (parsed : Expr.parse source = .ok tree) (enough : 16 * s.ahead.length ≤ budget) :
    ∃ u z v, Parser.modeOf? s.current.kind = some mode ∧ s.advance = .ok u ∧
      Parser.expr budget .sequence u = .ok (tree, z) ∧ z.current.kind = .closeBrace ∧
      z.advance = .ok v ∧ v.OnText tail ∧ v.ahead.length + 2 ≤ s.ahead.length := by
  obtain ⟨l, inText, rest, items⟩ := h
  obtain ⟨s₀, z₀, ts, read, final, own, bare, passed⟩ := run_of_parse parsed
  obtain ⟨start, close, us, next, first, opens, same, closes, inText', rest'⟩ :=
    inText.items_expression rest bare final passed rfl
  obtain ⟨here, behind⟩ := List.cons.inj (items.trans first)
  cases here
  -- the streams on the first token of the expression and behind its bracket
  obtain ⟨u, own'⟩ := exists_items us ⟨close, next.items⟩
  obtain ⟨v, later⟩ := inText'.exists_stream
  have ahead : s.ahead = u.items := behind.trans own'.symm
  have length : s.ahead.length = us.length + (v.ahead.length + 2) := by
    rw [behind, ← later]
    simp [TokenStream.items]
  have lengths : us.length = ts.length := by simpa using congrArg List.length same
  have places : Places z₀ ⟨close, next.items⟩ :=
    ⟨by rw [final]; rfl, by rw [closes]; rfl, fun notEnd => absurd final notEnd⟩
  have tree' : Parser.expr budget .sequence u = .ok (tree, ⟨close, next.items⟩) :=
    expr_of_same_tokens places same own own' (by omega) read
  exact ⟨u, _, v, opens, advance_of_ahead ahead, tree', closes, advance_of_ahead later.symm,
    ⟨next, inText', rest', later⟩, by omega⟩

end TokenStream.OnText

variable {mode : EvalMode} {pieces : List Piece}

/-- What comes behind a text. -/
theorem Composable.endsText {s : String} (h : Composable (.text s :: pieces)) (mode : EvalMode) :
    EndsText (pieces.flatMap (·.written mode)) ∧
      (pieces.flatMap (·.written mode) ≠ [] → s.toList.getLast? ≠ some '\\') := by
  cases pieces with
  | nil => exact ⟨.inl rfl, fun more => absurd rfl more⟩
  | cons piece pieces =>
    cases piece with
    | text t => exact absurd ⟨[], pieces, rfl⟩ (h.apart s t)
    | expression source tree =>
      refine ⟨.inr ⟨mode, source.toList ++ ['}'] ++ pieces.flatMap (·.written mode), ?_⟩, ?_⟩
      · simp [Piece.written]
      · exact fun _ => h.plain s source tree ⟨[], pieces, rfl⟩

/-- The pieces are read one after the other. -/
theorem templateParts_composed (h : Composable pieces) {s : TokenStream}
    (text : s.OnText (pieces.flatMap (·.written mode))) {seen : Option EvalMode}
    (allowed : seen.all (· == mode) = true) {budget : Nat}
    (enough : 16 * s.ahead.length + 15 ≤ budget) :
    ∃ z, Parser.templateParts budget seen s =
      .ok ((pieces.map Piece.part, modeOfPieces mode pieces seen), z) := by
  induction pieces generalizing seen s budget with
  | nil =>
    obtain ⟨budget, rfl⟩ : ∃ b, budget = b + 1 := ⟨budget - 1, by omega⟩
    exact ⟨s, Parser.templateParts_end text.atEnd budget seen⟩
  | cons piece pieces ih =>
    obtain ⟨budget, rfl⟩ : ∃ b, budget = b + 1 := ⟨budget - 1, by omega⟩
    rw [List.flatMap_cons] at text
    cases piece with
    | text part =>
      obtain ⟨ends, plain⟩ := h.endsText mode
      obtain ⟨v, kind, lexeme, moved, text', length⟩ :=
        text.text (h.nonempty part List.mem_cons_self) ends plain
      have enough' : 16 * v.ahead.length + 15 ≤ budget := by omega
      obtain ⟨z, others⟩ := ih h.tail text' allowed enough'
      refine ⟨z, ?_⟩
      rw [Parser.templateParts_text kind, Parser.bind_ok (Parser.advance_ok moved),
        Parser.bind_ok others, lexeme]
      rfl
    | expression source tree =>
      have parsed := Expression.isSingle_compileStandalone.mp
        (h.compiled source tree List.mem_cons_self)
      have written : s.OnText (mode.opening.toList ++
          (source.toList ++ '}' :: pieces.flatMap (·.written mode))) := by
        simpa [Piece.written] using text
      have room : 16 * s.ahead.length ≤ budget := by omega
      obtain ⟨u, z₁, v, opens, moved, read, closes, moved', text', length⟩ :=
        written.expression parsed room
      have allowed' : (some mode).all (· == mode) = true := by simp
      have enough' : 16 * v.ahead.length + 15 ≤ budget := by omega
      obtain ⟨z, others⟩ := ih h.tail text' allowed' enough'
      refine ⟨z, ?_⟩
      rw [Parser.templateParts_expression opens allowed moved read closes moved',
        Parser.bind_ok others]
      have seen' : modeOfPieces mode (.expression source tree :: pieces) seen =
          modeOfPieces mode pieces (some mode) := by simp [modeOfPieces, Piece.isExpression]
      rw [seen']
      rfl

/-! ### Whole templates -/

/-- Texts and expressions are written one after the other, the texts with a backslash before every
opening bracket and the expressions between brackets of one mode. The template that this is compiled
to has the texts and the trees of the expressions for its parts, in their order, and the mode of the
brackets if there are any. -/
theorem compile_composed (pieces : List Piece) (h : Composable pieces) (mode : EvalMode) :
    Expression.compile (writePieces mode pieces) =
      .ok ⟨writePieces mode pieces,
        ⟨pieces.map Piece.part, if pieces.any Piece.isExpression then some mode else none⟩⟩ := by
  have rest : (Lexer.ofTemplate (writePieces mode pieces)).rest =
      pieces.flatMap (·.written mode) := by
    simp [Lexer.ofTemplate, writePieces]
  have inText : (Lexer.ofTemplate (writePieces mode pieces)).InText := ⟨rfl, rfl⟩
  obtain ⟨s, items⟩ := inText.exists_stream
  have stream := TokenStream.ofLexer_of_items items.symm
  have allowed : (none : Option EvalMode).all (· == mode) = true := rfl
  have enough : 16 * s.ahead.length + 15 ≤ Parser.budgetFor s := by
    rw [Parser.budgetFor]
    omega
  obtain ⟨z, read⟩ := templateParts_composed h ⟨_, inText, rest, items⟩ allowed enough
  have whole : Parser.template s = .ok (⟨pieces.map Piece.part, modeOfPieces mode pieces none⟩, z) := by
    rw [Parser.template_eq, Parser.bind_ok read]
    rfl
  have parsed : Template.parse (writePieces mode pieces) = _ := Parser.parseAll_ok stream whole
  rw [Expression.compile, parsed]
  rfl

/-- Brackets and their first characters in the texts around an expression. -/
theorem compile_composed_brackets :
    Expression.compile "\\$\x7bn\x7d$$\x7bx\x7d\\#\x7b" =
      .ok ⟨"\\$\x7bn\x7d$$\x7bx\x7d\\#\x7b",
        ⟨[.text "$\x7bn\x7d$", .expression (.identifier "x"), .text "#\x7b"], some .dynamic⟩⟩ := by
  have parsed : Expr.parse "x" = .ok (.identifier "x") := by
    have items : (Lexer.ofExpression "x").items =
        [.ok ⟨.identifier, "x", ⟨0, 1, 1⟩⟩, .ok ⟨.endOfText, "", ⟨1, 1, 2⟩⟩] := by decide +kernel
    rw [Expr.parse, Parser.parseAll, TokenStream.ofLexer_of_items items]
    rfl
  let pieces : List Piece :=
    [.text "$\x7bn\x7d$", .expression "x" (.identifier "x"), .text "#\x7b"]
  have composable : Composable pieces := by
    refine ⟨?_, ?_, ?_, ?_⟩
    · simp [pieces]
    · simp [pieces, List.infix_cons_iff]
    · intro s source tree there
      obtain ⟨rfl, -, -⟩ : s = "$\x7bn\x7d$" ∧ source = "x" ∧ tree = .identifier "x" := by
        simpa [pieces, List.infix_cons_iff] using there
      decide
    · simp [pieces, Expression.isSingle_compileStandalone, parsed]
  exact compile_composed pieces composable .dynamic

end ExprLang
