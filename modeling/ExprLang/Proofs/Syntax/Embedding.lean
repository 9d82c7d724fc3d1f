import ExprLang.Expression
import ExprLang.Proofs.Syntax.Closing
import ExprLang.Proofs.Syntax.RestIrrelevant.Productions
import ExprLang.Proofs.Syntax.RoundTrip

/-!
# Bare expressions and embedded ones

A text compiles as a bare expression just if it does between the brackets of a template with nothing
around them, and to the same tree. **Key theorem**: `compileStandalone_iff_embedded`. The bare text
ends where the template has its closing brace: the lexer reads the same tokens up to there, and the
parser does not depend on what comes behind.
-/

namespace ExprLang

/-! ### Streams with the same tokens -/

/-- Tokens in front of a stream are a stream. -/
theorem TokenStream.exists_items (ts : List Token) (z : TokenStream) :
    ∃ s : TokenStream, s.items = ts.map .ok ++ z.items := by
  cases ts with
  | nil => exact ⟨z, rfl⟩
  | cons t ts => exact ⟨⟨t, ts.map .ok ++ z.items⟩, rfl⟩

namespace Aligned

variable {z z' : TokenStream}

theorem of_items {ts us : List Token} {s u : TokenStream}
    (same : us.map Token.shown = ts.map Token.shown) (items : s.items = ts.map .ok ++ z.items)
    (items' : u.items = us.map .ok ++ z'.items) : Aligned z z' ts.length s u := by
  induction ts generalizing us s u with
  | nil =>
    obtain rfl : us = [] := by simpa using same
    rw [TokenStream.items_injective items, TokenStream.items_injective items']
    exact .last
  | cons t ts ih =>
    cases us with
    | nil => simp at same
    | cons t' us =>
      rw [List.map_cons, List.map_cons] at same
      obtain ⟨first, others⟩ := List.cons.inj same
      obtain ⟨s', behind⟩ := TokenStream.exists_items ts z
      obtain ⟨u', behind'⟩ := TokenStream.exists_items us z'
      obtain ⟨here, ahead⟩ := List.cons.inj items
      obtain ⟨here', ahead'⟩ := List.cons.inj items'
      cases here
      cases here'
      exact .more first.symm (ahead.trans behind.symm) (ahead'.trans behind'.symm)
        (ih others behind behind')

theorem length {n : Nat} {s u : TokenStream} (aligned : Aligned z z' n s u) :
    s.items.length = n + z.items.length := by
  induction aligned with
  | last => simp
  | more _ ahead _ _ ih =>
    rw [TokenStream.items, ahead, List.length_cons, ih]
    omega

/-- At its place one stream is aligned with the other one at its place only. -/
theorem eq_place {n : Nat} {u : TokenStream} (aligned : Aligned z z' n z u) : u = z' := by
  obtain rfl : n = 0 := by
    have length := aligned.length
    omega
  cases aligned
  rfl

end Aligned

/-- An expression is read in the same way from all streams with the same tokens in front of a place
where it may end. -/
theorem expr_of_same_tokens {z z' s u : TokenStream} {ts us : List Token} {budget budget' : Nat}
    {level : Level} {e : Expr} (places : Places z z')
    (same : us.map Token.shown = ts.map Token.shown) (items : s.items = ts.map .ok ++ z.items)
    (items' : u.items = us.map .ok ++ z'.items) (enough : 16 * ts.length + 15 ≤ budget')
    (read : Parser.expr budget level s = .ok (e, z)) :
    Parser.expr budget' level u = .ok (e, z') := by
  have mirrors : Mirrors z z' Anywhere ts.length 1 (Parser.expr budget level)
      (Parser.expr budget' level) := Mirrors.expr places budget level (by omega)
  obtain ⟨m, u', -, ran, aligned⟩ := mirrors.follows ts.length s u e z trivial (Int.le_refl _)
    (.of_items same items items') read (List.suffix_refl _)
  rw [ran, aligned.eq_place]

/-! ### Runs over a whole text -/

namespace Parser

variable {s : TokenStream} {e : Expr}

/-- The parts of a template from the start of an expression on. -/
theorem templateParts_start {mode : EvalMode} {seen : Option EvalMode}
    (start : modeOf? s.current.kind = some mode) (same : seen.all (· == mode) = true)
    (budget : Nat) :
    templateParts (budget + 1) seen s = (do
      advance
      let e ← expr budget .sequence
      expect .closeBrace
      let (parts, mode) ← templateParts budget (some mode)
      return (.expression e :: parts, mode) : Parser _) s := by
  rw [templateParts, bind_ok (p := current) (a := s.current) rfl]
  unfold modeOf? at start
  split at start
  · rename_i kind
    cases start
    rw [kind]
    exact congrFun (if_pos same) s
  · rename_i kind
    cases start
    rw [kind]
    exact congrFun (if_pos same) s
  · cases start

theorem templateParts_expression {u z v : TokenStream} {mode : EvalMode} {seen : Option EvalMode}
    {budget : Nat} (start : modeOf? s.current.kind = some mode)
    (same : seen.all (· == mode) = true) (moved : s.advance = .ok u)
    (read : expr budget .sequence u = .ok (e, z)) (closes : z.current.kind = .closeBrace)
    (moved' : z.advance = .ok v) :
    templateParts (budget + 1) seen s = (do
      let (parts, mode) ← templateParts budget (some mode)
      return (.expression e :: parts, mode) : Parser _) v := by
  rw [templateParts_start start same, bind_ok (advance_ok moved), bind_ok read,
    bind_ok (expect_ok closes moved')]

theorem templateParts_text (text : s.current.kind = .literalText) (budget : Nat)
    (seen : Option EvalMode) :
    templateParts (budget + 1) seen s = (do
      advance
      let (parts, mode) ← templateParts budget seen
      return (.text s.current.lexeme :: parts, mode) : Parser _) s := by
  rw [templateParts, bind_ok (p := current) (a := s.current) rfl, text]

theorem templateParts_end (final : s.current.kind = .endOfText) (budget : Nat)
    (seen : Option EvalMode) : templateParts (budget + 1) seen s = .ok (([], seen), s) := by
  rw [templateParts, bind_ok (p := current) (a := s.current) rfl, final]
  rfl

/-- The parser gives no template without parts. -/
def Fills (p : Parser (List TemplatePart × Option EvalMode)) : Prop :=
  ∀ s mode s', p s ≠ .ok (([], mode), s')

theorem Fills.bind {α : Type} {p : Parser α} {f : α → Parser (List TemplatePart × Option EvalMode)}
    (h : ∀ a, Fills (f a)) : Fills (p >>= f) := by
  intro s mode s' ran
  obtain ⟨a, between, -, ran⟩ := of_bind ran
  exact h a between mode s' ran

theorem Fills.cons (part : TemplatePart) (parts : List TemplatePart) (mode : Option EvalMode) :
    Fills (pure (part :: parts, mode)) := by
  intro s mode s' ran
  cases ran

/-- From the stream the parser gives a template without parts only if it is at the end of a text. -/
def EmptyAtEnd (s : TokenStream) (p : Parser (List TemplatePart × Option EvalMode)) : Prop :=
  ∀ mode s', p s = .ok (([], mode), s') → s.current.kind = .endOfText

theorem EmptyAtEnd.current {f : Token → Parser (List TemplatePart × Option EvalMode)}
    (h : EmptyAtEnd s (f s.current)) : EmptyAtEnd s (Parser.current >>= f) :=
  h

theorem Fills.emptyAtEnd {p : Parser (List TemplatePart × Option EvalMode)} (h : Fills p) :
    EmptyAtEnd s p :=
  fun mode s' ran => absurd ran (h s mode s')

theorem emptyAtEnd_templateParts (budget : Nat) (seen : Option EvalMode) :
    EmptyAtEnd s (templateParts budget seen) := by
  cases budget with
  | zero =>
    intro mode s' ran
    cases ran
  | succ budget =>
    refine EmptyAtEnd.current ?_
    split
    · exact fun _ _ _ => ‹_›
    · exact Fills.emptyAtEnd (.bind fun _ => .bind fun _ => .cons _ _ _)
    · split
      · intro mode s' ran
        cases ran
      · split
        · refine Fills.emptyAtEnd (.bind fun _ => .bind fun _ => .bind fun _ => .bind fun _ => ?_)
          exact .cons _ _ _
        · intro mode s' ran
          cases ran

/-- What is read of a whole template, with the budget that its length gives. -/
theorem template_eq (s : TokenStream) :
    template s = (do
      let (parts, mode) ← templateParts (budgetFor s) none
      return ⟨parts, mode⟩ : Parser _) s :=
  rfl

/-- A template is a single expression just if one is read up to a brace, with the end behind it. -/
theorem templateParts_single_iff {mode : EvalMode} (start : modeOf? s.current.kind = some mode)
    (budget : Nat) :
    (∃ seen s', templateParts (budget + 2) none s = .ok (([.expression e], seen), s')) ↔
      ∃ s₁ s₂ s₃, s.advance = .ok s₁ ∧ expr (budget + 1) .sequence s₁ = .ok (e, s₂) ∧
        s₂.current.kind = .closeBrace ∧ s₂.advance = .ok s₃ ∧ s₃.current.kind = .endOfText := by
  rw [templateParts_start start rfl]
  constructor
  · rintro ⟨seen, s', ran⟩
    obtain ⟨_, s₁, moved, ran⟩ := of_bind ran
    obtain ⟨e', s₂, read, ran⟩ := of_bind ran
    obtain ⟨_, s₃, behind, ran⟩ := of_bind ran
    obtain ⟨⟨parts, seen'⟩, s₄, rest, ran⟩ := of_bind ran
    cases ran
    obtain ⟨closes, moved'⟩ := of_expect behind
    have final := emptyAtEnd_templateParts _ _ _ _ rest
    exact ⟨s₁, s₂, s₃, of_advance moved, read, closes, moved', final⟩
  · rintro ⟨s₁, s₂, s₃, moved, read, closes, moved', final⟩
    rw [bind_ok (advance_ok moved), bind_ok read, bind_ok (expect_ok closes moved'),
      bind_ok (templateParts_end final budget (some mode))]
    exact ⟨_, _, rfl⟩

end Parser

/-! ### Whole texts -/

/-- The bracket that opens an expression of a mode. -/
def EvalMode.opening : EvalMode → String
  | dynamic => "$\x7b"
  | deferred => "#\x7b"

theorem nextInText_opening {mode : EvalMode} {l : Lexer} {cs : List Char}
    (rest : l.rest = mode.opening.toList ++ cs) :
    ∃ start : Token, l.nextInText = (start, (l.skip 2).push .expression) ∧
      Parser.modeOf? start.kind = some mode := by
  unfold Lexer.nextInText
  cases mode with
  | dynamic =>
    have text : l.rest = '$' :: '{' :: cs := rest
    rw [text]
    exact ⟨_, rfl, rfl⟩
  | deferred =>
    have text : l.rest = '#' :: '{' :: cs := rest
    rw [text]
    exact ⟨_, rfl, rfl⟩

theorem rest_embedded (mode : EvalMode) (source : String) :
    (Lexer.ofTemplate (mode.opening ++ source ++ "\x7d")).rest =
      mode.opening.toList ++ (source.toList ++ ['}']) := by
  simp [Lexer.ofTemplate]

theorem notEnd_of_modeOf? {kind : TokenKind} {mode : EvalMode}
    (opens : Parser.modeOf? kind = some mode) : kind ≠ .endOfText := by
  rintro rfl
  cases opens

/-- Behind its opening bracket an expression of a template is read as it is on its own, but with its
closing bracket and more text behind it. -/
theorem items_opening {mode : EvalMode} {l : Lexer} {source : String} {tail : List Char}
    (modes : l.modes = []) (fresh : l.suffixPending = false)
    (rest : l.rest = mode.opening.toList ++ (source.toList ++ '}' :: tail)) :
    ∃ (start : Token) (inner : Lexer), l.items = .ok start :: inner.items ∧
      Parser.modeOf? start.kind = some mode ∧
      Lexer.Extends tail (.ofExpression source) inner := by
  have text : l.mode = .text := by
    rw [Lexer.mode, modes]
    rfl
  obtain ⟨start, read, opens⟩ := nextInText_opening rest
  have next : l.next = (.ok start, (l.skip 2).push .expression) := by
    rw [Lexer.next_inText text, read]
  have items := Lexer.items_of_token (congrArg Prod.fst next) (notEnd_of_modeOf? opens)
  refine ⟨start, _, items, opens, ?_⟩
  rw [next]
  refine ⟨?_, congrArg (LexMode.expression :: ·) modes, fresh⟩
  show l.rest.drop 2 = _
  rw [rest]
  cases mode <;> rfl

/-- A bare text with the tokens of an expression is read as that. -/
theorem parse_of_tokens {source : String} {ts : List Token} {last : Token} {e : Expr}
    (items : (Lexer.ofExpression source).items = (ts ++ [last]).map .ok)
    (final : last.kind = .endOfText)
    (read : ∀ u : TokenStream, u.items = ts.map .ok ++ [.ok last] →
      Parser.expr (16 * (ts.length + 2)) .sequence u = .ok (e, ⟨last, []⟩)) :
    Expr.parse source = .ok e := by
  obtain ⟨u, own⟩ := TokenStream.exists_items ts ⟨last, []⟩
  have stream : TokenStream.ofLexer (.ofExpression source) = .ok u := by
    refine TokenStream.ofLexer_of_items (items.trans ?_)
    rw [List.map_append]
    exact own.symm
  have budget : Parser.budgetFor u = 16 * (ts.length + 2) := by
    have length := congrArg List.length own
    simp only [TokenStream.items, List.length_cons, List.length_append, List.length_map,
      List.length_nil] at length
    rw [Parser.budgetFor]
    omega
  obtain ⟨s', ran⟩ := Parser.standalone_iff.mpr ⟨_, _, budget ▸ read u own, final, rfl⟩
  exact Parser.parseAll_ok stream ran

/-- A template with the tokens of an expression between its brackets is read as that, with the budget
that is left behind the first of them. -/
theorem parse_embedded_of_tokens {source : String} {mode : EvalMode} {start close last : Token}
    {us : List Token} {e : Expr}
    (items : (Lexer.ofTemplate source).items =
      .ok start :: (us.map .ok ++ [.ok close, .ok last]))
    (opens : Parser.modeOf? start.kind = some mode) (closes : close.kind = .closeBrace)
    (final : last.kind = .endOfText)
    (read : ∀ u : TokenStream, u.items = us.map .ok ++ [.ok close, .ok last] →
      Parser.expr (16 * us.length + 63) .sequence u = .ok (e, ⟨close, [.ok last]⟩)) :
    ∃ t, Template.parse source = .ok t ∧ t.parts = [.expression e] := by
  obtain ⟨u, own⟩ := TokenStream.exists_items us ⟨close, [.ok last]⟩
  have stream := TokenStream.ofLexer_of_items items
  have budget : Parser.budgetFor ⟨start, us.map .ok ++ [.ok close, .ok last]⟩ =
      16 * us.length + 62 + 2 := by
    simp only [Parser.budgetFor, List.length_append, List.length_map, List.length_cons,
      List.length_nil]
    omega
  have moved : (TokenStream.mk start (us.map .ok ++ [.ok close, .ok last])).advance = .ok u :=
    TokenStream.advance_of_ahead own.symm
  obtain ⟨seen, s', ran⟩ := (Parser.templateParts_single_iff opens (16 * us.length + 62)).mpr
    ⟨u, ⟨close, [.ok last]⟩, ⟨last, []⟩, moved, read u own, closes, rfl, final⟩
  have whole : Parser.template ⟨start, us.map .ok ++ [.ok close, .ok last]⟩ =
      .ok (⟨[.expression e], seen⟩, s') := by
    rw [Parser.template_eq, budget, Parser.bind_ok ran]
    rfl
  exact ⟨_, Parser.parseAll_ok stream whole, rfl⟩

/-- The tokens of an expression with a brace and the end of the text behind it. -/
theorem tokens_of_closed_expr {s s₁ s₂ : TokenStream} {budget : Nat} {e : Expr} (whole : s.Whole)
    (read : Parser.expr budget .sequence s = .ok (e, s₁)) (closes : s₁.current.kind = .closeBrace)
    (moved : s₁.advance = .ok s₂) (final : s₂.current.kind = .endOfText) :
    ∃ us : List Token, s.items = us.map .ok ++ s₁.items ∧
      s₁.items = [.ok s₁.current, .ok s₂.current] ∧
      Tally.start.passAll us = some (Tally.start.plus e.atoms) := by
  obtain ⟨whole₁, us, items, passed⟩ := tokens_of_expr whole read
  have items₁ := whole₁.advance (by simp [closes]) moved
  have whole₂ : s₂.Whole := whole₁.suffix (items₁ ▸ List.suffix_cons _ _)
  refine ⟨us, items, ?_, passed⟩
  rw [items₁, TokenStream.items, whole₂.ended.head.mp final]

/-- The bare text has the tokens of the embedded one, up to the closing bracket. -/
theorem standalone_of_embedded {mode : EvalMode} {source : String} {t : Template} {e : Expr}
    (parsed : Template.parse (mode.opening ++ source ++ "\x7d") = .ok t)
    (single : t.parts = [.expression e]) : Expr.parse source = .ok e := by
  obtain ⟨s, s', stream, ran⟩ := stream_of_parseAll parsed
  obtain ⟨whole, items⟩ := TokenStream.whole_ofLexer rfl stream
  obtain ⟨start, l, embedded, opens, brace⟩ :=
    items_opening rfl rfl (rest_embedded mode source)
  obtain ⟨here, ahead⟩ := List.cons.inj (items.trans embedded)
  cases here
  -- the run of the parser
  rw [Parser.template_eq] at ran
  obtain ⟨⟨parts, seen⟩, _, ran, last⟩ := Parser.of_bind ran
  cases last
  cases single
  obtain ⟨s₁, z, s₃, moved, read, closes, moved', final⟩ :=
    (Parser.templateParts_single_iff opens _).mp ⟨seen, s', ran⟩
  -- its tokens
  have items₁ := whole.advance (notEnd_of_modeOf? opens) moved
  have whole₁ : s₁.Whole := whole.suffix (items₁ ▸ List.suffix_cons _ _)
  obtain ⟨us, own, behind, passed⟩ := tokens_of_closed_expr whole₁ read closes moved' final
  have inner : l.items = us.map .ok ++ [.ok z.current, .ok s₃.current] := by
    rw [← behind, ← own]
    exact ahead.symm.trans (List.cons.inj items₁).2
  -- the tokens of the bare text
  obtain ⟨ts, last, bare, same, final'⟩ :=
    brace.items_of_closed (y := Tally.start) rfl inner closes final passed rfl
  have places : Places z ⟨last, []⟩ := by
    refine ⟨by rw [closes]; rfl, by rw [final']; rfl, fun _ => ?_⟩
    rw [(List.cons.inj behind).2]
    simp
  have lengths : ts.length = us.length := by simpa using congrArg List.length same
  refine parse_of_tokens bare final' fun u own' => ?_
  exact expr_of_same_tokens places same own own' (by omega) read

/-- The embedded text has the tokens of the bare one, and the closing bracket for its end. -/
theorem embedded_of_standalone {source : String} {e : Expr} (parsed : Expr.parse source = .ok e)
    (mode : EvalMode) :
    ∃ t, Template.parse (mode.opening ++ source ++ "\x7d") = .ok t ∧ t.parts = [.expression e] := by
  obtain ⟨s, z, ts, read, final, own, bare, passed⟩ := run_of_parse parsed
  -- the tokens of the embedded text
  obtain ⟨start, l, embedded, opens, brace⟩ :=
    items_opening rfl rfl (rest_embedded mode source)
  obtain ⟨us, close, next, inner, same, closes, rest, -⟩ :=
    brace.items_closed (y := Tally.start) (.nothing rfl) rfl bare final passed rfl
  obtain ⟨last, single, final'⟩ := Lexer.items_of_nil rest
  rw [single] at inner
  have places : Places z ⟨close, [.ok last]⟩ :=
    ⟨by rw [final]; rfl, by rw [closes]; rfl, fun notEnd => absurd final notEnd⟩
  have lengths : us.length = ts.length := by simpa using congrArg List.length same
  refine parse_embedded_of_tokens (inner ▸ embedded) opens closes final' fun u own' => ?_
  exact expr_of_same_tokens places same own own' (by omega) read

namespace Expression

/-- The text compiles, and is a single expression. -/
def IsSingle (compiled : Except (Halt ParseError) Expression) (e : Expr) : Prop :=
  ∃ x, compiled = .ok x ∧ x.template.parts = [.expression e]

theorem isSingle_compileStandalone {source : String} {e : Expr} :
    IsSingle (compileStandalone source) e ↔ Expr.parse source = .ok e := by
  unfold IsSingle compileStandalone
  cases Expr.parse source with
  | error h =>
    constructor
    · rintro ⟨x, compiled, -⟩
      cases compiled
    · intro parsed
      cases parsed
  | ok tree =>
    constructor
    · rintro ⟨x, compiled, single⟩
      cases compiled
      cases single
      rfl
    · intro parsed
      cases parsed
      exact ⟨_, rfl, rfl⟩

theorem isSingle_compile {source : String} {e : Expr} :
    IsSingle (compile source) e ↔
      ∃ t, Template.parse source = .ok t ∧ t.parts = [.expression e] := by
  unfold IsSingle compile
  cases Template.parse source with
  | error h =>
    constructor
    · rintro ⟨x, compiled, -⟩
      cases compiled
    · rintro ⟨t, parsed, -⟩
      cases parsed
  | ok template =>
    constructor
    · rintro ⟨x, compiled, single⟩
      cases compiled
      exact ⟨template, rfl, single⟩
    · rintro ⟨t, parsed, single⟩
      cases parsed
      exact ⟨_, rfl, single⟩

/-- A text compiles on its own just if it does as the only expression of a template, of either mode,
and the trees are the same. -/
theorem compileStandalone_iff_embedded (source : String) (e : Expr) :
    (IsSingle (compileStandalone source) e ↔
      IsSingle (compile ("$\x7b" ++ source ++ "\x7d")) e) ∧
    (IsSingle (compileStandalone source) e ↔
      IsSingle (compile ("#\x7b" ++ source ++ "\x7d")) e) := by
  have agree (mode : EvalMode) : IsSingle (compileStandalone source) e ↔
      IsSingle (compile (mode.opening ++ source ++ "\x7d")) e := by
    rw [isSingle_compileStandalone, isSingle_compile]
    constructor
    · exact fun parsed => embedded_of_standalone parsed mode
    · rintro ⟨t, parsed, single⟩
      exact standalone_of_embedded parsed single
  exact ⟨agree .dynamic, agree .deferred⟩

end Expression

end ExprLang
