import ExprLang.Proofs.Syntax.Slots
import ExprLang.Template.Parser

/-!
# What is printed is read as what it was printed for

By induction on a tree of the grammar, with one lemma for each constructor. **Key theorem**:
`Expr.WellFormed.parse_print`.
-/

namespace ExprLang

namespace RoundTrips

variable {bare : Bool}

/-! ### Primary expressions -/

/-- An expression of the primary level, read by that level. -/
theorem of_primary {e : Expr} (h : e.WellFormed) (primary : e.level = .primary)
    (own : ∀ rest budget, Stops .primary rest → NoArguments e rest →
      16 * (shownOf (Printer.lexemes bare e)).length ≤ budget →
      Reads (Parser.primary budget (Parser.expr budget .sequence) (Parser.expr budget .assignment))
        (shownOf (Printer.lexemes bare e)) e rest) : RoundTrips bare e := by
  refine of_own .primary primary h rfl ?_
  intro rest budget stops noArgs enough
  exact own rest budget stops noArgs (by simp only [Level.rank] at enough; omega)

theorem identifier {name : String} (h : IsName name) : RoundTrips bare (.identifier name) :=
  of_primary (.identifier h) rfl fun _ _ stops noArgs _ =>
    Reads.primary_identifier name stops.some stops.noSuffix (noArgs rfl)

theorem function {name : String} {args : List Expr} (h : IsName name)
    (wellFormed : ∀ a ∈ args, a.WellFormed) (ih : ∀ a ∈ args, RoundTrips bare a) :
    RoundTrips bare (.function none name args) := by
  refine of_primary (.function h wellFormed) rfl ?_
  intro rest budget stops _ enough
  rw [Printer.lexemes, shownOf_cons, List.length_append] at enough
  exact Reads.primary_function (arguments ih stops.some (by omega) (by omega))

theorem qualified {qualifier name : String} {args : List Expr} (hq : IsWord qualifier)
    (hname : IsWord name) (wellFormed : ∀ a ∈ args, a.WellFormed)
    (ih : ∀ a ∈ args, RoundTrips bare a) :
    RoundTrips bare (.function (some qualifier) name args) := by
  refine of_primary (.qualified hq hname wellFormed) rfl ?_
  intro rest budget stops _ enough
  rw [Printer.lexemes, shownOf_cons, List.length_append] at enough
  exact Reads.primary_qualified (arguments ih stops.some (by omega) (by omega))

theorem list {es : List Expr} (wellFormed : ∀ e ∈ es, e.WellFormed)
    (ih : ∀ e ∈ es, RoundTrips bare e) : RoundTrips bare (.list es) := by
  refine of_primary (.list wellFormed) rfl ?_
  intro rest budget stops _ enough
  rw [Printer.lexemes, Printer.items_eq_map, shownOf_between] at enough ⊢
  simp only [List.length_append, List.length_cons, List.length_nil] at enough
  have count := count_le_items ih .comma
  refine Reads.primary_list ?_ (by simp)
  exact Reads.itemsUntil (by decide) (by decide)
    (items ih .closeBracket (by decide) rfl (by omega)) stops.some (by omega)

theorem set {es : List Expr} (wellFormed : ∀ e ∈ es, e.WellFormed)
    (ih : ∀ e ∈ es, RoundTrips bare e) : RoundTrips bare (.set es) := by
  refine of_primary (.set wellFormed) rfl ?_
  intro rest budget stops _ enough
  rw [Printer.lexemes, Printer.items_eq_map, shownOf_between] at enough ⊢
  simp only [List.length_append, List.length_cons, List.length_nil] at enough
  have count := count_le_items ih .comma
  refine Reads.primary_braces ?_ (by simp)
  exact Reads.braces_set (items ih .closeBrace (by decide) rfl (by omega)) stops.some (by omega)

theorem map {es : List (Expr × Expr)} (nonempty : es ≠ [])
    (wellFormedKeys : ∀ e ∈ es, e.1.WellFormed) (wellFormedValues : ∀ e ∈ es, e.2.WellFormed)
    (keys : ∀ e ∈ es, RoundTrips bare e.1) (values : ∀ e ∈ es, RoundTrips bare e.2) :
    RoundTrips bare (.map es) := by
  refine of_primary (.map nonempty wellFormedKeys wellFormedValues) rfl ?_
  intro rest budget stops _ enough
  let pieces (e : Expr × Expr) : List Lexeme :=
    Printer.item bare e.1 ++ [.mark .colon] ++ Printer.item bare e.2
  have entries : Printer.entries bare es = es.map pieces := by
    refine (Printer.entries_eq_map bare es).trans (List.map_congr_left ?_)
    rintro ⟨key, value⟩ _
    rfl
  rw [Printer.lexemes, entries, shownOf_between] at enough ⊢
  simp only [List.length_append, List.length_cons, List.length_nil] at enough
  have long (e : Expr × Expr) : (shownOf (pieces e)).length =
      (shownOf (Printer.item bare e.1)).length + 1 + (shownOf (Printer.item bare e.2)).length := by
    simp [pieces, Lexeme.shown]
    omega
  have some (e : Expr × Expr) (_ : e ∈ es) : shownOf (pieces e) ≠ [] := by
    simp [pieces, Lexeme.shown]
  have count := count_le_separated pieces .comma some
  have shorter (e : Expr × Expr) (mem : e ∈ es) := length_le_separated pieces .comma mem
  cases es with
  | nil => exact absurd rfl nonempty
  | cons first others =>
    refine Reads.primary_braces ?_ (by simp)
    rw [List.length_cons] at count
    refine Reads.braces_map ?_ ?_ stops.some (by omega)
    · intro e mem
      refine ⟨(keys e mem).begins .assignment, fun more colon noSuffix => ?_⟩
      -- no level goes on at the colon, and no name turns into a qualifier there
      have stops : Stops .assignment more := .of_head colon noSuffix (by decide)
      have part := shorter e mem
      have whole := long e
      refine (keys e mem).reads (by decide) stops ?_
      show 16 * ((shownOf (Printer.item bare e.1)).length + 1) ≤ budget + 1
      omega
    · intro e mem
      refine ⟨(values e mem).begins .assignment, fun more follows => ?_⟩
      have part := shorter e mem
      have whole := long e
      exact (values e mem).item .closeBrace (by decide) rfl (by omega) follows

/-! ### Levels without a loop -/

theorem unary {op : UnaryOp} {operand : Expr} (wellFormed : operand.WellFormed)
    (ih : RoundTrips bare operand) : RoundTrips bare (.unary op operand) := by
  refine of_own .unary rfl (.unary wellFormed) rfl ?_
  intro rest budget stops _ enough
  have shown : shownOf (Printer.lexemes bare (.unary op operand)) =
      op.kind.shown :: tokensAt bare .unary operand := rfl
  rw [shown, List.length_cons] at enough
  refine Reads.unary (ih.reads (by decide) stops ?_) (ih.begins _).ne_nil
  simp only [Level.rank] at enough ⊢
  omega

theorem conditional {condition yes no : Expr} (wellFormed : condition.WellFormed)
    (wellFormedYes : yes.WellFormed) (wellFormedNo : no.WellFormed)
    (test : RoundTrips bare condition) (chosen : RoundTrips bare yes)
    (other : RoundTrips bare no) : RoundTrips bare (.conditional condition yes no) := by
  refine of_own .conditional rfl (.conditional wellFormed wellFormedYes wellFormedNo) rfl ?_
  intro rest budget stops _ enough
  have shown : shownOf (Printer.lexemes bare (.conditional condition yes no)) =
      tokensAt bare .disjunction condition ++ (TokenKind.question.shown ::
        tokensAt bare .conditional yes ++ TokenKind.colon.shown ::
          tokensAt bare .conditional no) := by
    simp [Printer.lexemes, tokensAt, Lexeme.shown, TokenKind.shown]
  rw [shown] at enough ⊢
  simp only [List.length_append, List.length_cons, Level.rank] at enough
  refine Reads.conditional ?_ ?_ ?_ (chosen.begins _).ne_nil (other.begins _).ne_nil
  · refine test.reads (by decide) (.of_mark (by decide) (by decide)) ?_
    simp only [Level.rank]
    omega
  · refine chosen.reads (by decide) (.of_colon (other.begins _)) ?_
    simp only [Level.rank]
    omega
  · refine other.reads (by decide) stops ?_
    simp only [Level.rank]
    omega

theorem assign {target value : Expr} (assignable : target.isAssignable = true)
    (wellFormed : target.WellFormed) (wellFormedValue : value.WellFormed)
    (place : RoundTrips bare target) (ih : RoundTrips bare value) :
    RoundTrips bare (.assign target value) := by
  refine of_own .assignment rfl (.assign assignable wellFormed wellFormedValue) rfl ?_
  intro rest budget stops _ enough
  have shown : shownOf (Printer.lexemes bare (.assign target value)) =
      tokensAt bare .lambda target ++ TokenKind.assign.shown ::
        tokensAt bare .assignment value := by
    simp [Printer.lexemes, tokensAt, Lexeme.shown, TokenKind.shown]
  rw [shown] at enough ⊢
  simp only [List.length_append, List.length_cons, Level.rank] at enough
  refine Reads.assignment assignable ?_ ?_ (ih.begins _).ne_nil
  · refine place.reads (by decide) (.of_mark (by decide) (by decide)) ?_
    simp only [Level.rank]
    omega
  · refine ih.reads (by decide) stops ?_
    simp only [Level.rank]
    omega

theorem lambda {params : List String} {body : Expr} (names : ∀ p ∈ params, IsName p)
    (wellFormed : body.WellFormed) (ih : RoundTrips bare body) :
    RoundTrips bare (.lambda params body) := by
  refine of_own .lambda rfl (.lambda names wellFormed) rfl ?_
  intro rest budget stops _ enough
  have shown : shownOf (Printer.lexemes bare (.lambda params body)) =
      shownOf (Printer.parameters bare params) ++ TokenKind.arrow.shown ::
        tokensAt bare .lambda body := by
    simp [Printer.lexemes, tokensAt, Lexeme.shown, TokenKind.shown]
  rw [shown] at enough ⊢
  simp only [List.length_append, List.length_cons, Level.rank] at enough
  refine Reads.lambda (ih.reads (by decide) stops ?_) (ih.begins _).ne_nil
  simp only [Level.rank]
  omega

theorem sequence {steps : List Expr} (two : 2 ≤ steps.length)
    (wellFormed : ∀ e ∈ steps, e.WellFormed) (ih : ∀ e ∈ steps, RoundTrips bare e) :
    RoundTrips bare (.sequence steps) := by
  refine of_own .sequence rfl (.sequence two wellFormed) rfl ?_
  intro rest budget stops _ enough
  rw [Printer.lexemes, Printer.items_eq_map] at enough ⊢
  simp only [Level.rank] at enough
  have count := count_le_items ih .semicolon
  cases steps with
  | nil => contradiction
  | cons first others =>
    rw [List.length_cons] at count two
    have several : others ≠ [] := List.ne_nil_of_length_pos (by omega)
    have stop : headKind rest ≠ some .semicolon := stops.ne (ℓ := .sequence) rfl (Nat.le_refl _)
    -- a step ends at a semicolon, the last one where the sequence ends
    refine Reads.sequence several ?_ stops.some stop (by omega)
    intro e mem
    refine ⟨((ih e mem).begins .assignment).ne_nil, fun more follows => ?_⟩
    have looser : Stops .assignment more := by
      rcases follows with semicolon | rfl
      · exact .of_kind semicolon (by decide) (by decide)
      · exact stops.mono (by decide)
    have shorter := length_le_separated (Printer.item bare) .semicolon mem
    refine (ih e mem).reads (by decide) looser ?_
    show 16 * ((shownOf (Printer.item bare e)).length + 1) ≤ budget + 1
    omega

/-! ### Levels with a loop -/

theorem member {object : Expr} {name : String} (wellFormed : object.WellFormed) (h : IsName name)
    (ih : RoundTrips bare object) : RoundTrips bare (.access object (.key name)) := by
  have shown : shownOf (Printer.lexemes bare (.access object (.key name))) =
      tokensAt bare .access object ++ [TokenKind.dot.shown, (.identifier, name)] := by
    simp [Printer.lexemes, Printer.keyed, tokensAt, Lexeme.shown, TokenKind.shown]
  refine of_continues .access rfl (.member wellFormed h) rfl ?_
  rw [shown]
  refine (ih.continuesAt rfl).turn (ih.begins _).ne_nil (by simp) ?_ ?_ ?_
  · exact fun more => .of_mark (by decide) (by decide)
  · exact fun more _ => by simp [TokenKind.shown]
  · intro budget fuel vs rest out stops noArgs _ _ read
    exact Reads.accesses_member stops.some (noArgs rfl) read

theorem index {object key : Expr} (wellFormed : object.WellFormed) (wellFormedKey : key.WellFormed)
    (ih : RoundTrips bare object) (ihKey : RoundTrips bare key) :
    RoundTrips bare (.access object key) := by
  have shown : shownOf (Printer.lexemes bare (.access object key)) =
      tokensAt bare .access object ++ (TokenKind.openBracket.shown ::
        shownOf (Printer.lexemes bare key) ++ [TokenKind.closeBracket.shown]) := by
    rw [Printer.lexemes, Printer.keyed_of_wellFormed wellFormedKey, shownOf_append, shownOf_between]
    rfl
  refine of_continues .access rfl (.index wellFormed wellFormedKey) rfl ?_
  rw [shown]
  refine (ih.continuesAt rfl).turn (ih.begins _).ne_nil (by simp) ?_ ?_ ?_
  · exact fun more => .of_mark (by decide) (by decide)
  · exact fun more _ => by simp [TokenKind.shown]
  · intro budget fuel vs rest out stops _ enough _ read
    simp only [List.length_append, List.length_cons, List.length_nil, Level.rank] at enough
    -- the brackets admit every level
    have whole : tokensAt bare .sequence key = shownOf (Printer.lexemes bare key) :=
      tokensAt_of_le (Nat.zero_le _)
    have inside : Reads (Parser.expr budget .sequence) (shownOf (Printer.lexemes bare key)) key
        (TokenKind.closeBracket.shown :: vs ++ rest) := by
      rw [← whole] at enough ⊢
      refine ihKey.reads (by decide) (.of_mark (by decide) (by decide)) ?_
      simp only [Level.rank]
      omega
    rw [List.append_assoc]
    exact Reads.accesses_index inside stops.some read

theorem method {object : Expr} {name : String} {args : List Expr} (wellFormed : object.WellFormed)
    (h : IsName name) (wellFormedArgs : ∀ a ∈ args, a.WellFormed) (ih : RoundTrips bare object)
    (ihArgs : ∀ a ∈ args, RoundTrips bare a) : RoundTrips bare (.method object name args) := by
  have shown : shownOf (Printer.lexemes bare (.method object name args)) =
      tokensAt bare .access object ++ (TokenKind.dot.shown :: (.identifier, name) ::
        shownOf (Printer.arguments (Printer.items bare args))) := by
    simp [Printer.lexemes, tokensAt, Lexeme.shown, TokenKind.shown]
  refine of_continues .access rfl (.method wellFormed h wellFormedArgs) rfl ?_
  rw [shown]
  refine (ih.continuesAt rfl).turn (ih.begins _).ne_nil (by simp) ?_ ?_ ?_
  · exact fun more => .of_mark (by decide) (by decide)
  · exact fun more _ => by simp [TokenKind.shown]
  · intro budget fuel vs rest out stops _ enough fueled read
    simp only [List.length_cons, Level.rank] at enough fueled
    exact Reads.accesses_method (arguments ihArgs stops.some (by omega) (by omega)) read

theorem call {callee : Expr} {args : List Expr} (wellFormed : callee.WellFormed)
    (wellFormedArgs : ∀ a ∈ args, a.WellFormed) (ih : RoundTrips bare callee)
    (ihArgs : ∀ a ∈ args, RoundTrips bare a) : RoundTrips bare (.call callee args) := by
  refine of_continues .access rfl (.call wellFormed wellFormedArgs) rfl ?_
  rw [Printer.lexemes, shownOf_append]
  have turns {follow : List (TokenKind × String) → Prop} {ts : List (TokenKind × String)}
      (h : Continues follow .access ts callee) (nonempty : ts ≠ [])
      (follows : ∀ more, follow (shownOf (Printer.arguments (Printer.items bare args)) ++ more)) :
      Continues (NoArguments (.call callee args)) .access
        (ts ++ shownOf (Printer.arguments (Printer.items bare args))) (.call callee args) := by
    refine h.turn nonempty ?_ ?_ follows ?_
    · rw [Printer.arguments, Printer.parens, shownOf_between]
      simp
    · exact fun more => .of_mark (k := .openParen) (by decide) (by decide)
    · intro budget fuel vs rest out stops _ enough fueled read
      simp only [Level.rank] at enough
      exact Reads.accesses_call (arguments ihArgs stops.some (by omega) (by omega)) read
  -- a name, or what ends in one, would be read as the name of a function or a method
  split
  · have parens : Continues (fun _ => True) .access
        (shownOf (Printer.parens (Printer.lexemes bare callee))) callee :=
      .of_parsesAt rfl fun more stops _ => ih.parens stops.some
    have begins : Begins (shownOf (Printer.parens (Printer.lexemes bare callee)) ++ []) :=
      .parens _ _
    exact turns parens (by simpa using begins.ne_nil) fun _ => trivial
  · rename_i noName
    exact turns (ih.continuesAt rfl) (ih.begins _).ne_nil fun more name => absurd name noName

theorem binary {op : BinaryOp} {left right : Expr} (wellFormed : left.WellFormed)
    (wellFormedRight : right.WellFormed) (ih : RoundTrips bare left)
    (ihRight : RoundTrips bare right) : RoundTrips bare (.binary op left right) := by
  have shown : shownOf (Printer.lexemes bare (.binary op left right)) =
      tokensAt bare op.level left ++ (op.kind.shown :: tokensAt bare op.level.operand right) := by
    simp [Printer.lexemes, tokensAt, Lexeme.shown, TokenKind.shown]
  have loops : op.level.loops = true := by cases op <;> rfl
  have operand : op.level.operand = op.level.tighter := by cases op <;> rfl
  have loose : op.level.tighter ≠ .primary := by cases op <;> decide
  have tight := Level.rank_tighter (Continues.loose loops)
  have notColon : op.kind ≠ .colon := by cases op <;> decide
  refine of_continues op.level rfl (.binary wellFormed wellFormedRight) loops ?_
  rw [shown, operand]
  -- the operator belongs to its own level, which no operand goes on at
  have behind (more : List (TokenKind × String)) :
      Stops op.level.tighter
        (op.kind.shown :: tokensAt bare op.level.tighter right ++ more) := by
    refine .of_mark notColon fun ℓ goes => ?_
    obtain rfl : op.level = ℓ := by simpa [continuing?_kind] using goes
    omega
  refine (ih.continuesAt loops).turn (ih.begins _).ne_nil (by simp) behind ?_ ?_
  · exact fun more => .of_stops loose (behind more)
  · intro budget fuel vs rest out stops _ enough _ read
    simp only [List.length_cons] at enough
    have loop (n : Nat) (e : Expr) : goOn op.level budget n e =
        Parser.operators op.level (Parser.expr budget op.level.tighter) n e := by
      cases op <;> rfl
    rw [loop] at read ⊢
    exact Reads.operators_binary (ihRight.reads loose stops (by omega)) (ihRight.begins _).ne_nil
      read

theorem instanceOf {operand : Expr} {names : List String} (wellFormed : operand.WellFormed)
    (named : names ≠ []) (h : ∀ n ∈ names, IsName n) (ih : RoundTrips bare operand) :
    RoundTrips bare (.instanceOf operand (".".intercalate names)) := by
  have shown : shownOf (Printer.lexemes bare (.instanceOf operand (".".intercalate names))) =
      tokensAt bare .relation operand ++ (TokenKind.instanceOf.shown ::
        shownOf (Printer.separated .dot (names.map fun n => [.word n]))) := by
    rw [Printer.lexemes, Printer.typeName_intercalate named fun n mem => (h n mem).word]
    simp [tokensAt, Lexeme.shown, TokenKind.shown]
  refine of_continues .relation rfl (.instanceOf wellFormed named h) rfl ?_
  rw [shown]
  have behind (more : List (TokenKind × String)) : Stops Level.relation.tighter
      (TokenKind.instanceOf.shown ::
        shownOf (Printer.separated .dot (names.map fun n => [.word n])) ++ more) :=
    .of_mark (by decide) (by decide)
  have loose : Level.relation.tighter ≠ .primary := by decide
  refine (ih.continuesAt rfl).turn (ih.begins _).ne_nil (by simp) behind ?_ ?_
  · exact fun more => .of_stops loose (behind more)
  · intro budget fuel vs rest out stops _ _ fueled read
    simp only [List.length_cons] at fueled
    have stop : headKind (vs ++ rest) ≠ some .dot := stops.ne (ℓ := .access) rfl (by decide)
    have some (n : String) (_ : n ∈ names) : shownOf [.word n] ≠ [] := by simp [Lexeme.shown]
    have count := count_le_separated (fun n => [.word n]) .dot some
    exact Reads.operators_instanceOf named stops.some stop (by omega) read

end RoundTrips

/-! ### Whole trees and whole texts -/

namespace Expr.WellFormed

/-- Every tree of the grammar is read as what it was printed from, by the level it belongs to and by
all around it. -/
theorem roundTrips (bare : Bool) {e : Expr} (h : e.WellFormed) : RoundTrips bare e := by
  induction h with
  | integer =>
    exact .of_primary .integer rfl fun _ _ stops _ _ => Reads.primary_integer _ stops.some
  | string => exact .of_primary .string rfl fun _ _ stops _ _ => Reads.primary_string _ stops.some
  | boolean =>
    exact .of_primary .boolean rfl fun _ _ stops _ _ => Reads.primary_boolean _ stops.some
  | null => exact .of_primary .null rfl fun _ _ stops _ _ => Reads.primary_null stops.some
  | implicit name =>
    exact .of_primary (.implicit name) rfl fun _ _ stops _ _ =>
      Reads.primary_implicit _ stops.some
  | identifier name => exact .identifier name
  | member wellFormed name ih => exact .member wellFormed name ih
  | index wellFormed wellFormedKey ih ihKey => exact .index wellFormed wellFormedKey ih ihKey
  | method wellFormed name args ih ihArgs => exact .method wellFormed name args ih ihArgs
  | function name args ih => exact .function name args ih
  | qualified hq hname args ih => exact .qualified hq hname args ih
  | call wellFormed args ih ihArgs => exact .call wellFormed args ih ihArgs
  | unary wellFormed ih => exact .unary wellFormed ih
  | binary left right ihl ihr => exact .binary left right ihl ihr
  | conditional condition yes no ihc ihy ihn => exact .conditional condition yes no ihc ihy ihn
  | instanceOf wellFormed named names ih => exact .instanceOf wellFormed named names ih
  | list elements ih => exact .list elements ih
  | set elements ih => exact .set elements ih
  | map nonempty keys values ihk ihv => exact .map nonempty keys values ihk ihv
  | lambda names wellFormed ih => exact .lambda names wellFormed ih
  | assign assignable target value iht ihv => exact .assign assignable target value iht ihv
  | sequence two steps ih => exact .sequence two steps ih

end Expr.WellFormed

theorem TokenStream.ofLexer_of_items {l : Lexer} {t : Token}
    {ahead : List (Except ParseError Token)} (h : l.items = .ok t :: ahead) :
    TokenStream.ofLexer l = .ok ⟨t, ahead⟩ := by
  rw [TokenStream.ofLexer, h]

/-- The end of the text is expected and not passed. -/
theorem expect_endOfText {s : TokenStream} (h : s.Shows [endShown]) :
    Parser.expect .endOfText s = .ok ((), s) := by
  obtain ⟨shown, ahead⟩ := h.cons
  have kind : s.current.kind = .endOfText := congrArg Prod.fst shown
  have last : s.advance = .ok s := by
    have none : s.ahead = [] := by simpa using ahead
    rw [TokenStream.advance, none]
  exact Parser.expect_ok kind last

/-- What is read of a whole text, with the budget that its length gives. -/
theorem Parser.standalone_eq (s : TokenStream) :
    Parser.standalone s = (do
      let e ← Parser.expr (Parser.budgetFor s) .sequence
      Parser.expect .endOfText
      return e : Parser Expr) s :=
  rfl

/-- A whole text is read if its tokens are. -/
theorem standalone_reads {s : TokenStream} {ts : List (TokenKind × String)} {e : Expr}
    (shows : s.Shows (ts ++ [endShown])) (h : ParsesAt .sequence ts e [endShown]) :
    ∃ next, Parser.standalone s = .ok (e, next) := by
  have long : s.ahead.length = ts.length := by
    have all := congrArg List.length shows
    simp only [List.length_cons, List.length_map, List.length_append, List.length_nil] at all
    omega
  have enough : 16 * (ts.length + 1) ≤ Parser.budgetFor s + Level.sequence.rank := by
    rw [Parser.budgetFor, long]
    omega
  obtain ⟨next, read, shown⟩ := h _ enough s shows
  rw [Parser.standalone_eq, Parser.bind_ok read, Parser.bind_ok (expect_endOfText shown)]
  exact ⟨next, rfl⟩

theorem Parser.parseAll_ok {α : Type} {p : Parser α} {l : Lexer} {s s' : TokenStream} {a : α}
    (stream : TokenStream.ofLexer l = .ok s) (ran : p s = .ok (a, s')) : p.parseAll l = .ok a := by
  rw [Parser.parseAll, stream]
  show (p s).map Prod.fst = _
  rw [ran]
  rfl

/-- What is printed for a tree of the grammar is read as that tree. -/
theorem Expr.WellFormed.parse_print (bare : Bool) {e : Expr} (h : e.WellFormed) :
    Expr.parse (e.print bare) = .ok e := by
  have items := Lexer.items_ofExpression (h.legible bare)
  have own : tokensAt bare .sequence e = shownOf (Printer.lexemes bare e) :=
    tokensAt_of_le (Nat.zero_le _)
  have stops : Stops .sequence [endShown] := .of_mark (by decide) (by decide)
  have parses := (h.roundTrips bare).parses stops (.of_stops (by decide) stops)
  rw [own] at parses
  -- the stream of the tokens
  obtain ⟨s, stream, shows⟩ : ∃ s, TokenStream.ofLexer (.ofExpression (e.print bare)) = .ok s ∧
      s.Shows (shownOf (Printer.lexemes bare e) ++ [endShown]) := by
    cases all : shownOf (Printer.lexemes bare e) ++ [endShown] with
    | nil => simp at all
    | cons t ts =>
      rw [all] at items
      obtain ⟨token, rest, same, shown, behind⟩ := TokenStream.eq_cons_of_shown items
      refine ⟨⟨token, rest⟩, TokenStream.ofLexer_of_items same, ?_⟩
      simp [TokenStream.Shows, shownItem, shown, behind]
  obtain ⟨next, read⟩ := standalone_reads shows parses
  exact Parser.parseAll_ok stream read

end ExprLang
