import ExprLang.Proofs.Syntax.Front

/-!
# What the productions read of printed expressions

One lemma for each production of the grammar: if the parsers of its parts read the printed parts,
then the production reads them together with the marks between them. The parts are arbitrary
parsers here; which of them are which level is the business of the round trip.
-/

namespace ExprLang

/-- What a mark shows. -/
def TokenKind.shown (kind : TokenKind) : TokenKind × String :=
  (kind, kind.image)

theorem shownOf_mark (kind : TokenKind) (ls : List Lexeme) :
    shownOf (.mark kind :: ls) = kind.shown :: shownOf ls :=
  rfl

theorem shownOf_between (opening closing : TokenKind) (ls : List Lexeme) :
    shownOf (.mark opening :: ls ++ [.mark closing]) =
      opening.shown :: shownOf ls ++ [closing.shown] := by
  rw [List.cons_append, shownOf_mark, shownOf_append]
  rfl

namespace Reads

variable {α β : Type} {ts us rest : List (TokenKind × String)}

/-! ### Marks -/

/-- A mark that is expected, before another parser. -/
theorem mark_bind {kind : TokenKind} {f : Unit → Parser α} {a : α} (more : ts ++ rest ≠ [])
    (h : Reads (f ()) ts a rest) : Reads (Parser.expect kind >>= f) (kind.shown :: ts) a rest :=
  bind (expect kind kind.image more) h

/-- A token that is passed, before another parser. -/
theorem advance_bind (t : TokenKind × String) {f : Unit → Parser α} {a : α}
    (more : ts ++ rest ≠ []) (h : Reads (f ()) ts a rest) :
    Reads (Parser.advance >>= f) (t :: ts) a rest :=
  bind (advance t more) h

/-- A name, before another parser. -/
theorem name_bind (name : String) {f : String → Parser α} {a : α} (more : ts ++ rest ≠ [])
    (h : Reads (f name) ts a rest) :
    Reads (Parser.identifier >>= f) ((.identifier, name) :: ts) a rest :=
  bind (identifier name more) h

/-! ### Lists -/

theorem itemsAfter {separator : TokenKind} {item : Parser α}
    {show' : α → List (TokenKind × String)} {as : List α} {budget : Nat}
    (reads : ∀ a ∈ as, show' a ≠ [] ∧ ∀ more, headKind more = some separator ∨ more = rest →
      Reads item (show' a) a more)
    (nonempty : rest ≠ []) (stop : headKind rest ≠ some separator) (enough : as.length < budget) :
    Reads (Parser.itemsAfter separator item budget)
      (as.flatMap fun a => separator.shown :: show' a) as rest := by
  induction as generalizing budget with
  | nil =>
    obtain ⟨b, rfl⟩ : ∃ b, budget = b + 1 := ⟨budget - 1, by simp at enough; omega⟩
    exact at_other nonempty stop (pure [])
  | cons a as ih =>
    obtain ⟨b, rfl⟩ : ∃ b, budget = b + 1 := ⟨budget - 1, by simp at enough; omega⟩
    obtain ⟨something, read⟩ := reads a (by simp)
    have later := ih (fun a mem => reads a (by simp [mem])) (by simpa using enough)
    have follows : headKind ((as.flatMap fun a => separator.shown :: show' a) ++ rest) =
        some separator ∨ (as.flatMap fun a => separator.shown :: show' a) ++ rest = rest := by
      cases as with
      | nil => exact .inr rfl
      | cons b bs => exact .inl rfl
    rw [List.flatMap_cons]
    refine at_self rfl ?_
    refine advance_bind _ (by simp [something]) ?_
    exact bind (read _ follows) (bind_last later (pure _))

/-- Items between commas, up to a closing mark that does not begin an item. -/
theorem itemsUntil {close : TokenKind} {item : Parser Expr} {pieces : Expr → List Lexeme}
    {es : List Expr} {budget : Nat} (notStarter : close ∉ starters) (notComma : close ≠ .comma)
    (reads : ∀ e ∈ es, Begins (shownOf (pieces e)) ∧
      ∀ more, headKind more = some .comma ∨ headKind more = some close →
        Reads item (shownOf (pieces e)) e more)
    (nonempty : rest ≠ []) (enough : es.length < budget) :
    Reads (Parser.itemsUntil close item budget)
      (shownOf (Printer.separated .comma (es.map pieces)) ++ [close.shown]) es rest := by
  induction es generalizing budget with
  | nil =>
    obtain ⟨b, rfl⟩ : ∃ b, budget = b + 1 := ⟨budget - 1, by simp at enough; omega⟩
    refine at_self rfl ?_
    exact advance_bind _ nonempty (pure [])
  | cons e es ih =>
    obtain ⟨b, rfl⟩ : ∃ b, budget = b + 1 := ⟨budget - 1, by simp at enough; omega⟩
    obtain ⟨begins, read⟩ := reads e (by simp)
    have later := ih (fun e mem => reads e (by simp [mem])) (by simpa using enough)
    cases es with
    | nil =>
      have shown : shownOf (Printer.separated .comma ([e].map pieces)) = shownOf (pieces e) := by
        simp [Printer.separated]
      rw [shown]
      refine at_other (by simp) ?_ ?_
      · rw [List.append_assoc]
        exact begins.head notStarter
      · refine bind (read _ (.inr rfl)) ?_
        refine at_self rfl ?_
        exact bind_last later (pure _)
    | cons e' es =>
      rw [List.map_cons, List.map_cons, Printer.separated_cons_cons, shownOf_append,
        List.append_assoc]
      refine at_other (by simp [Lexeme.shown]) ?_ ?_
      · rw [List.append_assoc]
        exact begins.head notStarter
      · refine bind (read _ (.inl rfl)) ?_
        refine at_other (by simp [Lexeme.shown]) (by simp [Lexeme.shown, notComma.symm]) ?_
        refine mark_bind (by simp) ?_
        exact bind_last later (pure _)

theorem arguments {item : Parser Expr} {pieces : Expr → List Lexeme} {args : List Expr}
    {budget : Nat}
    (reads : ∀ e ∈ args, Begins (shownOf (pieces e)) ∧
      ∀ more, headKind more = some .comma ∨ headKind more = some .closeParen →
        Reads item (shownOf (pieces e)) e more)
    (nonempty : rest ≠ []) (enough : args.length < budget) :
    Reads (Parser.arguments budget item) (shownOf (Printer.arguments (args.map pieces))) args
      rest := by
  have list := itemsUntil (by decide) (by decide) reads nonempty enough
  have all : Reads (Parser.arguments budget item) _ args rest := mark_bind (by simp) list
  rw [Printer.arguments, Printer.parens, shownOf_between]
  exact all

/-- Parts with separators in front of all but the first. -/
theorem shownOf_separated (separator : TokenKind) (pieces : α → List Lexeme) (a : α) (as : List α) :
    shownOf (Printer.separated separator ((a :: as).map pieces)) =
      shownOf (pieces a) ++ as.flatMap fun a => separator.shown :: shownOf (pieces a) := by
  induction as generalizing a with
  | nil => simp [Printer.separated]
  | cons b bs ih =>
    rw [List.map_cons, List.map_cons, Printer.separated_cons_cons, shownOf_append, shownOf_cons,
      ← List.map_cons, ih, List.flatMap_cons]
    rfl

/-- The names of a type between dots. -/
theorem typeName {names : List String} {budget : Nat} (named : names ≠ []) (nonempty : rest ≠ [])
    (stop : headKind rest ≠ some .dot) (enough : names.length ≤ budget) :
    Reads (Parser.typeName budget)
      (shownOf (Printer.separated .dot (names.map fun n => [.word n])))
      (".".intercalate names) rest := by
  cases names with
  | nil => exact absurd rfl named
  | cons first others =>
    rw [shownOf_separated]
    have one (n : String) (more : List (TokenKind × String))
        (follows : headKind more = some .dot ∨ more = rest) :
        Reads Parser.identifier (shownOf [.word n]) n more := by
      refine identifier n ?_
      rintro rfl
      rcases follows with none | same
      · cases none
      · exact nonempty same.symm
    have later : Reads (Parser.itemsAfter .dot Parser.identifier budget) _ others rest :=
      itemsAfter (fun n _ => ⟨by simp [Lexeme.shown], one n⟩) nonempty stop enough
    exact name_bind first (by simp [nonempty]) (bind_last later (pure _))

/-! ### Levels without a loop -/

/-- Steps with semicolons between them. -/
theorem sequence {item : Parser Expr} {pieces : Expr → List Lexeme} {first : Expr}
    {others : List Expr} {budget : Nat} (several : others ≠ [])
    (reads : ∀ e ∈ first :: others, shownOf (pieces e) ≠ [] ∧
      ∀ more, headKind more = some .semicolon ∨ more = rest →
        Reads item (shownOf (pieces e)) e more)
    (nonempty : rest ≠ []) (stop : headKind rest ≠ some .semicolon)
    (enough : others.length < budget) :
    Reads (Parser.sequence budget item)
      (shownOf (Printer.separated .semicolon ((first :: others).map pieces)))
      (.sequence (first :: others)) rest := by
  rw [shownOf_separated]
  have later := itemsAfter (fun e mem => reads e (by simp [mem])) nonempty stop enough
  obtain ⟨-, read⟩ := reads first (by simp)
  cases others with
  | nil => exact absurd rfl several
  | cons second others => exact bind (read _ (.inl rfl)) (bind_last later (pure _))

theorem sequence_one {item : Parser Expr} {e : Expr} {budget : Nat} (read : Reads item ts e rest)
    (nonempty : rest ≠ []) (stop : headKind rest ≠ some .semicolon) (enough : 0 < budget) :
    Reads (Parser.sequence budget item) ts e rest := by
  have none : Reads (Parser.itemsAfter .semicolon item budget) [] [] rest :=
    @itemsAfter Expr rest .semicolon item (fun _ => []) [] budget (by simp) nonempty stop enough
  exact bind_last read (bind_nil none (pure _))

theorem assignment {target value : Parser Expr} {left right : Expr}
    (assignable : left.isAssignable = true)
    (readTarget : Reads target ts left (TokenKind.assign.shown :: us ++ rest))
    (readValue : Reads value us right rest) (nonempty : us ≠ []) :
    Reads (Parser.assignment target value) (ts ++ TokenKind.assign.shown :: us)
      (.assign left right) rest := by
  refine bind readTarget ?_
  refine current rfl fun position => ?_
  rw [if_pos rfl, if_pos assignable]
  exact advance_bind _ (by simp [nonempty]) (bind_last readValue (pure _))

theorem assignment_one {target value : Parser Expr} {e : Expr} (read : Reads target ts e rest)
    (nonempty : rest ≠ []) (stop : headKind rest ≠ some .assign) :
    Reads (Parser.assignment target value) ts e rest := by
  refine bind_last read ?_
  cases rest with
  | nil => exact absurd rfl nonempty
  | cons t rest =>
    refine current rfl fun position => ?_
    rw [if_neg (by simpa using stop)]
    exact pure e

theorem lambda {bare : Bool} {params : List String} {body other : Parser Expr} {e : Expr}
    (readBody : Reads body us e rest) (nonempty : us ≠ []) :
    Reads (Parser.lambda body other)
      (shownOf (Printer.parameters bare params) ++ TokenKind.arrow.shown :: us)
      (.lambda params e) rest := by
  intro s shows
  rw [List.append_assoc] at shows
  obtain ⟨onArrow, header, shown⟩ := TokenStream.lambdaHeader?_parameters shows
  have after : Reads (Parser.expect .arrow >>= fun _ => body >>= fun e =>
      Pure.pure (Expr.lambda params e)) (TokenKind.arrow.shown :: us) (.lambda params e) rest :=
    mark_bind (by simp [nonempty]) (bind_last readBody (pure _))
  obtain ⟨next, read, shown⟩ := after onArrow shown
  exact ⟨next, (Parser.bind_ok (Parser.look_ok header)).trans read, shown⟩

theorem lambda_other {body other : Parser Expr} {e : Expr} (headless : Headless ts)
    (read : Reads other ts e rest) (nonempty : rest ≠ []) (stop : headKind rest ≠ some .arrow) :
    Reads (Parser.lambda body other) ts e rest :=
  look none (fun s shows => headless s rest nonempty stop shows) read

theorem conditional {condition branch : Parser Expr} {vs : List (TokenKind × String)}
    {test yes no : Expr}
    (readTest : Reads condition ts test (TokenKind.question.shown :: us ++
      TokenKind.colon.shown :: vs ++ rest))
    (readYes : Reads branch us yes (TokenKind.colon.shown :: vs ++ rest))
    (readNo : Reads branch vs no rest) (someYes : us ≠ []) (someNo : vs ≠ []) :
    Reads (Parser.conditional condition branch)
      (ts ++ (TokenKind.question.shown :: us ++ TokenKind.colon.shown :: vs))
      (.conditional test yes no) rest := by
  refine bind (by simpa using readTest) ?_
  refine at_self rfl ?_
  refine advance_bind _ (by simp [someYes]) ?_
  refine bind (by simpa using readYes) ?_
  exact mark_bind (by simp [someNo]) (bind_last readNo (pure _))

theorem conditional_one {condition branch : Parser Expr} {e : Expr}
    (read : Reads condition ts e rest) (nonempty : rest ≠ [])
    (stop : headKind rest ≠ some .question) :
    Reads (Parser.conditional condition branch) ts e rest :=
  bind_last read (at_other nonempty stop (pure e))

theorem ofToken?_kind (op : UnaryOp) : UnaryOp.ofToken? op.kind = some op := by
  cases op <;> rfl

theorem unary {operand other : Parser Expr} {op : UnaryOp} {e : Expr}
    (read : Reads operand ts e rest) (nonempty : ts ≠ []) :
    Reads (Parser.unary operand other) (op.kind.shown :: ts) (.unary op e) rest := by
  refine current rfl fun position => ?_
  simp only [TokenKind.shown, ofToken?_kind]
  exact advance_bind _ (by simp [nonempty]) (bind_last read (pure _))

theorem unary_other {operand other : Parser Expr} {e : Expr} (read : Reads other ts e rest)
    (nonempty : ts ≠ []) (firm : ∀ k ∈ headKind ts, UnaryOp.ofToken? k = none) :
    Reads (Parser.unary operand other) ts e rest := by
  cases ts with
  | nil => exact absurd rfl nonempty
  | cons t ts =>
    refine current rfl fun position => ?_
    simp only [firm t.1 rfl]
    exact read

/-! ### Levels with a loop -/

theorem operator?_kind (op : BinaryOp) : op.level.operator? op.kind = some op := by
  cases op <;> rfl

theorem operators_binary {operand : Parser Expr} {op : BinaryOp} {left right out : Expr}
    {budget : Nat} (readRight : Reads operand ts right (us ++ rest)) (nonempty : ts ≠ [])
    (readMore : Reads (Parser.operators op.level operand budget (.binary op left right)) us out
      rest) :
    Reads (Parser.operators op.level operand (budget + 1) left) (op.kind.shown :: ts ++ us) out
      rest := by
  have noInstance : ¬(op.level = .relation ∧ op.kind = .instanceOf) := by
    cases op <;> simp [BinaryOp.kind]
  refine current rfl fun position => ?_
  rw [if_neg noInstance]
  simp only [operator?_kind]
  exact advance_bind _ (by simp [nonempty]) (bind readRight readMore)

theorem operators_instanceOf {operand : Parser Expr} {left out : Expr} {names : List String}
    {budget : Nat} (named : names ≠ []) (nonempty : us ++ rest ≠ [])
    (stop : headKind (us ++ rest) ≠ some .dot) (enough : names.length ≤ budget)
    (readMore : Reads (Parser.operators .relation operand budget
      (.instanceOf left (".".intercalate names))) us out rest) :
    Reads (Parser.operators .relation operand (budget + 1) left)
      (TokenKind.instanceOf.shown ::
        shownOf (Printer.separated .dot (names.map fun n => [.word n])) ++ us) out rest := by
  refine current rfl fun position => ?_
  rw [if_pos ⟨rfl, rfl⟩]
  refine advance_bind _ ?_ (bind (typeName named nonempty stop enough) readMore)
  cases us with
  | nil =>
    simp only [List.nil_append] at nonempty
    simp [nonempty]
  | cons u us => simp

theorem operators_stop {level : Level} {operand : Parser Expr} {e : Expr} {budget : Nat}
    (nonempty : rest ≠ [])
    (stop : ∀ k ∈ headKind rest, ¬(level = .relation ∧ k = .instanceOf) ∧
      level.operator? k = none) :
    Reads (Parser.operators level operand (budget + 1) e) [] e rest := by
  cases rest with
  | nil => exact absurd rfl nonempty
  | cons t rest =>
    obtain ⟨noInstance, none⟩ := stop t.1 rfl
    refine current rfl fun position => ?_
    rw [if_neg noInstance]
    simp only [none]
    exact pure e

section Accesses

variable {whole item : Parser Expr} {object out : Expr} {budget : Nat}

theorem accesses_member {name : String} (nonempty : us ++ rest ≠ [])
    (stop : headKind (us ++ rest) ≠ some .openParen)
    (readMore : Reads (Parser.accesses whole item budget (.access object (.key name))) us out
      rest) :
    Reads (Parser.accesses whole item (budget + 1) object)
      (TokenKind.dot.shown :: (.identifier, name) :: us) out rest := by
  refine current rfl fun position => ?_
  refine advance_bind _ (by simp) (name_bind name nonempty ?_)
  exact at_other nonempty stop readMore

theorem accesses_index {key : Expr}
    (readKey : Reads whole ts key (TokenKind.closeBracket.shown :: us ++ rest))
    (nonempty : us ++ rest ≠ [])
    (readMore : Reads (Parser.accesses whole item budget (.access object key)) us out rest) :
    Reads (Parser.accesses whole item (budget + 1) object)
      (TokenKind.openBracket.shown :: ts ++ TokenKind.closeBracket.shown :: us) out rest := by
  refine current rfl fun position => ?_
  refine advance_bind _ (by simp) ?_
  exact bind readKey (mark_bind nonempty readMore)

theorem accesses_method {name : String} {args : List Expr}
    (readArgs : Reads (Parser.arguments budget item) (TokenKind.openParen.shown :: ts) args
      (us ++ rest))
    (readMore : Reads (Parser.accesses whole item budget (.method object name args)) us out rest) :
    Reads (Parser.accesses whole item (budget + 1) object)
      (TokenKind.dot.shown :: (.identifier, name) :: TokenKind.openParen.shown :: ts ++ us) out
      rest := by
  refine current rfl fun position => ?_
  refine advance_bind _ (by simp) (name_bind name (by simp) ?_)
  exact at_self rfl (bind readArgs readMore)

theorem accesses_call {args : List Expr}
    (readArgs : Reads (Parser.arguments budget item) (TokenKind.openParen.shown :: ts) args
      (us ++ rest))
    (readMore : Reads (Parser.accesses whole item budget (.call object args)) us out rest) :
    Reads (Parser.accesses whole item (budget + 1) object)
      (TokenKind.openParen.shown :: ts ++ us) out rest := by
  refine current rfl fun position => ?_
  exact bind readArgs readMore

theorem accesses_stop (nonempty : rest ≠ [])
    (stop : ∀ k ∈ headKind rest, k ≠ .dot ∧ k ≠ .openBracket ∧ k ≠ .openParen) :
    Reads (Parser.accesses whole item (budget + 1) object) [] object rest := by
  cases rest with
  | nil => exact absurd rfl nonempty
  | cons t rest =>
    obtain ⟨noDot, noBracket, noParen⟩ := stop t.1 rfl
    refine current rfl fun position => ?_
    simp only
    exact pure object

end Accesses

/-! ### Primary expressions -/

section Primary

variable {whole item : Parser Expr} {budget : Nat} {position : Position}

theorem primary_integer (n : Nat) (nonempty : rest ≠ []) :
    Reads (Parser.primary budget whole item) (Lexeme.integer n).shown (.integer n) rest := by
  refine current rfl fun position => ?_
  simp only [String.toList_ofList, Number.valueOf_digits]
  exact advance_bind _ (by simp [nonempty]) (pure _)

theorem primary_string (s : String) (nonempty : rest ≠ []) :
    Reads (Parser.primary budget whole item) (Lexeme.string s).shown (.string s) rest := by
  refine current rfl fun position => ?_
  exact advance_bind _ (by simp [nonempty]) (pure _)

theorem primary_boolean (b : Bool) (nonempty : rest ≠ []) :
    Reads (Parser.primary budget whole item) [(TokenKind.boolean b).shown] (.boolean b) rest := by
  refine current rfl fun position => ?_
  exact advance_bind _ (by simp [nonempty]) (pure _)

theorem primary_null (nonempty : rest ≠ []) :
    Reads (Parser.primary budget whole item) [TokenKind.null.shown] .null rest := by
  refine current rfl fun position => ?_
  exact advance_bind _ (by simp [nonempty]) (pure _)

theorem primary_implicit (name : String) (nonempty : rest ≠ []) :
    Reads (Parser.primary budget whole item) [TokenKind.hash.shown, (.identifier, name)]
      (.implicit name) rest := by
  refine current rfl fun position => ?_
  exact advance_bind _ (by simp) (name_bind name (by simp [nonempty]) (pure _))

theorem primary_parens {e : Expr} (read : Reads whole ts e (TokenKind.closeParen.shown :: rest))
    (nonempty : rest ≠ []) :
    Reads (Parser.primary budget whole item)
      (TokenKind.openParen.shown :: ts ++ [TokenKind.closeParen.shown]) e rest := by
  refine current rfl fun position => ?_
  refine advance_bind _ (by simp) (bind read ?_)
  exact mark_bind nonempty (pure e)

theorem primary_list {es : List Expr}
    (read : Reads (Parser.itemsUntil .closeBracket item budget) ts es rest) (nonempty : ts ≠ []) :
    Reads (Parser.primary budget whole item) (TokenKind.openBracket.shown :: ts) (.list es)
      rest := by
  refine current rfl fun position => ?_
  exact advance_bind _ (by simp [nonempty]) (bind_last read (pure _))

/-- A colon and the name of a function, which make the name before them a qualifier. -/
def Suffix (ts : List (TokenKind × String)) : Prop :=
  headKind ts = some .colon ∧ headKind ts.tail = some .functionSuffix

theorem looks_suffix {s : TokenStream} {t : TokenKind × String} (h : s.Shows (t :: ts))
    (suffix : Suffix ts) : s.suffixAhead? = .ok true := by
  obtain ⟨colon, name⟩ := suffix
  cases ts with
  | nil => cases colon
  | cons u us =>
    cases us with
    | nil => cases name
    | cons v vs =>
      have first : s.peekKind 0 = .ok .colon := by
        rw [h.peek (u := u) rfl]
        simpa using colon
      have second : s.peekKind 1 = .ok .functionSuffix := by
        rw [h.peek (u := v) rfl]
        simpa using name
      rw [TokenStream.suffixAhead?, first, second]
      rfl

theorem looks_no_suffix {s : TokenStream} {t : TokenKind × String} (h : s.Shows (t :: ts))
    (nonempty : ts ≠ []) (noSuffix : ¬Suffix ts) : s.suffixAhead? = .ok false := by
  cases ts with
  | nil => exact absurd rfl nonempty
  | cons u us =>
    have first : s.peekKind 0 = .ok u.1 := h.peek rfl
    by_cases colon : u.1 = .colon
    · have second : ∃ k, s.peekKind 1 = .ok k ∧ k ≠ .functionSuffix := by
        cases us with
        | nil =>
          -- a look beyond the end shows the colon again
          refine ⟨u.1, h.peek_last rfl rfl, ?_⟩
          rw [colon]
          decide
        | cons v vs =>
          refine ⟨v.1, h.peek rfl, fun name => noSuffix ⟨?_, ?_⟩⟩
          · simpa using colon
          · simpa using name
      obtain ⟨k, second, other⟩ := second
      rw [TokenStream.suffixAhead?, first, second]
      show (if u.1 == .colon then Except.ok (k == .functionSuffix) else .ok false) = _
      rw [if_pos (by simpa using colon), beq_eq_false_iff_ne.mpr other]
    · rw [TokenStream.suffixAhead?, first]
      show (if u.1 == .colon then s.peekKind 1 >>= fun k => Except.ok (k == .functionSuffix)
        else .ok false) = _
      rw [if_neg (by simpa using colon)]

theorem primary_identifier (name : String) (nonempty : rest ≠ []) (noSuffix : ¬Suffix rest)
    (stop : headKind rest ≠ some .openParen) :
    Reads (Parser.primary budget whole item) [(.identifier, name)] (.identifier name) rest := by
  refine current rfl fun position => ?_
  refine look false (fun s shows => looks_no_suffix shows nonempty noSuffix) ?_
  refine name_bind name nonempty ?_
  exact at_other nonempty stop (pure _)

theorem primary_function {name : String} {args : List Expr}
    (readArgs : Reads (Parser.arguments budget item) (TokenKind.openParen.shown :: ts) args rest) :
    Reads (Parser.primary budget whole item)
      ((.identifier, name) :: TokenKind.openParen.shown :: ts) (.function none name args) rest := by
  refine current rfl fun position => ?_
  have noSuffix : ¬Suffix (TokenKind.openParen.shown :: ts ++ rest) := by
    simp [Suffix, TokenKind.shown]
  refine look false (fun s shows => looks_no_suffix shows (by simp) noSuffix) ?_
  refine name_bind name (by simp) ?_
  exact at_self rfl (bind_last readArgs (pure _))

theorem primary_qualified {qualifier name : String} {args : List Expr}
    (readArgs : Reads (Parser.arguments budget item) (TokenKind.openParen.shown :: ts) args rest) :
    Reads (Parser.primary budget whole item)
      ((Lexeme.qualified qualifier name).shown ++ TokenKind.openParen.shown :: ts)
      (.function (some qualifier) name args) rest := by
  refine current rfl fun position => ?_
  refine look true (fun s shows => looks_suffix shows ⟨rfl, rfl⟩) ?_
  refine name_bind qualifier (by simp) ?_
  refine advance_bind _ (by simp) (current rfl fun position => ?_)
  exact advance_bind _ (by simp) (bind_last readArgs (pure _))

theorem primary_braces {e : Expr} (read : Reads (Parser.braces budget item) ts e rest)
    (nonempty : ts ≠ []) :
    Reads (Parser.primary budget whole item) (TokenKind.openBrace.shown :: ts) e rest := by
  refine current rfl fun position => ?_
  exact advance_bind _ (by simp [nonempty]) read

end Primary

/-- Parts behind commas, up to a closing brace. -/
theorem itemsAfter_braces (rest : List (TokenKind × String)) {item : Parser α}
    {show' : α → List (TokenKind × String)} {as : List α} {budget : Nat}
    (reads : ∀ a ∈ as, show' a ≠ [] ∧
      ∀ more, headKind more = some .comma ∨ headKind more = some .closeBrace →
        Reads item (show' a) a more)
    (enough : as.length < budget) :
    Reads (Parser.itemsAfter .comma item budget)
      (as.flatMap fun a => TokenKind.comma.shown :: show' a) as
      (TokenKind.closeBrace.shown :: rest) := by
  refine itemsAfter ?_ (by simp) (by simp [TokenKind.shown]) enough
  intro a mem
  obtain ⟨nonempty, read⟩ := reads a mem
  refine ⟨nonempty, fun more follows => read more ?_⟩
  rcases follows with comma | rfl
  · exact .inl comma
  · exact .inr rfl

/-- What follows the first part between braces. -/
theorem headKind_braces (rest : List (TokenKind × String))
    (show' : α → List (TokenKind × String)) (as : List α) :
    headKind ((as.flatMap fun a => TokenKind.comma.shown :: show' a) ++
        TokenKind.closeBrace.shown :: rest) = some .comma ∨
      headKind ((as.flatMap fun a => TokenKind.comma.shown :: show' a) ++
        TokenKind.closeBrace.shown :: rest) = some .closeBrace := by
  cases as with
  | nil => exact .inr rfl
  | cons a as => exact .inl rfl

theorem braces_set {item : Parser Expr} {budget : Nat} {pieces : Expr → List Lexeme}
    {es : List Expr}
    (reads : ∀ e ∈ es, Begins (shownOf (pieces e)) ∧
      ∀ more, headKind more = some .comma ∨ headKind more = some .closeBrace →
        Reads item (shownOf (pieces e)) e more)
    (nonempty : rest ≠ []) (enough : es.length < budget) :
    Reads (Parser.braces budget item)
      (shownOf (Printer.separated .comma (es.map pieces)) ++ [TokenKind.closeBrace.shown])
      (.set es) rest := by
  cases es with
  | nil => exact at_self rfl (advance_bind _ nonempty (pure _))
  | cons first others =>
    obtain ⟨begins, read⟩ := reads first (by simp)
    have later := itemsAfter_braces rest (fun e mem =>
      ⟨(reads e (by simp [mem])).1.ne_nil, (reads e (by simp [mem])).2⟩)
      (Nat.lt_of_succ_lt enough)
    have follows := headKind_braces rest (fun e => shownOf (pieces e)) others
    rw [shownOf_separated, List.append_assoc]
    refine at_other (by simp [begins.ne_nil]) ?_ ?_
    · rw [List.append_assoc]
      exact begins.head (by decide)
    · refine bind (read _ (by simpa using follows)) (at_other (by simp) ?_ ?_)
      · intro colon
        simp only [List.append_assoc, List.singleton_append] at colon
        rcases follows with comma | close
        · rw [comma] at colon
          cases colon
        · rw [close] at colon
          cases colon
      · exact bind (by simpa using later) (mark_bind nonempty (pure _))

/-- The key and the value of an entry with a colon between them. -/
theorem entry {item : Parser Expr} {key value : Expr}
    (readKey : Reads item ts key (TokenKind.colon.shown :: us ++ rest))
    (readValue : Reads item us value rest) (nonempty : us ≠ []) :
    Reads (item >>= fun k => Parser.expect .colon >>= fun _ => item >>= fun v =>
      Pure.pure (k, v)) (ts ++ TokenKind.colon.shown :: us) (key, value) rest :=
  bind readKey (mark_bind (by simp [nonempty]) (bind_last readValue (pure _)))

theorem braces_map {item : Parser Expr} {budget : Nat} {pieces : Expr → List Lexeme}
    {first : Expr × Expr} {others : List (Expr × Expr)}
    (keys : ∀ e ∈ first :: others, Begins (shownOf (pieces e.1)) ∧
      ∀ more, headKind more = some .colon → ¬Suffix more →
        Reads item (shownOf (pieces e.1)) e.1 more)
    (values : ∀ e ∈ first :: others, Begins (shownOf (pieces e.2)) ∧
      ∀ more, headKind more = some .comma ∨ headKind more = some .closeBrace →
        Reads item (shownOf (pieces e.2)) e.2 more)
    (nonempty : rest ≠ []) (enough : others.length < budget) :
    Reads (Parser.braces budget item)
      (shownOf (Printer.separated .comma ((first :: others).map fun e =>
        pieces e.1 ++ [.mark .colon] ++ pieces e.2)) ++ [TokenKind.closeBrace.shown])
      (.map (first :: others)) rest := by
  have shown (e : Expr × Expr) : shownOf (pieces e.1 ++ [.mark .colon] ++ pieces e.2) =
      shownOf (pieces e.1) ++ TokenKind.colon.shown :: shownOf (pieces e.2) := by
    simp [Lexeme.shown, TokenKind.shown]
  -- a colon with a value behind it is no suffix of a function name
  have readKey (e : Expr × Expr) (mem : e ∈ first :: others) (us : List (TokenKind × String)) :
      Reads item (shownOf (pieces e.1)) e.1
        (TokenKind.colon.shown :: shownOf (pieces e.2) ++ us) := by
    refine (keys e mem).2 _ rfl ?_
    rintro ⟨-, suffix⟩
    exact (values e mem).1.head (by decide) suffix
  have readEntry (e : Expr × Expr) (mem : e ∈ first :: others) (more : List (TokenKind × String))
      (follows : headKind more = some .comma ∨ headKind more = some .closeBrace) :=
    entry (readKey e mem more) ((values e mem).2 more follows) (values e mem).1.ne_nil
  have later := itemsAfter_braces rest (fun e mem =>
    ⟨by simp [TokenKind.shown], readEntry e (by simp [mem])⟩) enough
  have follows := headKind_braces rest (fun e : Expr × Expr =>
    shownOf (pieces e.1) ++ TokenKind.colon.shown :: shownOf (pieces e.2)) others
  have begins := (keys first (by simp)).1
  rw [shownOf_separated]
  simp only [shown]
  simp only [List.append_assoc, List.cons_append]
  refine at_other (by simp) ?_ ?_
  · rw [List.append_assoc]
    exact begins.head (by decide)
  · refine bind (by simpa using readKey first (by simp) _) (at_self rfl ?_)
    refine mark_bind (by simp) ?_
    refine bind (by simpa using (values first (by simp)).2 _ (by simpa using follows)) ?_
    exact bind (by simpa using later) (mark_bind nonempty (pure _))

end Reads

end ExprLang
