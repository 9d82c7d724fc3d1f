import ExprLang.Proofs.Syntax.ReadsPrinted.Combinators
import ExprLang.Proofs.Syntax.WellFormed

/-!
# What printed expressions begin with

The parser decides by the tokens in front whether it stands at the head of a lambda, at an operator
or at the end of a list. **Key theorem** (`Expr.WellFormed.front`): what is printed for a tree at
least as tight as a conditional is never taken for a lambda, and what is printed for an access or
tighter never for an operator. `lambdaHeader?_parameters` is the other direction: the printed
parameters of a lambda are found in front of its arrow.
-/

namespace ExprLang

/-! ### First tokens -/

/-- The kinds of tokens that an expression begins with. -/
def starters : List TokenKind :=
  [.integer, .string, .boolean true, .boolean false, .null, .identifier, .hash, .openParen,
    .openBracket, .openBrace, .minus, .operator .not .symbol, .empty]

/-- Tokens that begin like an expression; a name is not followed by what follows the name of a
parameter in parentheses. -/
def Begins (ts : List (TokenKind × String)) : Prop :=
  ∃ k x more, ts = (k, x) :: more ∧ k ∈ starters ∧
    (k = .identifier → ∀ next ∈ headKind more, next ≠ .closeParen ∧ next ≠ .comma)

/-- Tokens that are not the head of a lambda unless an arrow follows them. -/
def Headless (ts : List (TokenKind × String)) : Prop :=
  ∀ (s : TokenStream) (rest : List (TokenKind × String)), rest ≠ [] →
    headKind rest ≠ some .arrow → s.Shows (ts ++ rest) → s.lambdaHeader? = .ok none

/-- What an expression of a rank begins with. -/
structure Front (ts : List (TokenKind × String)) (rank : Nat) : Prop where
  begins : Begins ts
  headless : Level.conditional.rank ≤ rank → Headless ts
  firm : Level.access.rank ≤ rank → ∀ k ∈ headKind ts, UnaryOp.ofToken? k = none

/-- A token that may come behind an expression and keeps it from being a parameter. -/
def Follows (k : TokenKind) : Prop :=
  k ≠ .closeParen ∧ k ≠ .comma ∧ k ≠ .arrow

instance (k : TokenKind) : Decidable (Follows k) :=
  inferInstanceAs (Decidable (_ ∧ _))

namespace Begins

variable {ts us : List (TokenKind × String)}

theorem append {k : TokenKind} {x : String} (h : Begins ts) (notClose : k ≠ .closeParen)
    (notComma : k ≠ .comma) : Begins (ts ++ (k, x) :: us) := by
  obtain ⟨k', x', more, rfl, starts, name⟩ := h
  refine ⟨k', x', more ++ (k, x) :: us, rfl, starts, ?_⟩
  intro same next head
  cases more with
  | nil =>
    obtain rfl : k = next := by simpa using head
    exact ⟨notClose, notComma⟩
  | cons t more => exact name same next head

theorem head {k : TokenKind} (h : Begins ts) (notStarter : k ∉ starters) :
    headKind (ts ++ us) ≠ some k := by
  obtain ⟨k', x, more, rfl, starts, -⟩ := h
  intro same
  obtain rfl : k' = k := by simpa using same
  exact notStarter starts

theorem ne_nil (h : Begins ts) : ts ≠ [] := by
  obtain ⟨k, x, more, rfl, -⟩ := h
  exact List.cons_ne_nil _ _

theorem name (x : String) : Begins [(.identifier, x)] :=
  ⟨_, x, [], rfl, by decide, by simp⟩

theorem parens (ls : List Lexeme) (us : List (TokenKind × String)) :
    Begins (shownOf (Printer.parens ls) ++ us) :=
  ⟨.openParen, _, _, rfl, by decide, fun same => absurd same (by decide)⟩

end Begins

/-! ### No head of a lambda -/

namespace TokenStream

/-- An arrow decides whether a parameter list is the head of a lambda. -/
theorem lambdaHeader?_of_parameters {s : TokenStream} {names : List String} {t : Token}
    {items : List (Except ParseError Token)} (kind : s.current.kind = .openParen)
    (found : parameters? s.ahead = .ok (some (names, .ok t :: items))) :
    s.lambdaHeader? = .ok (if t.kind = .arrow then some (names, ⟨t, items⟩) else none) := by
  simp only [lambdaHeader?, kind, found]
  rfl

theorem lambdaHeader?_of_name {s : TokenStream} {t : Token}
    {items : List (Except ParseError Token)} (kind : s.current.kind = .identifier)
    (ahead : s.ahead = .ok t :: items) :
    s.lambdaHeader? =
      .ok (if t.kind = .arrow then some ([s.current.lexeme], ⟨t, items⟩) else none) := by
  simp only [lambdaHeader?, kind, ahead]
  rfl

theorem lambdaHeader?_of_none {s : TokenStream} (kind : s.current.kind = .openParen)
    (found : parameters? s.ahead = .ok none) : s.lambdaHeader? = .ok none := by
  simp only [lambdaHeader?, kind, found]
  rfl

theorem lambdaHeader?_of_other {s : TokenStream} (notName : s.current.kind ≠ .identifier)
    (notParen : s.current.kind ≠ .openParen) : s.lambdaHeader? = .ok none := by
  unfold lambdaHeader?
  split
  · contradiction
  · contradiction
  · rfl

end TokenStream

namespace Headless

variable {ts us : List (TokenKind × String)}

theorem append {k : TokenKind} {x : String} (h : Headless ts) (follows : Follows k) :
    Headless (ts ++ (k, x) :: us) := by
  intro s rest _ _ shows
  rw [List.append_assoc] at shows
  exact h s _ (List.cons_ne_nil _ _) (by simpa using follows.2.2) shows

/-- The first item behind the tokens of a parameter list is no arrow. -/
theorem next {items : List (Except ParseError Token)} {rest : List (TokenKind × String)}
    (more : rest ≠ []) (noArrow : headKind rest ≠ some .arrow)
    (shows : items.map shownItem = rest.map some) :
    ∃ t later, items = .ok t :: later ∧ t.kind ≠ .arrow := by
  cases rest with
  | nil => exact absurd rfl more
  | cons u rest =>
    obtain ⟨t, later, rfl, same, -⟩ := TokenStream.eq_cons_of_shown shows
    refine ⟨t, later, rfl, ?_⟩
    rintro arrow
    exact noArrow (by rw [← same]; simp [Token.shown, arrow])

/-- A name is a head only in front of an arrow. -/
theorem name (x : String) : Headless [(.identifier, x)] := by
  intro s rest more noArrow shows
  obtain ⟨shown, ahead⟩ := shows.cons
  obtain ⟨t, later, items, other⟩ := next more noArrow ahead
  rw [TokenStream.lambdaHeader?_of_name (congrArg Prod.fst shown) items, if_neg other]

/-- Neither a name nor a parenthesis begins a head. -/
theorem other {k : TokenKind} {x : String} (notName : k ≠ .identifier) (notParen : k ≠ .openParen) :
    Headless ((k, x) :: ts) := by
  intro s rest _ _ shows
  have kind : s.current.kind = k := congrArg Prod.fst shows.cons.1
  exact TokenStream.lambdaHeader?_of_other (kind ▸ notName) (kind ▸ notParen)

/-- An expression in parentheses is a parameter list only if it is a name, and then a head only in
front of an arrow. -/
theorem parens {before behind : String} (h : Begins ts) :
    Headless ((.openParen, before) :: ts ++ [(.closeParen, behind)]) := by
  intro s rest more noArrow shows
  obtain ⟨k, x, inner, rfl, starts, name⟩ := h
  obtain ⟨shown, ahead⟩ := shows.cons
  have kind : s.current.kind = .openParen := congrArg Prod.fst shown
  have inside : s.ahead.map shownItem =
      ((k, x) :: (inner ++ (.closeParen, behind) :: rest)).map some := by
    simpa using ahead
  obtain ⟨first, items, front, same, later⟩ := TokenStream.eq_cons_of_shown inside
  have firstKind : first.kind = k := congrArg Prod.fst same
  have notClose : first.kind ≠ .closeParen := by
    rw [firstKind]
    rintro rfl
    revert starts
    decide
  have list : TokenStream.parameters? s.ahead = TokenStream.parameters?.names? s.ahead := by
    rw [front, TokenStream.parameters?, if_neg notClose]
  by_cases isName : k = .identifier
  · cases inner with
    | nil =>
      -- a name alone: a parameter list, with no arrow behind it
      obtain ⟨closing, items', rfl, same', behind'⟩ := TokenStream.eq_cons_of_shown later
      have closeKind : closing.kind = .closeParen := congrArg Prod.fst same'
      obtain ⟨t, items', rfl, notArrow⟩ := next more noArrow behind'
      have found : TokenStream.parameters? s.ahead =
          .ok (some ([first.lexeme], .ok t :: items')) := by
        rw [list, front]
        simp [TokenStream.parameters?.names?, firstKind, isName, closeKind]
      rw [TokenStream.lambdaHeader?_of_parameters kind found, if_neg notArrow]
    | cons u inner =>
      -- a name with something behind it that is no comma and no parenthesis
      obtain ⟨second, items', rfl, same', -⟩ := TokenStream.eq_cons_of_shown later
      have secondKind : second.kind = u.1 := congrArg Prod.fst same'
      obtain ⟨noClose, noComma⟩ := name isName u.1 rfl
      have found : TokenStream.parameters? s.ahead = .ok none := by
        rw [list, front]
        simp [TokenStream.parameters?.names?, firstKind, isName, secondKind, noClose, noComma]
      exact TokenStream.lambdaHeader?_of_none kind found
  · have found : TokenStream.parameters? s.ahead = .ok none := by
      have other : first.kind ≠ .identifier := by rwa [firstKind]
      rw [list, front]
      unfold TokenStream.parameters?.names?
      rw [if_neg other]
    exact TokenStream.lambdaHeader?_of_none kind found

end Headless

/-! ### The head of a lambda -/

namespace TokenStream

/-- The printed names of parameters are found up to the closing parenthesis. -/
theorem names?_separated {first : String} {more : List String}
    {items : List (Except ParseError Token)} {rest : List (TokenKind × String)}
    (shows : items.map shownItem = (shownOf (Printer.separated .comma
        ((first :: more).map fun n => [.word n]) ++ [.mark .closeParen]) ++ rest).map some) :
    ∃ behind, parameters?.names? items = .ok (some (first :: more, behind)) ∧
      behind.map shownItem = rest.map some := by
  induction more generalizing first items with
  | nil =>
    obtain ⟨name, items, rfl, same, shows⟩ := eq_cons_of_shown shows
    obtain ⟨close, items, rfl, same', shows⟩ := eq_cons_of_shown shows
    refine ⟨items, ?_, shows⟩
    obtain ⟨kind, text⟩ := Prod.mk.inj same
    have closeKind : close.kind = .closeParen := congrArg Prod.fst same'
    simp [parameters?.names?, kind, text, closeKind]
  | cons second more ih =>
    rw [List.map_cons, List.map_cons, Printer.separated_cons_cons] at shows
    obtain ⟨name, items, rfl, same, shows⟩ := eq_cons_of_shown shows
    obtain ⟨comma, items, rfl, same', shows⟩ := eq_cons_of_shown shows
    obtain ⟨behind, found, shown⟩ := ih shows
    refine ⟨behind, ?_, shown⟩
    obtain ⟨kind, text⟩ := Prod.mk.inj same
    have commaKind : comma.kind = .comma := congrArg Prod.fst same'
    simp [parameters?.names?, kind, text, commaKind, found, Except.map]

/-- A printed parameter list in parentheses is found. -/
theorem parameters?_separated {params : List String} {items : List (Except ParseError Token)}
    {rest : List (TokenKind × String)}
    (shows : items.map shownItem = (shownOf (Printer.separated .comma
        (params.map fun n => [.word n]) ++ [.mark .closeParen]) ++ rest).map some) :
    ∃ behind, parameters? items = .ok (some (params, behind)) ∧
      behind.map shownItem = rest.map some := by
  cases params with
  | nil =>
    obtain ⟨close, items, rfl, same, shows⟩ := eq_cons_of_shown shows
    have kind : close.kind = .closeParen := congrArg Prod.fst same
    exact ⟨items, by simp [parameters?, kind], shows⟩
  | cons first more =>
    obtain ⟨behind, found, shown⟩ := names?_separated shows
    refine ⟨behind, ?_, shown⟩
    have front : ∃ us, shownOf (Printer.separated .comma
        ((first :: more).map fun n => [.word n]) ++ [.mark .closeParen]) ++ rest =
          (.identifier, first) :: us := by
      cases more <;> exact ⟨_, rfl⟩
    obtain ⟨us, front⟩ := front
    rw [front] at shows
    obtain ⟨name, items, rfl, same, -⟩ := eq_cons_of_shown shows
    have kind : name.kind = .identifier := congrArg Prod.fst same
    rw [parameters?, if_neg (by simp [kind]), found]

/-- The printed parameters of a lambda are found in front of its arrow. -/
theorem lambdaHeader?_parameters {bare : Bool} {params : List String} {s : TokenStream}
    {x : String} {rest : List (TokenKind × String)}
    (shows : s.Shows (shownOf (Printer.parameters bare params) ++ (.arrow, x) :: rest)) :
    ∃ onArrow : TokenStream, s.lambdaHeader? = .ok (some (params, onArrow)) ∧
      onArrow.Shows ((.arrow, x) :: rest) := by
  have inParens (shows : s.Shows (shownOf (Printer.parens (Printer.separated .comma
      (params.map fun n => [.word n]))) ++ (.arrow, x) :: rest)) :
      ∃ onArrow : TokenStream, s.lambdaHeader? = .ok (some (params, onArrow)) ∧
        onArrow.Shows ((.arrow, x) :: rest) := by
    obtain ⟨shown, ahead⟩ := Shows.cons shows
    obtain ⟨behind, found, shows⟩ := parameters?_separated ahead
    obtain ⟨arrow, items, rfl, same, later⟩ := eq_cons_of_shown shows
    have kind : arrow.kind = .arrow := congrArg Prod.fst same
    refine ⟨⟨arrow, items⟩, ?_, shows⟩
    rw [lambdaHeader?_of_parameters (congrArg Prod.fst shown) found, if_pos kind]
  unfold Printer.parameters at shows
  split at shows
  · rename_i name
    cases bare with
    | false => exact inParens shows
    | true =>
      obtain ⟨shown, ahead⟩ := Shows.cons shows
      obtain ⟨arrow, items, behind, same, later⟩ := eq_cons_of_shown ahead
      obtain ⟨nameKind, text⟩ := Prod.mk.inj shown
      have kind : arrow.kind = .arrow := congrArg Prod.fst same
      refine ⟨⟨arrow, items⟩, ?_, ?_⟩
      · rw [lambdaHeader?_of_name nameKind behind, if_pos kind, text]
      · rw [behind] at ahead
        exact ahead
  · exact inParens shows

end TokenStream

/-! ### Printed expressions -/

namespace Front

variable {ts us : List (TokenKind × String)} {rank rank' : Nat}

theorem mono (h : Front ts rank) (le : rank' ≤ rank) : Front ts rank' :=
  ⟨h.begins, fun low => h.headless (Nat.le_trans low le), fun low => h.firm (Nat.le_trans low le)⟩

theorem append {k : TokenKind} {x : String} (h : Front ts rank) (follows : Follows k) :
    Front (ts ++ (k, x) :: us) rank := by
  refine ⟨h.begins.append follows.1 follows.2.1, fun low => (h.headless low).append follows, ?_⟩
  intro low k' head
  obtain ⟨k₀, x₀, more, rfl, -⟩ := h.begins
  exact h.firm low k' head

/-- A token that begins an expression by itself. -/
theorem cons {k : TokenKind} {x : String} (starts : k ∈ starters) (notName : k ≠ .identifier)
    (notParen : k ≠ .openParen) (firm : Level.access.rank ≤ rank → UnaryOp.ofToken? k = none) :
    Front ((k, x) :: ts) rank := by
  refine ⟨⟨k, x, ts, rfl, starts, fun same => absurd same notName⟩,
    fun _ => .other notName notParen, ?_⟩
  intro low k' head
  obtain rfl : k = k' := by simpa using head
  exact firm low

/-- Only levels from conditionals on must not look like something else. -/
theorem loose (h : Begins ts) (low : rank < Level.conditional.rank) : Front ts rank := by
  have access : Level.conditional.rank ≤ Level.access.rank := by decide
  exact ⟨h, fun high => absurd high (by omega), fun high => absurd high (by omega)⟩

theorem name (x : String) : Front [(.identifier, x)] rank := by
  refine ⟨.name x, fun _ => .name x, ?_⟩
  intro low k head
  obtain rfl : .identifier = k := by simpa using head
  rfl

theorem parens {ls : List Lexeme} (h : Begins (shownOf ls)) :
    Front (shownOf (Printer.parens ls)) rank := by
  have shown : shownOf (Printer.parens ls) =
      (.openParen, TokenKind.openParen.image) :: shownOf ls ++
        [(.closeParen, TokenKind.closeParen.image)] := by
    simp [Printer.parens, Lexeme.shown]
  rw [shown]
  refine ⟨⟨_, _, _, rfl, by decide, fun same => absurd same (by decide)⟩, fun _ => .parens h, ?_⟩
  intro low k head
  obtain rfl : .openParen = k := by simpa using head
  rfl

theorem fit {ls : List Lexeme} {slot level : Level} (h : Front (shownOf ls) level.rank) :
    Front (shownOf (Printer.fit slot level ls)) slot.rank := by
  unfold Printer.fit
  split
  · exact parens h.begins
  · exact h.mono (by omega)

end Front

theorem BinaryOp.follows_kind (op : BinaryOp) : Follows op.kind := by
  cases op <;> decide

namespace Expr.WellFormed

/-- What a printed expression begins with. -/
theorem front (bare : Bool) {e : Expr} (h : e.WellFormed) :
    Front (shownOf (Printer.lexemes bare e)) e.level.rank := by
  induction h with
  | integer | string | null | implicit | list | set | map =>
    exact .cons (by decide) (by decide) (by decide) fun _ => rfl
  | @boolean b => cases b <;> exact .cons (by decide) (by decide) (by decide) fun _ => rfl
  | identifier name => exact .name _
  | function name _ args => exact .append (.name _) (by decide)
  | @qualified q =>
    have name : Front [(.identifier, q)] Level.primary.rank := .name q
    exact name.append (by decide)
  | member _ _ object =>
    rw [Printer.lexemes, shownOf_append]
    exact (Front.fit object).append (by decide)
  | index _ wellFormed object =>
    rw [Printer.lexemes, Printer.keyed_of_wellFormed wellFormed, shownOf_append]
    exact (Front.fit object).append (by decide)
  | method _ _ _ object =>
    rw [Printer.lexemes, List.append_assoc, shownOf_append]
    exact (Front.fit object).append (by decide)
  | call _ _ callee =>
    rw [Printer.lexemes, shownOf_append]
    refine Front.append ?_ (by decide)
    split
    · exact .parens callee.begins
    · exact Front.fit callee
  | @unary op =>
    -- an operator in front of an operand is what a tighter level does not begin with
    have loose (low : Level.access.rank ≤ Level.unary.rank) : UnaryOp.ofToken? op.kind = none :=
      absurd low (by decide)
    cases op <;> exact .cons (by decide) (by decide) (by decide) loose
  | @binary op _ _ _ _ left =>
    rw [Printer.lexemes, List.append_assoc, shownOf_append]
    exact (Front.fit left).append op.follows_kind
  | conditional _ _ _ condition =>
    simp only [Printer.lexemes, List.append_assoc, shownOf_append (Printer.fit _ _ _)]
    have looser : Level.conditional.rank ≤ Level.disjunction.rank := by decide
    exact ((Front.fit condition).append (by decide)).mono looser
  | instanceOf _ _ _ operand =>
    rw [Printer.lexemes, List.append_assoc, shownOf_append]
    exact (Front.fit operand).append (by decide)
  | @lambda params body _ _ _ =>
    rw [Printer.lexemes, List.append_assoc, shownOf_append]
    have loose : Level.lambda.rank < Level.conditional.rank := by decide
    refine .loose ?_ loose
    unfold Printer.parameters
    split
    · cases bare
      · exact .parens _ _
      · exact (Begins.name _).append (by decide) (by decide)
    · exact .parens _ _
  | assign _ _ _ target =>
    rw [Printer.lexemes, List.append_assoc, shownOf_append]
    have looser : Level.assignment.rank ≤ Level.lambda.rank := by decide
    exact ((Front.fit target).append (by decide)).mono looser
  | @sequence steps two _ front =>
    cases steps with
    | nil => contradiction
    | cons first rest =>
      cases rest with
      | nil => contradiction
      | cons second rest =>
        have tight : Front _ Level.assignment.rank := Front.fit (front first (by simp))
        rw [Printer.lexemes, Printer.items_eq_map, List.map_cons, List.map_cons,
          Printer.separated_cons_cons, shownOf_append]
        have looser : Level.sequence.rank ≤ Level.assignment.rank := by decide
        exact (tight.append (by decide)).mono looser

end Expr.WellFormed

end ExprLang
