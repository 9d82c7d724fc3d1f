import ExprLang.Proofs.Syntax.Levels

/-!
# What is printed in a slot

An expression `RoundTrips` if its own level reads what is printed for it (`own`), and if a loop of
that level reads it as the front of what the loop reads (`continues`); the first alone would not do
for operators that associate to the left, whose left operand is no operand of the loop but its
state.
Such an expression is read wherever a level is admitted (`RoundTrips.parses`): by passing it on from
its own level, or in parentheses.
-/

namespace ExprLang

variable {bare : Bool}

/-- The tokens of an expression where `slot` is admitted. -/
def tokensAt (bare : Bool) (slot : Level) (e : Expr) : List (TokenKind × String) :=
  shownOf (Printer.fit slot e.level (Printer.lexemes bare e))

/-- Behind a name no arguments may come, which would make it the name of a function. -/
def NoArguments (e : Expr) (rest : List (TokenKind × String)) : Prop :=
  e.endsInName = true → headKind rest ≠ some .openParen

/-- What is printed for an expression is read as the expression. -/
structure RoundTrips (bare : Bool) (e : Expr) : Prop where
  front : Front (shownOf (Printer.lexemes bare e)) e.level.rank
  own : ∀ rest, Stops e.level rest → NoArguments e rest →
    ParsesAt e.level (shownOf (Printer.lexemes bare e)) e rest
  continues : e.level.loops = true →
    Continues (NoArguments e) e.level (shownOf (Printer.lexemes bare e)) e

theorem tokensAt_of_le {slot : Level} {e : Expr} (h : slot.rank ≤ e.level.rank) :
    tokensAt bare slot e = shownOf (Printer.lexemes bare e) := by
  rw [tokensAt, Printer.fit, if_neg (Nat.not_lt.mpr h)]

theorem tokensAt_of_lt {slot : Level} {e : Expr} (h : e.level.rank < slot.rank) :
    tokensAt bare slot e = shownOf (Printer.parens (Printer.lexemes bare e)) := by
  rw [tokensAt, Printer.fit, if_pos h]

/-- Between an expression's level and the next one no slot makes a difference. -/
theorem tokensAt_tighter {ℓ : Level} {e : Expr} (h : e.level ≠ ℓ) (loose : ℓ ≠ .primary) :
    tokensAt bare ℓ.tighter e = tokensAt bare ℓ e := by
  have tight := Level.rank_tighter loose
  have differs : e.level.rank ≠ ℓ.rank := fun same => h (Level.rank_injective same)
  rcases Nat.lt_or_ge e.level.rank ℓ.rank with lower | higher
  · rw [tokensAt_of_lt lower, tokensAt_of_lt (by omega)]
  · rw [tokensAt_of_le higher, tokensAt_of_le (by omega)]

/-- Only a primary expression may have arguments behind it. -/
theorem NoArguments.of_stops {slot : Level} {e : Expr} {rest : List (TokenKind × String)}
    (loose : slot ≠ .primary) (stops : Stops slot rest) : NoArguments e rest := by
  intro _
  refine stops.ne (ℓ := .access) rfl ?_
  cases slot <;> first | contradiction | decide

namespace RoundTrips

variable {e : Expr} {slot ℓ : Level} {rest : List (TokenKind × String)}

theorem begins (h : RoundTrips bare e) (slot : Level) : Begins (tokensAt bare slot e) := by
  have fits : Front (tokensAt bare slot e) slot.rank := Front.fit h.front
  exact fits.begins

/-- In parentheses the expression is read everywhere. -/
theorem parens (h : RoundTrips bare e) (nonempty : rest ≠ []) :
    ParsesAt .primary (shownOf (Printer.parens (Printer.lexemes bare e))) e rest := by
  refine ParsesAt.parens ?_ nonempty
  intro more stops
  have loose : Level.sequence ≠ .primary := by decide
  have own := h.own more (stops.mono (Nat.zero_le _)) (.of_stops loose stops)
  exact own.descend h.front (Nat.zero_le _) stops

/-- The expression is read where any level is admitted. -/
theorem parses (h : RoundTrips bare e) (stops : Stops slot rest) (noArgs : NoArguments e rest) :
    ParsesAt slot (tokensAt bare slot e) e rest := by
  rcases Nat.lt_or_ge e.level.rank slot.rank with lower | higher
  · rw [tokensAt_of_lt lower]
    exact (h.parens stops.some).descend (Front.parens h.front.begins) slot.rank_le stops
  · rw [tokensAt_of_le higher]
    exact (h.own rest (stops.mono higher) noArgs).descend h.front higher stops

theorem reads (h : RoundTrips bare e) (loose : slot ≠ .primary) (stops : Stops slot rest)
    {budget : Nat} (enough : 16 * ((tokensAt bare slot e).length + 1) ≤ budget + slot.rank) :
    Reads (Parser.expr budget slot) (tokensAt bare slot e) e rest :=
  h.parses stops (.of_stops loose stops) budget enough

/-- A loop reads every expression as its front: one of its own level goes on, any other is the first
operand. -/
theorem continuesAt (h : RoundTrips bare e) (loops : ℓ.loops = true) :
    Continues (NoArguments e) ℓ (tokensAt bare ℓ e) e := by
  by_cases same : e.level = ℓ
  · subst same
    rw [tokensAt_of_le (Nat.le_refl _)]
    exact h.continues loops
  · rw [← tokensAt_tighter same (Continues.loose loops)]
    exact .of_parsesAt loops fun more stops noArgs => h.parses stops noArgs

/-- An expression of a level without a loop, read by that level. -/
theorem of_own (ℓ : Level) (level : e.level = ℓ) (wellFormed : e.WellFormed)
    (plain : ℓ.loops = false)
    (own : ∀ rest budget, Stops ℓ rest → NoArguments e rest →
      16 * ((shownOf (Printer.lexemes bare e)).length + 1) ≤ budget + 1 + ℓ.rank →
      Reads (Parser.expr (budget + 1) ℓ) (shownOf (Printer.lexemes bare e)) e rest) :
    RoundTrips bare e := by
  subst level
  have front := wellFormed.front bare
  refine ⟨front, ?_, fun loops => ?_⟩
  · intro rest stops noArgs budget enough
    have long := List.length_pos_iff.mpr front.begins.ne_nil
    have bound : e.level.rank ≤ 13 := e.level.rank_le
    obtain ⟨b, rfl⟩ : ∃ b, budget = b + 1 := ⟨budget - 1, by omega⟩
    exact own rest b stops noArgs enough
  · rw [plain] at loops
    cases loops

/-- An expression that the loop of a level puts together. -/
theorem of_continues (ℓ : Level) (level : e.level = ℓ) (wellFormed : e.WellFormed)
    (loops : ℓ.loops = true)
    (continues : Continues (NoArguments e) ℓ (shownOf (Printer.lexemes bare e)) e) :
    RoundTrips bare e := by
  subst level
  have front := wellFormed.front bare
  refine ⟨front, fun rest stops noArgs => ?_, fun _ => continues⟩
  exact continues.parsesAt loops front.begins.ne_nil stops noArgs

/-! ### Lists -/

theorem length_separated_cons_cons {α : Type} (pieces : α → List Lexeme) (separator : TokenKind)
    (a b : α) (as : List α) :
    (shownOf (Printer.separated separator ((a :: b :: as).map pieces))).length =
      (shownOf (pieces a)).length + 1 +
        (shownOf (Printer.separated separator ((b :: as).map pieces))).length := by
  rw [List.map_cons, List.map_cons, Printer.separated_cons_cons, shownOf_append, shownOf_cons,
    List.length_append, List.length_append, ← Nat.add_assoc]
  rfl

/-- A part is no longer than what it is a part of. -/
theorem length_le_separated {α : Type} (pieces : α → List Lexeme) (separator : TokenKind) {a : α}
    {as : List α} (mem : a ∈ as) :
    (shownOf (pieces a)).length ≤
      (shownOf (Printer.separated separator (as.map pieces))).length := by
  induction as with
  | nil => cases mem
  | cons b bs ih =>
    cases bs with
    | nil =>
      obtain rfl : a = b := by simpa using mem
      simp [Printer.separated]
    | cons c cs =>
      rw [length_separated_cons_cons]
      rcases List.mem_cons.mp mem with rfl | later
      · omega
      · have shorter := ih later
        omega

/-- Every part takes a token at least. -/
theorem count_le_separated {α : Type} (pieces : α → List Lexeme) (separator : TokenKind)
    {as : List α} (nonempty : ∀ a ∈ as, shownOf (pieces a) ≠ []) :
    as.length ≤ (shownOf (Printer.separated separator (as.map pieces))).length := by
  induction as with
  | nil => exact Nat.zero_le _
  | cons a as ih =>
    have first := List.length_pos_iff.mpr (nonempty a (by simp))
    cases as with
    | nil =>
      have one := length_le_separated pieces separator (List.mem_singleton_self a)
      exact Nat.le_trans first one
    | cons b bs =>
      have others := ih fun b mem => nonempty b (by simp [mem])
      rw [length_separated_cons_cons, List.length_cons]
      omega

/-- An argument, an element and the like is read in front of a comma and of a closing mark. -/
theorem item (h : RoundTrips bare e) (close : TokenKind) (notColon : close ≠ .colon)
    (ends : continuing? close = none) {budget : Nat}
    (enough : 16 * ((shownOf (Printer.item bare e)).length + 1) ≤ budget + 1)
    {more : List (TokenKind × String)}
    (follows : headKind more = some .comma ∨ headKind more = some close) :
    Reads (Parser.expr budget .assignment) (shownOf (Printer.item bare e)) e more := by
  refine h.reads (by decide) ?_ enough
  rcases follows with comma | closes
  · exact .of_kind comma (by decide) (by decide)
  · exact .of_kind closes notColon (by simp [ends])

theorem items {es : List Expr} (h : ∀ e ∈ es, RoundTrips bare e) (close : TokenKind)
    (notColon : close ≠ .colon) (ends : continuing? close = none) {budget : Nat}
    (enough : 16 * ((shownOf (Printer.separated .comma (es.map (Printer.item bare)))).length + 1) ≤
      budget + 1) :
    ∀ e ∈ es, Begins (shownOf (Printer.item bare e)) ∧
      ∀ more, headKind more = some .comma ∨ headKind more = some close →
        Reads (Parser.expr budget .assignment) (shownOf (Printer.item bare e)) e more := by
  intro e mem
  have shorter := length_le_separated (Printer.item bare) .comma mem
  exact ⟨(h e mem).begins .assignment,
    fun more follows => (h e mem).item close notColon ends (by omega) follows⟩

/-- Every item takes a token at least. -/
theorem count_le_items {es : List Expr} (h : ∀ e ∈ es, RoundTrips bare e) (separator : TokenKind) :
    es.length ≤
      (shownOf (Printer.separated separator (es.map (Printer.item bare)))).length :=
  count_le_separated _ _ fun e mem => ((h e mem).begins .assignment).ne_nil

theorem arguments {args : List Expr} (h : ∀ a ∈ args, RoundTrips bare a) {budget fuel : Nat}
    (nonempty : rest ≠ [])
    (enough : 16 * (shownOf (Printer.arguments (Printer.items bare args))).length ≤ budget + 1)
    (fueled : (shownOf (Printer.arguments (Printer.items bare args))).length ≤ fuel + 1) :
    Reads (Parser.arguments fuel (Parser.expr budget .assignment))
      (shownOf (Printer.arguments (Printer.items bare args))) args rest := by
  rw [Printer.items_eq_map] at enough fueled ⊢
  have length : (shownOf (Printer.arguments (args.map (Printer.item bare)))).length =
      (shownOf (Printer.separated .comma (args.map (Printer.item bare)))).length + 2 := by
    rw [Printer.arguments, Printer.parens, shownOf_between]
    simp
  have count := count_le_items h .comma
  exact Reads.arguments (items h .closeParen (by decide) rfl (by omega)) nonempty (by omega)

end RoundTrips

end ExprLang
