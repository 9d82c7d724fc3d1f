import ExprLang.Proofs.Syntax.ReadsPrinted.Productions

/-!
# The levels of the grammar

How an expression that one level reads is read by the levels around it: a looser level passes it on
where nothing behind it belongs to that level (`Stops`), and the loop of a level goes on behind it.
All of this holds for arbitrary tokens; `ParsesAt` says how large a budget is enough.
-/

namespace ExprLang

namespace Level

/-- The next tighter level. -/
def tighter : Level → Level
  | sequence => assignment
  | assignment => lambda
  | lambda => conditional
  | conditional => disjunction
  | disjunction => conjunction
  | conjunction => equality
  | equality => relation
  | relation => concatenation
  | concatenation => sum
  | sum => product
  | product => unary
  | unary => access
  | access => primary
  | primary => primary

theorem rank_tighter {ℓ : Level} (h : ℓ ≠ .primary) : ℓ.tighter.rank = ℓ.rank + 1 := by
  cases ℓ <;> first | contradiction | rfl

theorem rank_le (ℓ : Level) : ℓ.rank ≤ Level.primary.rank := by
  cases ℓ <;> decide

theorem rank_injective {ℓ m : Level} (h : ℓ.rank = m.rank) : ℓ = m := by
  cases ℓ <;> cases m <;> first | rfl | contradiction

/-- The levels that read one operand and then go on in a loop. -/
def loops : Level → Bool
  | sequence | assignment | lambda | conditional | unary | primary => false
  | _ => true

end Level

/-- The level whose parser goes on at a token behind an expression. -/
def continuing? : TokenKind → Option Level
  | .semicolon => some .sequence
  | .assign => some .assignment
  | .arrow => some .lambda
  | .question => some .conditional
  | .operator .or _ => some .disjunction
  | .operator .and _ => some .conjunction
  | .operator .eq _ | .operator .ne _ => some .equality
  | .operator .lt _ | .operator .gt _ | .operator .le _ | .operator .ge _ | .instanceOf =>
    some .relation
  | .concat => some .concatenation
  | .plus | .minus => some .sum
  | .star | .operator .div _ | .operator .mod _ => some .product
  | .dot | .openBracket | .openParen => some .access
  | _ => none

theorem continuing?_of_operator? {ℓ : Level} {k : TokenKind} {op : BinaryOp}
    (h : ℓ.operator? k = some op) : continuing? k = some ℓ := by
  unfold Level.operator? at h
  split at h <;> first | rfl | cases h

theorem continuing?_kind (op : BinaryOp) : continuing? op.kind = some op.level :=
  continuing?_of_operator? (Reads.operator?_kind op)

/-- Tokens behind an expression at which no level from `slot` on goes on. -/
structure Stops (slot : Level) (rest : List (TokenKind × String)) : Prop where
  some : rest ≠ []
  noSuffix : ¬Reads.Suffix rest
  looser : ∀ k ∈ headKind rest, ∀ ℓ ∈ continuing? k, ℓ.rank < slot.rank

namespace Stops

variable {slot ℓ : Level} {rest : List (TokenKind × String)}

theorem mono (h : Stops slot rest) (le : slot.rank ≤ ℓ.rank) : Stops ℓ rest :=
  ⟨h.some, h.noSuffix, fun k head m goes => Nat.lt_of_lt_of_le (h.looser k head m goes) le⟩

/-- No token that the level or a tighter one goes on at comes first. -/
theorem ne {k : TokenKind} (h : Stops slot rest) (goes : continuing? k = Option.some ℓ)
    (le : slot.rank ≤ ℓ.rank) : headKind rest ≠ Option.some k := by
  intro head
  exact absurd (h.looser k head ℓ goes) (by omega)

theorem of_head {k : TokenKind} (head : headKind rest = Option.some k)
    (noSuffix : ¬Reads.Suffix rest) (looser : ∀ ℓ ∈ continuing? k, ℓ.rank < slot.rank) :
    Stops slot rest := by
  refine ⟨?_, noSuffix, ?_⟩
  · rintro rfl
    cases head
  · intro k' head'
    obtain rfl : k = k' := by simpa [head] using head'
    exact looser

/-- A token other than a colon. -/
theorem of_kind {k : TokenKind} (head : headKind rest = Option.some k) (notColon : k ≠ .colon)
    (looser : ∀ ℓ ∈ continuing? k, ℓ.rank < slot.rank) : Stops slot rest := by
  refine of_head head ?_ looser
  rintro ⟨colon, -⟩
  rw [head] at colon
  exact notColon (Option.some.inj colon)

theorem of_mark {k : TokenKind} {rest : List (TokenKind × String)} {x : String}
    (notColon : k ≠ .colon) (looser : ∀ ℓ ∈ continuing? k, ℓ.rank < slot.rank) :
    Stops slot ((k, x) :: rest) :=
  of_kind rfl notColon looser

/-- A colon in front of an expression. -/
theorem of_colon {x : String} {ts : List (TokenKind × String)} (begins : Begins ts) :
    Stops slot ((.colon, x) :: ts ++ rest) := by
  refine of_head (k := .colon) rfl ?_ ?_
  · rintro ⟨-, suffix⟩
    exact begins.head (by decide) suffix
  · rintro ℓ ⟨⟩

end Stops

/-! ### Reading at a level -/

/-- The parser of a level reads the tokens as `e` in front of `rest`, with any budget in proportion
to the number of tokens. -/
def ParsesAt (slot : Level) (ts : List (TokenKind × String)) (e : Expr)
    (rest : List (TokenKind × String)) : Prop :=
  ∀ budget, 16 * (ts.length + 1) ≤ budget + slot.rank →
    Reads (Parser.expr budget slot) ts e rest

/-- The parser that goes on behind the first operand of a level. -/
def goOn (ℓ : Level) (budget fuel : Nat) (e : Expr) : Parser Expr :=
  match ℓ with
  | .access =>
    Parser.accesses (Parser.expr budget .sequence) (Parser.expr budget .assignment) fuel e
  | _ => Parser.operators ℓ (Parser.expr budget ℓ.tighter) fuel e

theorem expr_loops {ℓ : Level} (h : ℓ.loops = true) (budget : Nat) :
    Parser.expr (budget + 1) ℓ =
      Parser.expr budget ℓ.tighter >>= fun e => goOn ℓ budget budget e := by
  cases ℓ <;> first | contradiction | rfl

/-- A loop ends where its level does not go on. -/
theorem goOn_stops {ℓ : Level} (h : ℓ.loops = true) {budget fuel : Nat} {e : Expr}
    {rest : List (TokenKind × String)} (stops : Stops ℓ rest) :
    Reads (goOn ℓ budget (fuel + 1) e) [] e rest := by
  have operators : Reads (Parser.operators ℓ (Parser.expr budget ℓ.tighter) (fuel + 1) e) [] e
      rest := by
    refine Reads.operators_stop stops.some ?_
    intro k head
    constructor
    · rintro ⟨rfl, rfl⟩
      exact stops.ne (k := .instanceOf) rfl (Nat.le_refl _) head
    · cases found : ℓ.operator? k with
      | none => rfl
      | some op => exact absurd head (stops.ne (continuing?_of_operator? found) (Nat.le_refl _))
  cases ℓ with
  | access =>
    refine Reads.accesses_stop stops.some ?_
    intro k head
    refine ⟨?_, ?_, ?_⟩ <;> rintro rfl <;>
      exact stops.ne (ℓ := .access) rfl (Nat.le_refl _) head
  | _ => first | contradiction | exact operators

namespace ParsesAt

variable {slot ℓ : Level} {ts us rest : List (TokenKind × String)} {e : Expr}

/-- A level passes on what the next tighter level reads. -/
theorem step (h : ParsesAt slot.tighter ts e rest) (front : Front ts slot.tighter.rank)
    (loose : slot ≠ .primary) (stops : Stops slot rest) : ParsesAt slot ts e rest := by
  intro budget enough
  have long := List.length_pos_iff.mpr front.begins.ne_nil
  have tight := Level.rank_tighter loose
  have bound : slot.tighter.rank ≤ 13 := slot.tighter.rank_le
  -- one for this level, and one for the loop that finds nothing to go on with
  obtain ⟨b, rfl⟩ : ∃ b, budget = b + 2 := ⟨budget - 2, by omega⟩
  have read : Reads (Parser.expr (b + 1) slot.tighter) ts e rest := h _ (by omega)
  have stop {k : TokenKind} (goes : continuing? k = some slot) : headKind rest ≠ some k :=
    stops.ne goes (Nat.le_refl _)
  cases slot with
  | sequence => exact Reads.sequence_one read stops.some (stop rfl) (by omega)
  | assignment => exact Reads.assignment_one read stops.some (stop rfl)
  | lambda => exact Reads.lambda_other (front.headless (by decide)) read stops.some (stop rfl)
  | conditional => exact Reads.conditional_one read stops.some (stop rfl)
  | unary => exact Reads.unary_other read front.begins.ne_nil (front.firm (by decide))
  | primary => exact absurd rfl loose
  | _ => exact Reads.bind_last read (goOn_stops rfl stops)

/-- A level passes on what a tighter level reads. -/
theorem descend (h : ParsesAt ℓ ts e rest) (front : Front ts ℓ.rank) (le : slot.rank ≤ ℓ.rank)
    (stops : Stops slot rest) : ParsesAt slot ts e rest := by
  -- by the number of levels in between
  obtain ⟨n, levels⟩ : ∃ n, ℓ.rank = slot.rank + n := ⟨ℓ.rank - slot.rank, by omega⟩
  induction n generalizing slot with
  | zero =>
    obtain rfl : ℓ = slot := Level.rank_injective levels
    exact h
  | succ n ih =>
    have loose : slot ≠ .primary := by
      rintro rfl
      have := ℓ.rank_le
      omega
    have tight := Level.rank_tighter loose
    have inner : ParsesAt slot.tighter ts e rest :=
      ih (by omega) (stops.mono (by omega)) (by omega)
    exact inner.step (front.mono (by omega)) loose stops

/-- What any level reads is read in parentheses as a primary expression. -/
theorem parens {ls : List Lexeme}
    (h : ∀ more, Stops .sequence more → ParsesAt .sequence (shownOf ls) e more)
    (nonempty : rest ≠ []) : ParsesAt .primary (shownOf (Printer.parens ls)) e rest := by
  intro budget enough
  rw [Printer.parens, shownOf_between] at enough ⊢
  simp only [List.length_append, List.length_cons, List.length_nil, Level.rank] at enough
  obtain ⟨b, rfl⟩ : ∃ b, budget = b + 1 := ⟨budget - 1, by omega⟩
  have inside := h (TokenKind.closeParen.shown :: rest) (.of_mark (by decide) (by decide))
  exact Reads.primary_parens (inside b (by simp only [Level.rank]; omega)) nonempty

end ParsesAt

/-! ### Reading in front of a loop -/

/-- The level reads the tokens `ts` and whatever its loop reads behind `e`, where the tokens behind
`ts` satisfy `follow`. The loop is given `fuel` at least; every token costs it one at most. -/
def Continues (follow : List (TokenKind × String) → Prop) (ℓ : Level)
    (ts : List (TokenKind × String)) (e : Expr) : Prop :=
  ∀ (budget fuel : Nat) (us rest : List (TokenKind × String)) (out : Expr),
    Stops ℓ.tighter (us ++ rest) → follow (us ++ rest) →
    16 * (ts.length + 1) ≤ budget + 1 + ℓ.rank → fuel + ts.length ≤ budget →
    (∀ k, fuel ≤ k → Reads (goOn ℓ budget k e) us out rest) →
    Reads (Parser.expr (budget + 1) ℓ) (ts ++ us) out rest

namespace Continues

variable {follow : List (TokenKind × String) → Prop} {ℓ : Level}
  {ts us rest : List (TokenKind × String)} {e before : Expr}

theorem loose (loops : ℓ.loops = true) : ℓ ≠ .primary := by
  rintro rfl
  cases loops

/-- What the operands of a loop read comes in front of what the loop then reads. -/
theorem of_parsesAt (loops : ℓ.loops = true)
    (h : ∀ more, Stops ℓ.tighter more → follow more → ParsesAt ℓ.tighter ts e more) :
    Continues follow ℓ ts e := by
  intro budget fuel us rest out stops follows enough fueled read
  have tight := Level.rank_tighter (loose loops)
  rw [expr_loops loops]
  exact Reads.bind (h _ stops follows budget (by omega)) (read budget (by omega))

/-- One turn of the loop: from `before` and the tokens `us` it gets to `e`. -/
theorem turn {follow' : List (TokenKind × String) → Prop} (h : Continues follow ℓ ts before)
    (someFront : ts ≠ []) (someTurn : us ≠ [])
    (stops : ∀ more, Stops ℓ.tighter (us ++ more)) (follows : ∀ more, follow (us ++ more))
    (turns : ∀ (budget fuel : Nat) (vs rest : List (TokenKind × String)) (out : Expr),
      Stops ℓ.tighter (vs ++ rest) → follow' (vs ++ rest) →
      16 * (us.length + 2) ≤ budget + 1 + ℓ.rank → us.length ≤ fuel + 1 →
      Reads (goOn ℓ budget fuel e) vs out rest →
      Reads (goOn ℓ budget (fuel + 1) before) (us ++ vs) out rest) :
    Continues follow' ℓ (ts ++ us) e := by
  intro budget fuel vs rest out stop follow' enough fueled read
  have longFront := List.length_pos_iff.mpr someFront
  have longTurn := List.length_pos_iff.mpr someTurn
  rw [List.length_append] at enough fueled
  rw [List.append_assoc]
  -- the front leaves a turn for every token of `us`, and this turn takes one of them
  refine h budget (fuel + us.length) (us ++ vs) rest out ?_ ?_ (by omega) (by omega) ?_
  · rw [List.append_assoc]
    exact stops _
  · rw [List.append_assoc]
    exact follows _
  · intro k fueled
    obtain ⟨k, rfl⟩ : ∃ n, k = n + 1 := ⟨k - 1, by omega⟩
    exact turns budget k vs rest out stop follow' (by omega) (by omega) (read k (by omega))

/-- Without another turn the loop ends. -/
theorem parsesAt (loops : ℓ.loops = true) (h : Continues follow ℓ ts e) (nonempty : ts ≠ [])
    (stops : Stops ℓ rest) (follows : follow rest) : ParsesAt ℓ ts e rest := by
  intro budget enough
  have long := List.length_pos_iff.mpr nonempty
  have bound : ℓ.rank ≤ 13 := ℓ.rank_le
  have tight := Level.rank_tighter (loose loops)
  obtain ⟨b, rfl⟩ : ∃ b, budget = b + 1 := ⟨budget - 1, by omega⟩
  have ended (k : Nat) (fueled : 1 ≤ k) : Reads (goOn ℓ b k e) [] e rest := by
    obtain ⟨n, rfl⟩ : ∃ n, k = n + 1 := ⟨k - 1, by omega⟩
    exact goOn_stops loops stops
  have all := h b 1 [] rest e (stops.mono (by omega)) follows (by omega) (by omega) ended
  rwa [List.append_nil] at all

end Continues

end ExprLang
