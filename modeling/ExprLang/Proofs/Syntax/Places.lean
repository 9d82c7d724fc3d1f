import ExprLang.Proofs.Syntax.Extension
import Mathlib.Data.List.Induction

/-!
# Where the tokens of a text stand

The lexer cuts a text into gaps and tokens and leaves nothing out. `Passes cs l l'` says that a
lexer gets from `l` to `l'` over the characters `cs`; reading a token is such a step
(`Lexer.exists_gap_of_next`), and so is any number of them (`Lexer.exists_passes_after`). What
follows for a token and its characters is `Token.StandsIn`, and for an error
`Position.IsIn`.
-/

namespace ExprLang

/-! ### True places -/

namespace Position

/-- The place behind the first `n` characters of a text. Its line is one more than the newlines in
front of it, and its column one more than the characters since the last of these. -/
def within (cs : List Char) (n : Nat) : Position :=
  ⟨n, 1 + (cs.take n).count '\n', 1 + ((cs.take n).reverse.takeWhile (· != '\n')).length⟩

/-- A place of a text, with the line and the column that belong to its offset. -/
def IsIn (p : Position) (cs : List Char) : Prop :=
  p = within cs p.offset ∧ p.offset ≤ cs.length

theorem within_length (cs : List Char) :
    within cs cs.length =
      ⟨cs.length, 1 + cs.count '\n', 1 + (cs.reverse.takeWhile (· != '\n')).length⟩ := by
  simp [within]

/-- A place that is kept up to date character by character is the true one. -/
theorem start_advanceOver (cs : List Char) : start.advanceOver cs = within cs cs.length := by
  induction cs using List.reverseRecOn with
  | nil => rfl
  | append_singleton cs c ih =>
    rw [advanceOver_append, ih, within_length, within_length]
    by_cases newline : c = '\n'
    · simp [advance, newline, Nat.add_assoc]
    · simp [advance, newline, Nat.add_comm 1]

/-- The place behind the first characters of a text. -/
theorem start_advanceOver_of_append {cs xs ys : List Char} (h : cs = xs ++ ys) :
    start.advanceOver xs = within cs xs.length := by
  rw [start_advanceOver, h]
  simp [within]

theorem isIn_of_append {cs xs ys : List Char} (h : cs = xs ++ ys) :
    (start.advanceOver xs).IsIn cs := by
  have place := start_advanceOver_of_append h
  have offset : (start.advanceOver xs).offset = xs.length := congrArg Position.offset place
  refine ⟨by rw [offset, place], ?_⟩
  simp [offset, h]

end Position

namespace Lexer

/-! ### One token -/

/-- The second lexer stands behind characters that come next for the first one. -/
structure Passes (cs : List Char) (l l' : Lexer) : Prop where
  rest : l.rest = cs ++ l'.rest
  position : l'.position = l.position.advanceOver cs

namespace Passes

variable {l l' l'' : Lexer} {cs ds : List Char}

theorem refl (l : Lexer) : Passes [] l l :=
  ⟨rfl, rfl⟩

theorem trans (h : Passes cs l l') (h' : Passes ds l' l'') : Passes (cs ++ ds) l l'' := by
  refine ⟨?_, ?_⟩
  · rw [h.rest, h'.rest, List.append_assoc]
  · rw [h'.position, h.position, Position.advanceOver_append]

/-- The modes do not matter. -/
theorem skip (l : Lexer) (n : Nat) (modes : List LexMode) (pending : Bool) :
    Passes (l.rest.take n) l ⟨(l.skip n).rest, (l.skip n).position, modes, pending⟩ :=
  ⟨(List.take_append_drop n l.rest).symm, rfl⟩

end Passes

/-- A token is read from the characters `span`. Only for literal text and for a string its lexeme
may be something else than these. -/
structure ReadsFrom (span : List Char) (l : Lexer) (t : Token) (l' : Lexer) : Prop where
  passes : Passes span l l'
  position : t.position = l.position
  lexeme : t.kind ∉ [.literalText, .string] → t.lexeme.toList = span
  final : t.kind = .endOfText → l.rest = []

/-- An error is found between the characters that are passed. -/
def FindsError (l : Lexer) (e : ParseError) (l' : Lexer) : Prop :=
  ∃ before behind, Passes (before ++ behind) l l' ∧ e.position = l.position.advanceOver before

section Token

variable {l : Lexer} {t : Token}

theorem readsFrom_atEnd (final : l.rest = []) : ReadsFrom [] l (.atEnd l.position) l :=
  ⟨.refl l, rfl, fun _ => rfl, fun _ => final⟩

/-- A token that is `n` characters long, whatever the modes behind it. -/
theorem readsFrom_take (n : Nat) {kind : TokenKind} {lexeme : String} (modes : List LexMode)
    (pending : Bool) (text : kind ∉ [.literalText, .string] → lexeme.toList = l.rest.take n)
    (notEnd : kind ≠ .endOfText) :
    ReadsFrom (l.rest.take n) l ⟨kind, lexeme, l.position⟩
      ⟨(l.skip n).rest, (l.skip n).position, modes, pending⟩ :=
  ⟨.skip l n modes pending, rfl, text, fun final => absurd final notEnd⟩

theorem exists_readsFrom_nextInText (l : Lexer) :
    ∃ span, ReadsFrom span l l.nextInText.1 l.nextInText.2 := by
  unfold nextInText
  split
  · rename_i final
    exact ⟨[], readsFrom_atEnd final⟩
  · rename_i chars
    exact ⟨_, readsFrom_take 2 _ _ (fun _ => by rw [chars]; rfl) (by decide)⟩
  · rename_i chars
    exact ⟨_, readsFrom_take 2 _ _ (fun _ => by rw [chars]; rfl) (by decide)⟩
  · exact ⟨_, readsFrom_take _ _ _ (by simp) (by decide)⟩

theorem exists_readsFrom_nextString {quote : Char} {cs : List Char}
    (read : (l.nextString quote cs).1 = .ok t) :
    ∃ span, ReadsFrom span l t (l.nextString quote cs).2 := by
  unfold nextString at read ⊢
  cases scan : scanString quote cs with
  | closed text width =>
    rw [scan] at read
    cases read
    exact ⟨_, readsFrom_take (width + 1) _ _ (by simp) (by decide)⟩
  | badEscape ch width =>
    rw [scan] at read
    cases read
  | unterminated width =>
    rw [scan] at read
    cases read

/-- A string that is not closed is found where it begins, a wrong escape where it is written. -/
theorem findsError_nextString {quote : Char} {cs : List Char} {e : ParseError}
    (read : (l.nextString quote cs).1 = .error e) :
    FindsError l e (l.nextString quote cs).2 := by
  unfold nextString at read ⊢
  cases scan : scanString quote cs with
  | closed text width =>
    rw [scan] at read
    cases read
  | badEscape ch width =>
    rw [scan] at read
    cases read
    refine ⟨l.rest.take (width + 1), [], ?_, rfl⟩
    rw [List.append_nil]
    exact .skip l _ _ _
  | unterminated width =>
    rw [scan] at read
    cases read
    exact ⟨[], _, .skip l (width + 1) _ _, rfl⟩

theorem ne_endOfText_of_mem_kinds {cls : TokenClass} {kind : TokenKind} (mem : kind ∈ cls.kinds) :
    kind ≠ .endOfText := by
  revert kind
  cases cls <;> decide

theorem exists_readsFrom_nextNumber (l : Lexer) :
    ∃ span, ReadsFrom span l l.nextNumber.1 l.nextNumber.2 :=
  ⟨_, readsFrom_take _ _ _ (fun _ => String.toList_ofList)
    (ne_endOfText_of_mem_kinds (kind_nextNumber l))⟩

theorem exists_readsFrom_nextWord (l : Lexer) :
    ∃ span, ReadsFrom span l l.nextWord.1 l.nextWord.2 := by
  have word : (String.ofList (l.rest.takeWhile isWordPart)).toList =
      l.rest.take (l.rest.takeWhile isWordPart).length := by
    rw [String.toList_ofList]
    exact List.prefix_iff_eq_take.mp (List.takeWhile_prefix _)
  have notEnd := ne_endOfText_of_mem_kinds (kind_nextWord l)
  unfold nextWord at notEnd ⊢
  dsimp only at notEnd ⊢
  split
  · exact ⟨_, readsFrom_take _ _ _ (fun _ => word) (by decide)⟩
  · split
    · exact ⟨_, readsFrom_take _ _ _ (fun _ => word) (by decide)⟩
    · rename_i now suffix
      rw [if_neg now, if_neg suffix] at notEnd
      exact ⟨_, readsFrom_take _ _ _ (fun _ => word) notEnd⟩

theorem exists_readsFrom_nextSymbol (l : Lexer) (c : Char) (cs : List Char) :
    ∃ span, ReadsFrom span l (l.nextSymbol c cs).1 (l.nextSymbol c cs).2 :=
  ⟨_, readsFrom_take _ _ _ (fun _ => String.toList_ofList)
    (ne_endOfText_of_mem_kinds (kind_symbolAt c cs.head?))⟩

theorem exists_readsFrom_nextToken (read : l.nextToken.1 = .ok t) :
    ∃ span, ReadsFrom span l t l.nextToken.2 := by
  cases rest : l.rest with
  | nil =>
    simp only [nextToken, rest] at read ⊢
    cases read
    exact ⟨[], readsFrom_atEnd rest⟩
  | cons c cs =>
    rw [nextToken_eq rest] at read ⊢
    cases kind : classOf c cs.head? with
    | openBrace =>
      rw [kind] at read
      cases read
      obtain rfl : c = '{' := eq_openBrace_of_classOf kind
      exact ⟨_, readsFrom_take 1 _ _ (fun _ => by rw [rest]; rfl) (by decide)⟩
    | closeBrace =>
      rw [kind] at read
      cases read
      obtain rfl : c = '}' := eq_closeBrace_of_classOf kind
      exact ⟨_, readsFrom_take 1 _ _ (fun _ => by rw [rest]; rfl) (by decide)⟩
    | string =>
      rw [kind] at read
      exact exists_readsFrom_nextString read
    | number =>
      rw [kind] at read
      cases read
      exact exists_readsFrom_nextNumber l
    | word =>
      rw [kind] at read
      cases read
      exact exists_readsFrom_nextWord l
    | symbol =>
      rw [kind] at read
      cases read
      exact exists_readsFrom_nextSymbol l c cs

theorem findsError_nextToken {e : ParseError} (read : l.nextToken.1 = .error e) :
    FindsError l e l.nextToken.2 := by
  cases rest : l.rest with
  | nil =>
    simp only [nextToken, rest] at read
    cases read
  | cons c cs =>
    rw [nextToken_eq rest] at read ⊢
    cases kind : classOf c cs.head? with
    | string =>
      rw [kind] at read
      exact findsError_nextString read
    | _ =>
      rw [kind] at read
      cases read

theorem passes_skipGap (l : Lexer) : Passes (l.rest.takeWhile isGap) l l.skipGap := by
  have passes : Passes _ l l.skipGap :=
    .skip l (l.rest.takeWhile isGap).length l.modes l.suffixPending
  rwa [← List.prefix_iff_eq_take.mp (List.takeWhile_prefix isGap)] at passes

/-- Behind a gap there is none. -/
theorem next_skipGap (inside : l.mode ≠ .text) : l.skipGap.next = l.next := by
  have none : l.skipGap.rest.takeWhile isGap = [] := by
    rw [rest_skipGap_eq_dropWhile]
    cases h : l.rest.dropWhile isGap with
    | nil => rfl
    | cons c cs =>
      have head := List.head?_dropWhile_not isGap l.rest
      rw [h] at head
      exact List.takeWhile_cons_of_neg (by simpa using head)
  have again : l.skipGap.skipGap = l.skipGap := by
    rw [skipGap, none]
    rfl
  rw [next_inside inside, next_inside (show l.skipGap.mode ≠ .text from inside), again]

/-- A token is read from its characters behind a gap, which in literal text there is not. -/
theorem exists_gap_of_next (read : l.next.1 = .ok t) :
    ∃ gap span middle, (∀ c ∈ gap, isGap c = true) ∧ (l.mode = .text → gap = []) ∧
      Passes gap l middle ∧ ReadsFrom span middle t l.next.2 ∧ middle.next = l.next := by
  by_cases inside : l.mode = .text
  · rw [next_inText inside] at read ⊢
    cases read
    obtain ⟨span, reads⟩ := exists_readsFrom_nextInText l
    exact ⟨[], span, l, by simp, fun _ => rfl, .refl l, reads, next_inText inside⟩
  · have same := next_skipGap inside
    rw [next_inside inside] at read same ⊢
    obtain ⟨span, reads⟩ := exists_readsFrom_nextToken read
    have blank : (l.rest.takeWhile isGap).all isGap = true := List.all_takeWhile
    exact ⟨_, span, _, List.all_eq_true.mp blank, fun text => absurd text inside,
      passes_skipGap l, reads, same⟩

theorem findsError_next {e : ParseError} (read : l.next.1 = .error e) :
    FindsError l e l.next.2 := by
  unfold next at read ⊢
  split at read
  · cases read
  · obtain ⟨before, behind, passes, place⟩ := findsError_nextToken read
    have gap := passes_skipGap l
    refine ⟨l.rest.takeWhile isGap ++ before, behind, ?_, ?_⟩
    · rw [List.append_assoc]
      exact gap.trans passes
    · rw [place, gap.position, Position.advanceOver_append]

/-- The lexer never goes back, and leaves no character out. -/
theorem exists_passes_next (l : Lexer) : ∃ cs, Passes cs l l.next.2 := by
  cases read : l.next.1 with
  | ok t =>
    obtain ⟨gap, span, middle, -, -, passes, reads, -⟩ := exists_gap_of_next read
    exact ⟨_, passes.trans reads.passes⟩
  | error e =>
    obtain ⟨before, behind, passes, -⟩ := findsError_next read
    exact ⟨_, passes⟩

end Token

/-! ### All tokens of a text -/

/-- The lexer behind the next `n` tokens. -/
def after (l : Lexer) : Nat → Lexer
  | 0 => l
  | n + 1 => (l.after n).next.2

/-- The number of characters that the next `n` tokens take, with the gaps before them. -/
def boundary (l : Lexer) (n : Nat) : Nat :=
  l.rest.length - (l.after n).rest.length

theorem after_next (l : Lexer) (n : Nat) : l.next.2.after n = l.after (n + 1) := by
  induction n with
  | zero => rfl
  | succ n ih => exact congrArg (fun behind : Lexer => behind.next.2) ih

/-- The items of a text are what the lexer reads one after the other. -/
theorem next_after_of_items {l : Lexer} {n : Nat} {item : Except ParseError Token}
    (there : l.items[n]? = some item) : (l.after n).next.1 = item := by
  induction n generalizing l with
  | zero =>
    cases read : l.next.1 with
    | error e =>
      rw [items_of_error read] at there
      exact read.trans (Option.some.inj there)
    | ok t =>
      by_cases final : t.kind = .endOfText
      · rw [items_of_end read final] at there
        exact read.trans (Option.some.inj there)
      · rw [items_of_token read final] at there
        exact read.trans (Option.some.inj there)
  | succ n ih =>
    rw [← after_next]
    cases read : l.next.1 with
    | error e =>
      rw [items_of_error read] at there
      cases there
    | ok t =>
      by_cases final : t.kind = .endOfText
      · rw [items_of_end read final] at there
        cases there
      · rw [items_of_token read final] at there
        exact ih there

theorem exists_passes_after (l : Lexer) (n : Nat) : ∃ cs, Passes cs l (l.after n) := by
  induction n with
  | zero => exact ⟨[], .refl l⟩
  | succ n ih =>
    obtain ⟨before, passes⟩ := ih
    obtain ⟨cs, step⟩ := exists_passes_next (l.after n)
    exact ⟨before ++ cs, passes.trans step⟩

theorem Passes.boundary_eq {l : Lexer} {n : Nat} {cs : List Char} (h : Passes cs l (l.after n)) :
    l.boundary n = cs.length := by
  rw [boundary, h.rest, List.length_append, Nat.add_sub_cancel_right]

/-- What has been read stays read. -/
theorem boundary_mono {l : Lexer} {m n : Nat} (le : m ≤ n) : l.boundary m ≤ l.boundary n := by
  induction le with
  | refl => exact Nat.le_refl _
  | @step n _ ih =>
    obtain ⟨before, passes⟩ := exists_passes_after l n
    obtain ⟨cs, step⟩ := exists_passes_next (l.after n)
    have whole : Passes (before ++ cs) l (l.after (n + 1)) := passes.trans step
    rw [passes.boundary_eq] at ih
    rw [whole.boundary_eq, List.length_append]
    omega

end Lexer

/-- A token stands in a text on the characters between its offset and `stop`, read in a mode, where
the tokens before it end at `behind`. -/
structure Token.StandsIn (t : Token) (cs : List Char) (mode : LexMode) (behind stop : Nat) :
    Prop where
  place : t.position.IsIn cs
  order : behind ≤ t.position.offset ∧ t.position.offset ≤ stop ∧ stop ≤ cs.length
  /-- Between the tokens there are blanks only. -/
  gap : ∀ c ∈ cs.extract behind t.position.offset, c ∈ [' ', '\t', '\n', '\r']
  /-- In literal text there is nothing between the tokens. -/
  attached : mode = .text → t.position.offset = behind
  /-- What has no escapes is written as it is meant. -/
  lexeme : t.kind ∉ [.literalText, .string] → t.lexeme.toList = cs.extract t.position.offset stop
  final : t.kind = .endOfText → t.position.offset = cs.length

namespace Lexer

variable {l : Lexer} {n : Nat}

theorem extract_of_append {cs xs ys zs : List Char} (h : cs = xs ++ (ys ++ zs)) :
    cs.extract xs.length (xs ++ ys).length = ys := by
  simp [h, List.extract_eq_take_drop]

/-- The tokens of a text stand in it one behind the other. -/
theorem standsIn_of_items (fresh : l.position = .start) {t : Token}
    (there : l.items[n]? = some (.ok t)) :
    t.StandsIn l.rest (l.after n).mode (l.boundary n) (l.boundary (n + 1)) := by
  obtain ⟨before, passes⟩ := exists_passes_after l n
  obtain ⟨gap, span, middle, blank, attached, skipped, reads, -⟩ :=
    exists_gap_of_next (next_after_of_items there)
  have start := passes.trans skipped
  have whole : Passes ((before ++ gap) ++ span) l (l.after (n + 1)) := start.trans reads.passes
  have place : t.position = Position.start.advanceOver (before ++ gap) := by
    rw [reads.position, start.position, fresh]
  have offset : t.position.offset = (before ++ gap).length := by
    rw [place, Position.offset_advanceOver]
    exact Nat.zero_add _
  have text : l.rest = (before ++ gap) ++ (span ++ (l.after (n + 1)).rest) := by
    rw [whole.rest, List.append_assoc]
  rw [passes.boundary_eq, whole.boundary_eq]
  refine ⟨?_, ?_, ?_, ?_, ?_, ?_⟩
  · rw [place]
    exact Position.isIn_of_append text
  · rw [offset, text]
    simp only [List.length_append]
    omega
  · rw [offset, extract_of_append (by rw [text, List.append_assoc])]
    exact fun c inGap => by simpa [isGap, or_assoc] using blank c inGap
  · intro inText
    rw [offset, attached inText, List.append_nil]
  · rw [offset, extract_of_append text]
    exact reads.lexeme
  · intro kind
    rw [offset, start.rest, reads.final kind, List.append_nil]

/-- The end of a token does not come behind the place of a later one. -/
theorem boundary_le_offset (fresh : l.position = .start) {m : Nat} {u : Token} (lt : m < n)
    (later : l.items[n]? = some (.ok u)) : l.boundary (m + 1) ≤ u.position.offset :=
  Nat.le_trans (boundary_mono lt) (standsIn_of_items fresh later).order.1

/-- A token other than the end takes a character. -/
theorem offset_lt_boundary (fresh : l.position = .start) {t : Token}
    (there : l.items[n]? = some (.ok t)) (notEnd : t.kind ≠ .endOfText) :
    t.position.offset < l.boundary (n + 1) := by
  have read := next_after_of_items there
  obtain ⟨before, passes⟩ := exists_passes_after l n
  obtain ⟨gap, span, middle, -, -, skipped, reads, same⟩ := exists_gap_of_next read
  have start := passes.trans skipped
  have whole : Passes ((before ++ gap) ++ span) l (l.after (n + 1)) := start.trans reads.passes
  have offset : t.position.offset = (before ++ gap).length := by
    rw [reads.position, start.position, fresh, Position.offset_advanceOver]
    exact Nat.zero_add _
  have shorter := length_next_lt ((congrArg Prod.fst same).trans read) notEnd
  have length := congrArg List.length reads.passes.rest
  rw [same] at shorter
  rw [List.length_append] at length
  rw [whole.boundary_eq, offset]
  simp only [List.length_append]
  omega

/-- An error of the lexer is found at a place of its text. -/
theorem isIn_of_error (fresh : l.position = .start) {e : ParseError}
    (there : .error e ∈ l.items) : e.position.IsIn l.rest := by
  obtain ⟨n, there⟩ := List.getElem?_of_mem there
  obtain ⟨before, passes⟩ := exists_passes_after l n
  obtain ⟨cs, more, found, place⟩ := findsError_next (next_after_of_items there)
  have text := (passes.trans found).rest
  rw [List.append_assoc, List.append_assoc, ← List.append_assoc] at text
  rw [place, passes.position, fresh, ← Position.advanceOver_append]
  exact Position.isIn_of_append text

end Lexer

end ExprLang
