import ExprLang.Proofs.Syntax.Closing
import ExprLang.Proofs.Syntax.Embedding
import ExprLang.Proofs.Syntax.Progress

/-!
# The modes of a lexer

A lexer is in literal text, or in an expression with braces open in it (`Lexer.Nested`), after any
number of calls. `Shifts` says what one call does to the modes, by what it gives, so that the depth can
be told from what was given so far. The parser passes as many brackets that open as brackets that close
(`Balanced`). **Key theorem**: `depth_counts_brackets`.
-/

namespace ExprLang

/-! ### Brackets among tokens -/

namespace TokenKind

/-- The tokens that start an expression in a template. -/
def starts : TokenKind → Bool
  | startDynamic | startDeferred => true
  | _ => false

/-- The tokens that open a bracket of the lexer. -/
def opens : TokenKind → Bool
  | startDynamic | startDeferred | openBrace => true
  | _ => false

/-- The token that closes one. -/
def closes : TokenKind → Bool
  | closeBrace => true
  | _ => false

theorem cases_of_starts {kind : TokenKind} (h : kind.starts = true) :
    kind = startDynamic ∨ kind = startDeferred := by
  cases kind <;> first | exact .inl rfl | exact .inr rfl | cases h

theorem opens_of_starts {kind : TokenKind} (h : kind.starts = true) :
    kind.opens = true ∧ kind.closes = false := by
  rcases cases_of_starts h with rfl | rfl <;> exact ⟨rfl, rfl⟩

theorem opens_eq_false {kind : TokenKind} (h : kind.starts = false) (other : kind ≠ openBrace) :
    kind.opens = false := by
  cases kind <;> first | rfl | exact absurd rfl other | cases h

theorem closes_eq_false {kind : TokenKind} (other : kind ≠ closeBrace) : kind.closes = false := by
  cases kind <;> first | rfl | exact absurd rfl other

end TokenKind

/-- The number of tokens of some kinds among several items. -/
def countOf (kinds : TokenKind → Bool) (items : List (Except ParseError Token)) : Nat :=
  items.countP fun item => item.toOption.any (kinds ·.kind)

section Count

variable (kinds : TokenKind → Bool) (items later : List (Except ParseError Token))

@[simp] theorem countOf_nil : countOf kinds [] = 0 := rfl

@[simp] theorem countOf_append :
    countOf kinds (items ++ later) = countOf kinds items + countOf kinds later :=
  List.countP_append

@[simp] theorem countOf_ok (t : Token) :
    countOf kinds [.ok t] = if kinds t.kind then 1 else 0 := by
  simp [countOf, List.countP_cons, Except.toOption]

theorem countOf_map_ok (ts : List Token) :
    countOf kinds (ts.map .ok) = ts.countP (kinds ·.kind) := by
  simp only [countOf, List.countP_map]
  rfl

@[simp] theorem countOf_error (e : ParseError) : countOf kinds [.error e] = 0 := rfl

end Count

namespace Lexer

/-- What the next `n` calls give. -/
def results (l : Lexer) (n : Nat) : List (Except ParseError Token) :=
  (List.range n).map fun k => (l.after k).next.1

theorem results_succ (l : Lexer) (n : Nat) :
    l.results (n + 1) = l.results n ++ [(l.after n).next.1] := by
  simp [results, List.range_succ]

/-- The items of a text are what is given first. -/
theorem results_eq_take {l : Lexer} {n : Nat} (le : n ≤ l.items.length) :
    l.results n = l.items.take n := by
  induction n with
  | zero => rfl
  | succ n ih =>
    have there := List.getElem?_eq_getElem (Nat.lt_of_succ_le le)
    rw [results_succ, ih (Nat.le_of_succ_le le), next_after_of_items there, List.take_add_one, there]
    rfl

/-! ### One call -/

/-- The lexer is in literal text, or in an expression with braces open in it. -/
def Nested (l : Lexer) : Prop :=
  l.modes = [] ∨ ∃ opened, l.Within opened

/-- What a call does to the modes. -/
inductive Shifts : Except ParseError Token → List LexMode → List LexMode → Prop where
  | starts {t : Token} : t.kind.starts = true → Shifts (.ok t) [] [.expression]
  | opens {t : Token} {m : LexMode} {ms : List LexMode} : t.kind = .openBrace →
      Shifts (.ok t) (m :: ms) (.braces :: m :: ms)
  | closes {t : Token} {m : LexMode} {ms : List LexMode} : t.kind = .closeBrace →
      Shifts (.ok t) (m :: ms) ms
  | stays {t : Token} {ms : List LexMode} : t.kind.opens = false → t.kind.closes = false →
      Shifts (.ok t) ms ms
  | fails {e : ParseError} {ms : List LexMode} : Shifts (.error e) ms ms

section Step

@[simp] theorem modes_skip (l : Lexer) (n : Nat) : (l.skip n).modes = l.modes := rfl

@[simp] theorem modes_push (l : Lexer) (m : LexMode) : (l.push m).modes = m :: l.modes := rfl

variable {l : Lexer}

theorem shifts_nextInText (none : l.modes = []) :
    Shifts (.ok l.nextInText.1) l.modes l.nextInText.2.modes := by
  unfold nextInText
  split
  · exact .stays rfl rfl
  · simp only [modes_push, modes_skip, none]
    exact .starts rfl
  · simp only [modes_push, modes_skip, none]
    exact .starts rfl
  · exact .stays rfl rfl

theorem opens_eq_false_of_mem_kinds {cls : TokenClass} {kind : TokenKind} (mem : kind ∈ cls.kinds)
    (notOpen : kind ≠ .openBrace) : kind.opens = false := by
  revert kind
  cases cls <;> decide

theorem modes_of_error {e : ParseError} (read : l.nextToken.1 = .error e) :
    l.nextToken.2.modes = l.modes := by
  cases rest : l.rest with
  | nil =>
    simp only [nextToken, rest] at read
    cases read
  | cons c cs =>
    rw [nextToken_eq rest] at read ⊢
    cases kind : classOf c cs.head? with
    | string =>
      unfold nextOf nextString
      dsimp only
      split <;> rfl
    | _ =>
      rw [kind] at read
      cases read

theorem shifts_nextToken {m : LexMode} {ms : List LexMode} (some : l.modes = m :: ms) :
    Shifts l.nextToken.1 l.modes l.nextToken.2.modes := by
  cases read : l.nextToken.1 with
  | error e =>
    rw [modes_of_error read]
    exact .fails
  | ok t =>
    cases braces_nextToken read with
    | final kind _ modes =>
      rw [modes]
      exact .stays (by rw [kind]; rfl) (by rw [kind]; rfl)
    | opens kind modes =>
      rw [modes, some]
      exact .opens kind
    | closes kind _ modes =>
      rw [modes, some]
      exact .closes kind
    | other kind modes =>
      simp only [List.mem_cons, List.not_mem_nil, or_false, not_or] at kind
      rw [modes]
      refine .stays ?_ (TokenKind.closes_eq_false kind.2.2)
      cases rest : l.rest with
      | nil =>
        simp only [nextToken, rest] at read
        cases read
        rfl
      | cons c cs =>
        rw [nextToken_eq rest] at read
        exact opens_eq_false_of_mem_kinds (kind_of_nextOf l c read) kind.2.1

theorem shifts_next (h : l.Nested) : Shifts l.next.1 l.modes l.next.2.modes := by
  rcases h with none | ⟨opened, within⟩
  · have text : l.mode = .text := by rw [mode, none]; rfl
    rw [next_inText text]
    exact shifts_nextInText none
  · rw [next_inside within.inside]
    cases modes : l.modes with
    | nil => simp [Within, modes] at within
    | cons m ms => exact modes ▸ shifts_nextToken (l := l.skipGap) modes

/-- A call keeps to the modes a lexer can be in. -/
theorem Shifts.nested {l' : Lexer} {item : Except ParseError Token}
    (shifts : Shifts item l.modes l'.modes) (h : l.Nested) : l'.Nested := by
  unfold Nested Within at h ⊢
  generalize l.modes = before at shifts h
  generalize l'.modes = behind at shifts ⊢
  cases shifts with
  | starts => exact .inr ⟨0, rfl⟩
  | opens =>
    obtain none | ⟨opened, within⟩ := h
    · cases none
    · exact .inr ⟨opened + 1, congrArg (LexMode.braces :: ·) within⟩
  | closes =>
    obtain none | ⟨opened, within⟩ := h
    · cases none
    · cases opened with
      | zero => exact .inl (List.cons.inj within).2
      | succ opened => exact .inr ⟨opened, (List.cons.inj within).2⟩
  | stays => exact h
  | fails => exact h

/-- The depth goes with the brackets. -/
theorem Shifts.depth_eq {l' : Lexer} {item : Except ParseError Token}
    (shifts : Shifts item l.modes l'.modes) :
    l'.depth + countOf TokenKind.closes [item] = l.depth + countOf TokenKind.opens [item] := by
  unfold depth
  generalize l.modes = before at shifts
  generalize l'.modes = behind at shifts
  cases shifts with
  | starts kind => simp [TokenKind.opens_of_starts kind]
  | opens kind => simp [kind, TokenKind.opens, TokenKind.closes]
  | closes kind => simp [kind, TokenKind.opens, TokenKind.closes]
  | stays notOpen notClose => simp [notOpen, notClose]
  | fails => simp

end Step

/-! ### Any number of calls -/

section Run

variable {l : Lexer}

theorem Nested.after (h : l.Nested) (n : Nat) : (l.after n).Nested := by
  induction n with
  | zero => exact h
  | succ n ih => exact (shifts_next ih).nested ih

theorem Nested.depth_after_succ (h : l.Nested) (n : Nat) :
    (l.after (n + 1)).depth + countOf TokenKind.closes [(l.after n).next.1] =
      (l.after n).depth + countOf TokenKind.opens [(l.after n).next.1] :=
  (shifts_next (h.after n)).depth_eq

/-- The depth is that of the start, with the brackets counted that were given so far. -/
theorem Nested.depth_after (h : l.Nested) (n : Nat) :
    (l.after n).depth + countOf TokenKind.closes (l.results n) =
      l.depth + countOf TokenKind.opens (l.results n) := by
  induction n with
  | zero => rfl
  | succ n ih =>
    have step := h.depth_after_succ n
    rw [results_succ, countOf_append, countOf_append]
    omega

/-- The mode can be told from the depth. -/
theorem Nested.mode_iff (h : l.Nested) :
    (l.mode = .text ↔ l.depth = 0) ∧ (l.mode = .expression ↔ l.depth = 1) ∧
      (l.mode = .braces ↔ 2 ≤ l.depth) := by
  unfold mode depth
  obtain none | ⟨opened, within⟩ := h
  · simp [none]
  · rw [within]
    cases opened <;> simp [List.replicate_succ]

/-- Behind all its items, with as many brackets that close as brackets that open, a lexer is as deep as
at the start, however often it is asked for the end. -/
theorem Nested.depth_behind (h : l.Nested) {last : Token} (final : last.kind = .endOfText)
    (there : l.items.getLast? = some (.ok last))
    (balanced : countOf TokenKind.opens l.items = countOf TokenKind.closes l.items) {n : Nat}
    (le : l.items.length ≤ n) : (l.after n).depth = l.depth := by
  rw [List.getLast?_eq_getElem?] at there
  induction le with
  | refl =>
    have counts := h.depth_after l.items.length
    rw [results_eq_take (Nat.le_refl _), List.take_length] at counts
    omega
  | @step n more ih =>
    have le : l.items.length ≤ n := more
    have again := next_after_end there final (n - (l.items.length - 1))
    rw [Nat.add_sub_cancel' (by omega)] at again
    have step := h.depth_after_succ n
    simpa [again, final, TokenKind.opens, TokenKind.closes, ih] using step

end Run

end Lexer

/-! ### The brackets that the parser passes -/

mutual

/-- A tree has no atom of a token that has no place in an expression. -/
theorem Expr.foreign_notMem_atoms (kind : TokenKind) : ∀ e : Expr, .foreign kind ∉ e.atoms
  | .integer _ | .float _ | .decimal _ | .string _ | .boolean _ | .null => by simp [atoms]
  | .identifier _ | .implicit _ | .key _ => by simp [atoms]
  | .access object k => by
    simp [atoms, foreign_notMem_atoms kind object, foreign_notMem_atoms kind k]
  | .method object _ args => by
    simp [atoms, foreign_notMem_atoms kind object, foreign_notMem_atomsOfAll kind args]
  | .function _ _ args => by simp [atoms, foreign_notMem_atomsOfAll kind args]
  | .call callee args => by
    simp [atoms, foreign_notMem_atoms kind callee, foreign_notMem_atomsOfAll kind args]
  | .unary _ operand => by simp [atoms, foreign_notMem_atoms kind operand]
  | .binary _ left right => by
    simp [atoms, foreign_notMem_atoms kind left, foreign_notMem_atoms kind right]
  | .conditional condition yes no => by
    simp [atoms, foreign_notMem_atoms kind condition, foreign_notMem_atoms kind yes,
      foreign_notMem_atoms kind no]
  | .instanceOf operand _ => by simp [atoms, foreign_notMem_atoms kind operand]
  | .list elements => by simp [atoms, foreign_notMem_atomsOfAll kind elements]
  | .set elements => by simp [atoms, foreign_notMem_atomsOfAll kind elements]
  | .map entries => by simp [atoms, foreign_notMem_atomsOfEntries kind entries]
  | .lambda _ body => by simp [atoms, foreign_notMem_atoms kind body]
  | .assign target value => by
    simp [atoms, foreign_notMem_atoms kind target, foreign_notMem_atoms kind value]
  | .sequence steps => by simp [atoms, foreign_notMem_atomsOfAll kind steps]

theorem Expr.foreign_notMem_atomsOfAll (kind : TokenKind) :
    ∀ es : List Expr, .foreign kind ∉ Expr.atomsOfAll es
  | [] => by simp [atomsOfAll]
  | e :: es => by
    simp [atomsOfAll, foreign_notMem_atoms kind e, foreign_notMem_atomsOfAll kind es]

theorem Expr.foreign_notMem_atomsOfEntries (kind : TokenKind) :
    ∀ es : List (Expr × Expr), .foreign kind ∉ Expr.atomsOfEntries es
  | [] => by simp [atomsOfEntries]
  | (k, v) :: es => by
    simp [atomsOfEntries, atomsOfEntry, foreign_notMem_atoms kind k, foreign_notMem_atoms kind v,
      foreign_notMem_atomsOfEntries kind es]

end

/-- As many brackets open as close. -/
def Balanced (ts : List Token) : Prop :=
  (ts.countP fun t => t.kind.opens) = ts.countP fun t => t.kind.closes

/-- Where no expression starts, a tally goes with the brackets. -/
theorem Tally.opened_pass {y z : Tally} {t : Token} (passed : y.pass t = some z)
    (inner : t.kind.starts = false) :
    z.opened + (if t.kind.closes then 1 else 0) = y.opened + if t.kind.opens then 1 else 0 := by
  unfold pass at passed
  split at passed
  · cases passed
    simp [TokenKind.opens, TokenKind.closes, *]
  · cases passed
  · cases passed
    simp [TokenKind.opens, TokenKind.closes, *]
  · rename_i notOpen notEmpty notClose
    cases passed
    have notClose : t.kind ≠ .closeBrace := by
      intro same
      cases opened : y.opened with
      | zero => exact notEmpty same opened
      | succ n => exact notClose n same opened
    simp [TokenKind.opens_eq_false inner notOpen, TokenKind.closes_eq_false notClose, plus]

theorem Tally.opened_passAll {y z : Tally} {ts : List Token} (passed : y.passAll ts = some z)
    (inner : ∀ t ∈ ts, t.kind.starts = false) :
    z.opened + (ts.countP fun t => t.kind.closes) =
      y.opened + ts.countP fun t => t.kind.opens := by
  induction ts generalizing y with
  | nil =>
    cases passed
    rfl
  | cons t ts ih =>
    obtain ⟨between, first, rest⟩ := Option.bind_eq_some_iff.mp passed
    obtain ⟨head, tail⟩ := List.forall_mem_cons.mp inner
    have step := opened_pass first head
    have later := ih rest tail
    rw [List.countP_cons, List.countP_cons]
    omega

/-- The tokens of an expression are balanced. -/
theorem balanced_of_expr {s s' : TokenStream} {budget : Nat} {level : Level} {e : Expr}
    (whole : s.Whole) (read : Parser.expr budget level s = .ok (e, s')) :
    s'.Whole ∧ ∃ ts : List Token, s.items = ts.map .ok ++ s'.items ∧ Balanced ts := by
  obtain ⟨whole', ts, items, passed⟩ := tokens_of_expr whole read
  have atoms : e.atoms = ts.filterMap Token.atom? := Tally.atoms_passAll passed
  have inner : ∀ t ∈ ts, t.kind.starts = false := by
    intro t mem
    by_contra starts
    have foreign : t.atom? = some (.foreign t.kind) := by
      rcases TokenKind.cases_of_starts (by simpa using starts) with kind | kind <;>
        simp [kind, Token.atom?, Token.atom, TokenKind.isStructural, TokenKind.isMark]
    exact e.foreign_notMem_atoms t.kind (atoms ▸ List.mem_filterMap.mpr ⟨t, mem, foreign⟩)
  have counts := Tally.opened_passAll passed inner
  have same : Balanced ts := by simpa [Tally.start, Tally.plus, Balanced] using counts.symm
  exact ⟨whole', ts, items, same⟩

/-- From one stream to another, which stands at the end, the tokens are balanced. -/
structure BalancedRun (s s' : TokenStream) : Prop where
  final : s'.current.kind = .endOfText
  whole : s'.Whole
  passed : ∃ ts : List Token, s.items = ts.map .ok ++ s'.items ∧ Balanced ts

namespace BalancedRun

variable {s s₁ s' : TokenStream}

theorem refl (whole : s.Whole) (final : s.current.kind = .endOfText) : BalancedRun s s :=
  ⟨final, whole, [], rfl, rfl⟩

/-- Balanced tokens come first. -/
theorem append {ts : List Token} (h : BalancedRun s₁ s') (items : s.items = ts.map .ok ++ s₁.items)
    (balanced : Balanced ts) : BalancedRun s s' := by
  obtain ⟨us, items', balanced'⟩ := h.passed
  refine ⟨h.final, h.whole, ts ++ us, ?_, ?_⟩
  · rw [items, items', List.map_append, List.append_assoc]
  · unfold Balanced at balanced balanced' ⊢
    rw [List.countP_append, List.countP_append, balanced, balanced']

end BalancedRun

theorem starts_of_modeOf? {kind : TokenKind} {mode : EvalMode}
    (h : Parser.modeOf? kind = some mode) : kind.starts = true := by
  cases kind <;> first | rfl | cases h

/-- The tokens of an expression in a template are balanced, with the brackets around it. -/
theorem balanced_of_bracketed {s s₁ s₂ s₃ : TokenStream} {mode : EvalMode} {budget : Nat}
    {level : Level} {e : Expr} {u : Unit} (whole : s.Whole)
    (start : Parser.modeOf? s.current.kind = some mode) (moved : s.advance = .ok s₁)
    (read : Parser.expr budget level s₁ = .ok (e, s₂))
    (behind : Parser.expect .closeBrace s₂ = .ok (u, s₃)) :
    s₃.Whole ∧ ∃ ts : List Token, s.items = ts.map .ok ++ s₃.items ∧ Balanced ts := by
  have items := whole.advance (notEnd_of_modeOf? start) moved
  obtain ⟨whole₂, ts, items₁, inner⟩ :=
    balanced_of_expr (whole.suffix (items ▸ List.suffix_cons _ _)) read
  obtain ⟨closes, moved₂⟩ := Parser.of_expect behind
  have items₂ := whole₂.advance (by simp [closes]) moved₂
  have whole₃ := whole₂.suffix (items₂ ▸ List.suffix_cons _ _)
  refine ⟨whole₃, s.current :: ts ++ [s₂.current], ?_, ?_⟩
  · rw [items, items₁, items₂]
    simp
  · have starts := starts_of_modeOf? start
    unfold Balanced at inner ⊢
    simp [closes, TokenKind.opens_of_starts starts, inner]
    rfl

/-- From the stream the parser gets to the end of the text only over balanced tokens, and to no other
place. -/
def RunsBalanced {α : Type} (s : TokenStream) (p : Parser α) : Prop :=
  ∀ a s', p s = .ok (a, s') → BalancedRun s s'

theorem RunsBalanced.current {α : Type} {s : TokenStream} {f : Token → Parser α}
    (h : RunsBalanced s (f s.current)) : RunsBalanced s (Parser.current >>= f) :=
  h

theorem runsBalanced_templateParts {s : TokenStream} (whole : s.Whole) (budget : Nat)
    (seen : Option EvalMode) : RunsBalanced s (Parser.templateParts budget seen) := by
  induction budget generalizing seen s with
  | zero =>
    intro r s' ran
    cases ran
  | succ budget ih =>
    refine RunsBalanced.current ?_
    split
    · rename_i final
      intro r s' ran
      cases ran
      exact .refl whole final
    · -- literal text
      rename_i kind
      intro r s' ran
      obtain ⟨u, s₁, moved, ran⟩ := Parser.of_bind ran
      obtain ⟨parts, s₂, later, ran⟩ := Parser.of_bind ran
      cases ran
      have items := whole.advance (by simp [kind]) (Parser.of_advance moved)
      have whole₁ := whole.suffix (items ▸ List.suffix_cons _ _)
      have split : s.items = [s.current].map .ok ++ s₁.items := items
      have balanced : Balanced [s.current] := by
        simp [Balanced, kind, TokenKind.opens, TokenKind.closes]
      exact (ih whole₁ seen _ _ later).append split balanced
    · split
      · intro r s' ran
        cases ran
      · split
        · -- an expression up to its brace
          rename_i mode start _
          intro r s' ran
          obtain ⟨u, s₁, moved, ran⟩ := Parser.of_bind ran
          obtain ⟨e, s₂, read, ran⟩ := Parser.of_bind ran
          obtain ⟨u, s₃, behind, ran⟩ := Parser.of_bind ran
          obtain ⟨parts, s₄, later, ran⟩ := Parser.of_bind ran
          cases ran
          obtain ⟨whole₃, ts, split, balanced⟩ :=
            balanced_of_bracketed whole start (Parser.of_advance moved) read behind
          exact (ih whole₃ (some mode) _ _ later).append split balanced
        · intro r s' ran
          cases ran

theorem runsBalanced_template {s : TokenStream} (whole : s.Whole) :
    RunsBalanced s Parser.template := by
  intro t s' ran
  rw [Parser.template_eq] at ran
  obtain ⟨r, _, read, last⟩ := Parser.of_bind ran
  cases last
  exact runsBalanced_templateParts whole _ _ r _ read

theorem runsBalanced_standalone {s : TokenStream} (whole : s.Whole) :
    RunsBalanced s Parser.standalone := by
  intro e s' ran
  rw [Parser.standalone_eq] at ran
  obtain ⟨e', s₁, read, ran⟩ := Parser.of_bind ran
  obtain ⟨u, s₂, behind, ran⟩ := Parser.of_bind ran
  cases ran
  obtain ⟨final, moved⟩ := Parser.of_expect behind
  obtain ⟨whole₁, ts, items, balanced⟩ := balanced_of_expr whole read
  -- a stream stays at the end of the text
  have none := whole₁.ended.head.mp final
  obtain rfl : s₁ = s' := by
    rw [TokenStream.advance, none] at moved
    exact Except.ok.inj moved
  exact (BalancedRun.refl whole₁ final).append items balanced

/-- Behind a parser that gets to the end of a text the lexer is as deep as at the start. -/
theorem BalancedRun.depth {l : Lexer} {s s' : TokenStream} (h : BalancedRun s s')
    (nested : l.Nested) (items : s.items = l.items) :
    s'.items = [.ok s'.current] ∧ ∀ n, l.items.length ≤ n → (l.after n).depth = l.depth := by
  obtain ⟨ts, split, balanced⟩ := h.passed
  have last : s'.items = [.ok s'.current] := by
    rw [TokenStream.items, h.whole.ended.head.mp h.final]
  refine ⟨last, fun n le => nested.depth_behind h.final ?_ ?_ le⟩
  · rw [← items, split, last, List.getLast?_append]
    rfl
  · unfold Balanced at balanced
    rw [← items, split, last, countOf_append, countOf_append, countOf_map_ok, countOf_map_ok, balanced]
    simp [h.final, TokenKind.opens, TokenKind.closes]

/-- The lexer of a text, read as a template or as an expression, is as deep behind any number of calls
as at the start with the brackets counted that it has given: what opens one was given once more for each
level, and what closes one never more often than there were levels to close. Its mode is literal text, an
expression or the inside of braces, just as it is 0, 1 or more levels deep. A parser that succeeds ends
at the end of the text, with nothing ahead; the lexer, which then has given all its items and perhaps
the end again, is as deep as at the start. -/
theorem depth_counts_brackets (source : String) (l : Lexer)
    (start : l = .ofTemplate source ∨ l = .ofExpression source) :
    (∀ n, let given := l.results n
      countOf TokenKind.closes given ≤ l.depth + countOf TokenKind.opens given ∧
      (l.after n).depth =
        l.depth + countOf TokenKind.opens given - countOf TokenKind.closes given) ∧
    (∀ n, ((l.after n).mode = .text ↔ (l.after n).depth = 0) ∧
      ((l.after n).mode = .expression ↔ (l.after n).depth = 1) ∧
      ((l.after n).mode = .braces ↔ 2 ≤ (l.after n).depth)) ∧
    ∀ s s', TokenStream.ofLexer l = .ok s →
      ((∃ t, Parser.template s = .ok (t, s')) ∨ ∃ e, Parser.standalone s = .ok (e, s')) →
      s'.current.kind = .endOfText ∧ s'.items = [.ok s'.current] ∧
        ∀ n, l.items.length ≤ n → (l.after n).depth = l.depth := by
  obtain ⟨nested, fresh⟩ : l.Nested ∧ l.suffixPending = false := by
    rcases start with rfl | rfl
    · exact ⟨.inl rfl, rfl⟩
    · exact ⟨.inr ⟨0, rfl⟩, rfl⟩
  refine ⟨fun n => ?_, fun n => (nested.after n).mode_iff, ?_⟩
  · have counts := nested.depth_after n
    dsimp only
    omega
  · intro s s' stream ran
    obtain ⟨whole, items⟩ := TokenStream.whole_ofLexer fresh stream
    have run : BalancedRun s s' := by
      rcases ran with ⟨t, ran⟩ | ⟨e, ran⟩
      · exact runsBalanced_template whole t s' ran
      · exact runsBalanced_standalone whole e s' ran
    exact ⟨run.final, run.depth nested items⟩

/-- A set in a template, which the parser closes later than the lexer does. -/
theorem depth_counts_brackets_set :
    let l := Lexer.ofTemplate "a$\x7b\x7b1\x7d\x7d"
    (l.after 3).mode = .braces ∧ (l.after 5).depth = 1 ∧
      ∃ s t s', TokenStream.ofLexer l = .ok s ∧ Parser.template s = .ok (t, s') ∧
        s'.current.kind = .endOfText ∧ ∀ n, 7 ≤ n → (l.after n).depth = 0 := by
  intro l
  let a : Token := ⟨.literalText, "a", ⟨0, 1, 1⟩⟩
  let ahead : List Token := [⟨.startDynamic, "$\x7b", ⟨1, 1, 2⟩⟩, ⟨.openBrace, "\x7b", ⟨3, 1, 4⟩⟩,
    ⟨.integer, "1", ⟨4, 1, 5⟩⟩, ⟨.closeBrace, "\x7d", ⟨5, 1, 6⟩⟩, ⟨.closeBrace, "\x7d", ⟨6, 1, 7⟩⟩,
    .atEnd ⟨7, 1, 8⟩]
  have items : l.items = .ok a :: ahead.map .ok := by decide +kernel
  have stream : TokenStream.ofLexer l = .ok ⟨a, ahead.map .ok⟩ := TokenStream.ofLexer_of_items items
  obtain ⟨counts, -, parsed⟩ := depth_counts_brackets "a$\x7b\x7b1\x7d\x7d" l (.inl rfl)
  have braces : (l.after 3).mode = .braces := by decide +kernel
  have one : (l.after 5).depth = 1 := by
    rw [(counts 5).2]
    decide +kernel
  have succeeds : (Parser.template ⟨a, ahead.map .ok⟩).toOption.isSome = true := by decide +kernel
  cases read : Parser.template ⟨a, ahead.map .ok⟩ with
  | error h => simp [read, Except.toOption] at succeeds
  | ok r =>
    obtain ⟨t, s'⟩ := r
    obtain ⟨final, -, ends⟩ := parsed _ _ stream (.inl ⟨t, read⟩)
    refine ⟨braces, one, _, t, s', stream, read, final, fun n le => ?_⟩
    exact (ends n (by rw [items]; exact le)).trans rfl

end ExprLang
