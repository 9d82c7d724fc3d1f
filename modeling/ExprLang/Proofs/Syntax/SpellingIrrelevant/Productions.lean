import ExprLang.Proofs.Syntax.SpellingIrrelevant.Combinators
import ExprLang.Proofs.Syntax.TokensKept.Productions

/-!
# Spelling and place do not matter to the grammar

Every production gives the same tree, or fails in the same way, on streams whose tokens are related.
It comes to an end with every budget in proportion to the tokens ahead, and what it gives depends on
the budget no further. **Key theorems**: `InStep.production`, for a level and the levels that it asks,
and `Agrees.parseAll`, for the tokens of two whole texts.
-/

namespace ExprLang

/-- What an operator stands for does not depend on its spelling. -/
theorem Level.operator?_spelled (level : Level) (op : DualOperator) (x x' : Spelling) :
    level.operator? (.operator op x) = level.operator? (.operator op x') := by
  cases level <;> cases op <;> rfl

theorem UnaryOp.ofToken?_spelled (op : DualOperator) (x x' : Spelling) :
    UnaryOp.ofToken? (.operator op x) = UnaryOp.ofToken? (.operator op x') := by
  cases op <;> rfl

namespace Parser

/-- What a level reads if its parts are read by `parts`, with a budget for its loop. -/
def production (budget : Nat) (parts : Level → Parser Expr) : Level → Parser Expr
  | .sequence => sequence budget (parts .assignment)
  | .assignment => assignment (parts .lambda) (parts .assignment)
  | .lambda => lambda (parts .lambda) (parts .conditional)
  | .conditional => conditional (parts .disjunction) (parts .conditional)
  | .unary => unary (parts .unary) (parts .access)
  | .access => do
    let object ← parts .primary
    accesses (parts .sequence) (parts .assignment) budget object
  | .primary => primary budget (parts .sequence) (parts .assignment)
  | level => do
    let left ← parts level.operand
    operators level (parts level.operand) budget left

/-- The levels of the grammar are tied together by their productions. -/
theorem expr_succ (budget : Nat) (level : Level) :
    expr (budget + 1) level = production budget (expr budget) level := by
  cases level <;> rfl

/-- One part of a template and what `more` reads behind it, if its expressions are read by `whole`. -/
def templateRound (whole : Parser Expr)
    (more : Option EvalMode → Parser (List TemplatePart × Option EvalMode))
    (seen : Option EvalMode) : Parser (List TemplatePart × Option EvalMode) := do
  let token ← current
  match token.kind with
  | .endOfText => return ([], seen)
  | .literalText =>
    advance
    let (parts, mode) ← more seen
    return (.text token.lexeme :: parts, mode)
  | kind =>
    match modeOf? kind with
    | none => unexpected .templatePart
    | some mode =>
      if seen.all (· == mode) then
        advance
        let e ← whole
        expect .closeBrace
        let (parts, mode) ← more (some mode)
        return (.expression e :: parts, mode)
      else
        fail (.mixedModes token.position)

theorem templateParts_succ (budget : Nat) (seen : Option EvalMode) :
    templateParts (budget + 1) seen =
      templateRound (expr budget .sequence) (templateParts budget) seen :=
  rfl

end Parser

namespace InStep

variable {T : Token → Token → Prop} {E : ParseError → ParseError → Prop}
  {text : List (Except ParseError Token)} {P : TokenStream → Prop} {N : Int} {α : Type}

variable (L : ParserKeeps T E) (ended : Ended text)
include L ended

/-! ### Lists -/

theorem itemsUntil {close : TokenKind} {item item' : Parser Expr} (plain : close.isDual = false)
    (notEnd : close ≠ .endOfText) (h : InStep T E text Anywhere N 1 Eq item item')
    {budget budget' : Nat} (enough : N < budget) (enough' : N < budget') :
    InStep T E text P N 1 Eq (Parser.itemsUntil close item budget)
      (Parser.itemsUntil close item' budget') := by
  induction budget generalizing P N budget' with
  | zero => exact of_neg (by omega)
  | succ budget ih =>
    cases budget' with
    | zero => exact of_neg (by omega)
    | succ budget' =>
      have others (first : Expr) : InStep T E text Anywhere (N - 1) 1 Eq
          (Parser.itemsUntil close item budget >>= fun es => Pure.pure (first :: es))
          (Parser.itemsUntil close item' budget' >>= fun es => Pure.pure (first :: es)) :=
        bind_eq (ih (h.mono (by omega)) (by omega) (by omega)) fun es => pure rfl
      refine at? L plain (advance_kind ended notEnd (pure rfl)) ?_
      refine bind_eq h fun first => any (at? L plain (others first).weaken ?_)
      exact expect_bind L ended rfl (by decide) ((others first).mono (by omega)).any

theorem itemsAfter {separator : TokenKind} {item item' : Parser α}
    (plain : separator.isDual = false) (notEnd : separator ≠ .endOfText)
    (h : InStep T E text Anywhere (N - 1) 1 Eq item item') {budget budget' : Nat}
    (enough : N < budget) (enough' : N < budget') :
    InStep T E text P N 0 Eq (Parser.itemsAfter separator item budget)
      (Parser.itemsAfter separator item' budget') := by
  induction budget generalizing P N budget' with
  | zero => exact of_neg (by omega)
  | succ budget ih =>
    cases budget' with
    | zero => exact of_neg (by omega)
    | succ budget' =>
      refine at? L plain (any (advance_kind ended notEnd ?_)) (pure rfl)
      refine any (bind_eq h fun first => ?_)
      exact bind_eq (ih (h.mono (by omega)) (by omega) (by omega)) fun more => pure rfl

theorem arguments {item item' : Parser Expr} (h : InStep T E text Anywhere (N - 1) 1 Eq item item')
    {budget budget' : Nat} (enough : N ≤ budget) (enough' : N ≤ budget') :
    InStep T E text P N 1 Eq (Parser.arguments budget item) (Parser.arguments budget' item') :=
  expect_bind L ended rfl (by decide)
    (itemsUntil L ended rfl (by decide) h (by omega) (by omega)).any

theorem typeName {budget budget' : Nat} (enough : N < budget) (enough' : N < budget') :
    InStep T E text P N 1 Eq (Parser.typeName budget) (Parser.typeName budget') := by
  refine bind_eq (identifier L ended) fun first => ?_
  have names := identifier (N := N - 1 - 1) (P := Anywhere) L ended
  exact bind_eq (itemsAfter L ended rfl (by decide) names (by omega) (by omega)) fun more => pure rfl

/-! ### Levels without a loop -/

section Levels

variable {p p' q q' : Parser Expr}

theorem sequence (h : InStep T E text Anywhere N 1 Eq p p') {budget budget' : Nat}
    (enough : N < budget) (enough' : N < budget') :
    InStep T E text P N 1 Eq (Parser.sequence budget p) (Parser.sequence budget' p') := by
  refine bind_eq h.weaken fun first => ?_
  refine bind_eq ?_ fun more => pure rfl
  exact itemsAfter L ended rfl (by decide) (h.mono (by omega)) (by omega) (by omega)

theorem assignment (hp : InStep T E text Anywhere N 1 Eq p p')
    (hq : InStep T E text Anywhere (N - 1) 1 Eq q q') :
    InStep T E text P N 1 Eq (Parser.assignment p q) (Parser.assignment p' q') := by
  refine bind_eq hp.weaken fun left => current L (fun kind lexeme at_ at' token => ?_)
    fun _ _ _ _ _ _ _ => pure rfl
  by_cases assign : kind = .assign
  · simp only [if_pos assign]
    split
    · refine any (advance_at ended (t := ⟨kind, lexeme, at_⟩) (by simp [assign]) ?_)
      exact any (bind_eq (hq.mono (by omega)) fun value => pure rfl)
    · exact fail (L.invalidTarget token)
  · simp only [if_neg assign]
    exact pure rfl

theorem lambda (hp : InStep T E text Anywhere (N - 1) 1 Eq p p')
    (hq : InStep T E text Anywhere N 1 Eq q q') :
    InStep T E text P N 1 Eq (Parser.lambda p q) (Parser.lambda p' q') := by
  refine look (fun s s' like => like.lambdaHeader? L) fun found found' same => ?_
  cases same with
  | none => exact hq.weaken
  | @some head head' both =>
    obtain ⟨params, onArrow⟩ := head
    obtain ⟨params', onArrow'⟩ := head'
    obtain ⟨(rfl : params = params'), like⟩ := both
    have after : InStep T E text Anywhere N 1 Eq
        (Parser.expect .arrow >>= fun _ => p >>= fun body => Pure.pure (Expr.lambda params body))
        (Parser.expect .arrow >>= fun _ => p' >>= fun body => Pure.pure (Expr.lambda params body)) :=
      expect_bind L ended rfl (by decide) (any (bind_eq hp fun body => pure rfl))
    refine (set_bind like after).restrict fun s looked => ?_
    obtain ⟨ts, items, -⟩ := Tallies.lambdaHeader?_passed looked.2 Tally.start
    exact ⟨_, items.symm⟩

theorem conditional (hp : InStep T E text Anywhere N 1 Eq p p')
    (hq : InStep T E text Anywhere (N - 1) 1 Eq q q') :
    InStep T E text P N 1 Eq (Parser.conditional p q) (Parser.conditional p' q') := by
  refine bind_eq hp.weaken fun test => at? L rfl (any (advance_kind ended (by decide) ?_)) (pure rfl)
  refine any (bind_eq (hq.mono (by omega)) fun yes => any (expect_bind L ended rfl (by decide) ?_))
  exact any (bind_eq (hq.mono (by omega)) fun no => pure rfl)

theorem unary (hp : InStep T E text Anywhere (N - 1) 1 Eq p p')
    (hq : InStep T E text Anywhere N 1 Eq q q') :
    InStep T E text P N 1 Eq (Parser.unary p q) (Parser.unary p' q') := by
  have operation {t : Token} (op : UnaryOp) (notEnd : t.kind ≠ .endOfText) :
      InStep T E text (fun s => s.current = t) N 1 Eq
        (Parser.advance >>= fun _ => p >>= fun operand => Pure.pure (Expr.unary op operand))
        (Parser.advance >>= fun _ => p' >>= fun operand => Pure.pure (Expr.unary op operand)) :=
    advance_at ended notEnd (any (bind_eq hp fun operand => pure rfl))
  refine current L (fun kind lexeme at_ at' _ => ?_) fun op x x' lexeme _ at_ _ => ?_
  · dsimp only
    split
    · exact hq.weaken
    · rename_i op found
      refine operation op (t := ⟨kind, lexeme, at_⟩) ?_
      rintro (rfl : kind = .endOfText)
      cases found
  · dsimp only
    rw [UnaryOp.ofToken?_spelled op x x']
    split
    · exact hq.weaken
    · exact operation _ (by simp)

end Levels

/-! ### Levels with a loop -/

theorem operators {operand operand' : Parser Expr}
    (h : InStep T E text Anywhere (N - 1) 1 Eq operand operand') (level : Level)
    {budget budget' : Nat} (enough : N < budget) (enough' : N < budget') (left : Expr) :
    InStep T E text P N 0 Eq (Parser.operators level operand budget left)
      (Parser.operators level operand' budget' left) := by
  induction budget generalizing P N budget' left with
  | zero => exact of_neg (by omega)
  | succ budget ih =>
    cases budget' with
    | zero => exact of_neg (by omega)
    | succ budget' =>
      have operation {t : Token} (op : BinaryOp) (notEnd : t.kind ≠ .endOfText) :
          InStep T E text (fun s => s.current = t) N 0 Eq
            (Parser.advance >>= fun _ => operand >>= fun right =>
              Parser.operators level operand budget (.binary op left right))
            (Parser.advance >>= fun _ => operand' >>= fun right =>
              Parser.operators level operand' budget' (.binary op left right)) := by
        refine any (advance_at ended notEnd (any (bind_eq h fun right => ?_)))
        exact ih (h.mono (by omega)) (by omega) (by omega) _
      refine current L (fun kind lexeme at_ at' _ => ?_) fun op x x' lexeme _ at_ _ => ?_
      · dsimp only
        split
        · rename_i instance'
          refine any (advance_at ended (t := ⟨kind, lexeme, at_⟩) (by simp [instance'.2]) ?_)
          refine any (bind_eq (typeName L ended (by omega) (by omega)) fun name => ?_)
          exact ih (h.mono (by omega)) (by omega) (by omega) _
        · split
          · exact pure rfl
          · rename_i op found
            refine operation op (t := ⟨kind, lexeme, at_⟩) ?_
            rintro (rfl : kind = .endOfText)
            cases level <;> cases found
      · have other (y : Spelling) : ¬(level = .relation ∧ TokenKind.operator op y = .instanceOf) :=
          fun both => TokenKind.noConfusion both.2
        dsimp only
        rw [if_neg (other x), if_neg (other x'), level.operator?_spelled op x x']
        split
        · exact pure rfl
        · exact operation _ (by simp)

theorem accesses {whole whole' item item' : Parser Expr}
    (hw : InStep T E text Anywhere (N - 1) 1 Eq whole whole')
    (hi : InStep T E text Anywhere (N - 1) 1 Eq item item') {budget budget' : Nat}
    (enough : N < budget) (enough' : N < budget') (object : Expr) :
    InStep T E text P N 0 Eq (Parser.accesses whole item budget object)
      (Parser.accesses whole' item' budget' object) := by
  induction budget generalizing P N budget' object with
  | zero => exact of_neg (by omega)
  | succ budget ih =>
    cases budget' with
    | zero => exact of_neg (by omega)
    | succ budget' =>
      have later {M : Int} (fewer : M ≤ N - 1) (object : Expr) : InStep T E text Anywhere M 0 Eq
          (Parser.accesses whole item budget object)
          (Parser.accesses whole' item' budget' object) :=
        ih (hw.mono (by omega)) (hi.mono (by omega)) (by omega) (by omega) object
      refine current L (fun kind lexeme at_ at' _ => ?_) fun _ _ _ _ _ _ _ => pure rfl
      dsimp only
      split
      · refine any (advance_at ended (t := ⟨_, lexeme, at_⟩) (by simp) ?_)
        refine any (bind_eq (identifier L ended) fun name => ?_)
        refine at? L rfl ?_ (later (by omega) _)
        refine any (k := 1) (bind_eq ?_ fun args => later (by omega) _)
        exact arguments L ended (hi.mono (by omega)) (by omega) (by omega)
      · refine any (advance_at ended (t := ⟨_, lexeme, at_⟩) (by simp) ?_)
        refine any (bind_eq hw fun key => any (expect_bind L ended rfl (by decide) ?_))
        exact later (by omega) _
      · refine any (k := 1) (bind_eq ?_ fun args => later (by omega) _)
        exact arguments L ended hi (by omega) (by omega)
      · exact pure rfl

/-! ### Primary expressions -/

section Primary

variable {whole whole' item item' : Parser Expr} {budget budget' : Nat}

theorem unqualified (hi : InStep T E text Anywhere (N - 1) 1 Eq item item') (enough : N < budget)
    (enough' : N < budget') :
    InStep T E text P N 1 Eq (Parser.unqualified budget item)
      (Parser.unqualified budget' item') := by
  refine bind_eq (identifier L ended) fun first => at? L rfl ?_ (pure rfl)
  refine any (k := 1) (bind_eq ?_ fun args => pure rfl)
  exact arguments L ended (hi.mono (by omega)) (by omega) (by omega)

theorem qualifiedCall (hi : InStep T E text Anywhere (N - 1) 1 Eq item item') (enough : N < budget)
    (enough' : N < budget') (qualifier suffix : String) :
    InStep T E text P N 1 Eq (Parser.qualifiedCall qualifier suffix budget item)
      (Parser.qualifiedCall qualifier suffix budget' item') :=
  bind_eq (arguments L ended hi (by omega) (by omega)) fun _ => pure rfl

theorem name (hi : InStep T E text Anywhere (N - 1) 1 Eq item item') (enough : N < budget)
    (enough' : N < budget') :
    InStep T E text P N 1 Eq (Parser.name budget item) (Parser.name budget' item') := by
  intro s s' _ there le like
  have alike := L.alike like.current
  obtain ⟨qualified, _, looked, looked', rfl⟩ | ⟨e, e', looked, looked', error⟩ :=
    (like.suffixAhead? L).ok_or_error
  · by_cases kind : s.current.kind = .identifier
    · have kind' : s'.current.kind = .identifier := (alike.kind_eq_iff rfl).mp kind
      cases qualified with
      | false =>
        rw [Parser.name_unqualified looked, Parser.name_unqualified looked']
        exact unqualified (P := Anywhere) L ended hi enough enough' s s' trivial there le like
      | true =>
        obtain ⟨colon, suffix, more, ahead, -, suffixKind, run⟩ :=
          Parser.name_qualified budget item kind looked
        obtain ⟨colon', suffix', more', ahead', -, -, run'⟩ :=
          Parser.name_qualified budget' item' kind' looked'
        have items := like.ahead
        rw [ahead, ahead'] at items
        obtain ⟨-, behind⟩ := List.forall₂_cons.mp items
        obtain ⟨tokens, rest⟩ := List.forall₂_cons.mp behind
        cases tokens with
        | ok token =>
          -- no operator has the kind of a suffix, so that the function is the same on both sides
          have function : suffix.lexeme = suffix'.lexeme :=
            (L.alike token).lexeme (by rw [suffixKind]; rfl)
          have qualifier : s.current.lexeme = s'.current.lexeme :=
            alike.lexeme (by rw [kind]; rfl)
          have onSuffix : (TokenStream.mk suffix more).items <:+ s.items :=
            ⟨[.ok s.current, .ok colon], by rw [TokenStream.items, TokenStream.items, ahead]; rfl⟩
          have fewer : s.ahead.length = more.length + 2 := by rw [ahead]; rfl
          have call : InStep T E text Anywhere (N - 1) 0 Eq
              (Parser.advance >>= fun _ =>
                Parser.qualifiedCall s.current.lexeme suffix.lexeme budget item)
              (Parser.advance >>= fun _ =>
                Parser.qualifiedCall s.current.lexeme suffix.lexeme budget' item') :=
            bind_eq move fun _ => any
              (qualifiedCall L ended (hi.mono (by omega)) (by omega) (by omega) _ _)
          rw [run, run', ← function, ← qualifier]
          refine (call _ _ trivial (onSuffix.trans there) ?_ ⟨token, rest⟩).imp fun r r' ends => ?_
          · simp only
            omega
          · have taken := ends.taken
            exact ⟨ends.result, ends.like, ends.rest.trans onSuffix, by simp only at taken; omega⟩
    · have kind' : s'.current.kind ≠ .identifier := mt (alike.kind_eq_iff rfl).mpr kind
      rw [Parser.name_of_other kind looked, Parser.name_of_other kind' looked']
      exact .error (.error (L.unexpected _ like.current))
  · rw [Parser.name_of_error looked, Parser.name_of_error looked']
    exact .error (.error error)

theorem mapAfterKey (hi : InStep T E text Anywhere (N - 1) 1 Eq item item') (enough : N < budget)
    (enough' : N < budget') (key : Expr) :
    InStep T E text P N 1 Eq (Parser.mapAfterKey budget item key)
      (Parser.mapAfterKey budget' item' key) := by
  have entry : InStep T E text Anywhere (N - 1 - 1 - 1) 1 Eq
      (item >>= fun k => Parser.expect .colon >>= fun _ => item >>= fun v => Pure.pure (k, v))
      (item' >>= fun k => Parser.expect .colon >>= fun _ => item' >>= fun v => Pure.pure (k, v)) := by
    refine bind_eq (hi.mono (by omega)) fun k => any (expect_bind L ended rfl (by decide) ?_)
    exact any (bind_eq (hi.mono (by omega)) fun v => pure rfl)
  refine expect_bind L ended rfl (by decide) (any (bind_eq hi fun value => ?_))
  refine bind_eq (itemsAfter L ended rfl (by decide) entry (by omega) (by omega)) fun more => ?_
  exact any (expect_bind L ended rfl (by decide) (pure rfl))

theorem braces (hi : InStep T E text Anywhere N 1 Eq item item') (enough : N < budget)
    (enough' : N < budget') :
    InStep T E text P N 1 Eq (Parser.braces budget item) (Parser.braces budget' item') := by
  refine at? L rfl (advance_kind ended (by decide) (pure rfl)) ?_
  refine bind_eq hi fun first => at? L rfl ?_ ?_
  · exact any (mapAfterKey L ended (hi.mono (by omega)) (by omega) (by omega) first)
  · refine bind_eq ?_ fun more => any (expect_bind L ended rfl (by decide) (pure rfl))
    exact itemsAfter L ended rfl (by decide) (hi.mono (by omega)) (by omega) (by omega)

theorem primary (hw : InStep T E text Anywhere (N - 1) 1 Eq whole whole')
    (hi : InStep T E text Anywhere (N - 1) 1 Eq item item') (enough : N < budget)
    (enough' : N < budget') :
    InStep T E text P N 1 Eq (Parser.primary budget whole item)
      (Parser.primary budget' whole' item') := by
  refine current L (fun kind lexeme at_ at' token => ?_) fun _ _ _ _ _ _ _ => unexpected L _
  dsimp only
  split
  · exact advance_at ended (by simp) (pure rfl)
  · refine advance_at ended (by simp) ?_
    split
    · exact pure rfl
    · exact fail (L.invalidNumber rfl token)
  · exact advance_at ended (by simp) (pure rfl)
  · exact advance_at ended (by simp) (pure rfl)
  · exact advance_at ended (by simp) (pure rfl)
  · exact name L ended hi enough enough'
  · refine advance_at ended (by simp) ?_
    exact any (bind_eq (identifier L ended) fun name => pure rfl)
  · refine advance_at ended (by simp) ?_
    exact any (bind_eq hw fun e => any (expect_bind L ended rfl (by decide) (pure rfl)))
  · refine advance_at ended (by simp) (any (k := 1) (bind_eq ?_ fun es => pure rfl))
    exact itemsUntil L ended rfl (by decide) hi (by omega) (by omega)
  · exact advance_at ended (by simp) (any (braces L ended hi (by omega) (by omega)))
  · exact unexpected L _

end Primary

/-! ### The grammar -/

/-- A level asks tighter levels where it stands, and all levels behind a token that it has taken. If
these keep in step there, so does the level. -/
theorem production {parts parts' : Level → Parser Expr} {budget budget' : Nat} {level : Level}
    (enough : N < budget) (enough' : N < budget')
    (tighter : ∀ part, level.rank < part.rank →
      InStep T E text Anywhere N 1 Eq (parts part) (parts' part))
    (behind : ∀ part, InStep T E text Anywhere (N - 1) 1 Eq (parts part) (parts' part)) :
    InStep T E text P N 1 Eq (Parser.production budget parts level)
      (Parser.production budget' parts' level) := by
  have loop (operand : Level) (tight : level.rank < operand.rank) : InStep T E text P N 1 Eq
      (parts operand >>= fun left => Parser.operators level (parts operand) budget left)
      (parts' operand >>= fun left => Parser.operators level (parts' operand) budget' left) := by
    refine bind_eq (tighter operand tight).weaken fun left => ?_
    exact operators L ended ((behind operand).mono (by omega)) level (by omega) (by omega) left
  cases level with
  | sequence => exact sequence L ended (tighter .assignment (by decide)) enough enough'
  | assignment => exact assignment L ended (tighter .lambda (by decide)) (behind .assignment)
  | lambda => exact lambda L ended (behind .lambda) (tighter .conditional (by decide))
  | conditional => exact conditional L ended (tighter .disjunction (by decide)) (behind .conditional)
  | unary => exact unary L ended (behind .unary) (tighter .access (by decide))
  | access =>
    refine bind_eq (tighter .primary (by decide)).weaken fun object => ?_
    exact accesses L ended ((behind .sequence).mono (by omega))
      ((behind .assignment).mono (by omega)) (by omega) (by omega) object
  | primary => exact primary L ended (behind .sequence) (behind .assignment) enough enough'
  | _ => exact loop _ (by decide)

/-- At every level the parser gives the same on streams that are alike, with all budgets that are more
than the number of levels for each token. -/
theorem expr {budget budget' : Nat} {level : Level} (enough : 16 * N + 15 ≤ budget + level.rank)
    (enough' : 16 * N + 15 ≤ budget' + level.rank) :
    InStep T E text P N 1 Eq (Parser.expr budget level) (Parser.expr budget' level) := by
  have low : level.rank ≤ 13 := level.rank_le
  induction budget generalizing P N budget' level with
  | zero => exact of_neg (by omega)
  | succ budget ih =>
    cases budget' with
    | zero => exact of_neg (by omega)
    | succ budget' =>
      rw [Parser.expr_succ, Parser.expr_succ]
      refine production L ended (by omega) (by omega) (fun part tight => ?_) fun part => ?_
      · exact ih (by omega) (by omega) part.rank_le
      · exact ih (by omega) (by omega) part.rank_le

/-! ### Templates -/

/-- A template asks for an expression and for its further parts behind a token that it has taken. -/
theorem templateRound {whole whole' : Parser Expr}
    {more more' : Option EvalMode → Parser (List TemplatePart × Option EvalMode)}
    (hw : InStep T E text Anywhere (N - 1) 1 Eq whole whole')
    (hm : ∀ seen, InStep T E text Anywhere (N - 1) 0 Eq (more seen) (more' seen))
    (seen : Option EvalMode) :
    InStep T E text P N 0 Eq (Parser.templateRound whole more seen)
      (Parser.templateRound whole' more' seen) := by
  refine current L (fun kind lexeme at_ at' token => ?_) fun _ _ _ _ _ _ _ => unexpected L _
  dsimp only
  split
  · exact pure rfl
  · refine any (advance_at ended (t := ⟨_, lexeme, at_⟩) (by simp) ?_)
    exact bind_eq ((hm seen).mono (by omega)) fun parts => pure rfl
  · split
    · exact unexpected L _
    · split
      · rename_i notEnd _ _ _ _ _
        refine any (advance_at ended (t := ⟨kind, lexeme, at_⟩) notEnd ?_)
        refine any (bind_eq hw fun e => any (expect_bind L ended rfl (by decide) ?_))
        exact bind_eq ((hm _).mono (by omega)) fun parts => pure rfl
      · exact fail (L.mixedModes token)

theorem templateParts {budget budget' : Nat} (enough : 16 * N + 15 ≤ budget)
    (enough' : 16 * N + 15 ≤ budget') (seen : Option EvalMode) :
    InStep T E text P N 0 Eq (Parser.templateParts budget seen)
      (Parser.templateParts budget' seen) := by
  induction budget generalizing P N budget' seen with
  | zero => exact of_neg (by omega)
  | succ budget ih =>
    cases budget' with
    | zero => exact of_neg (by omega)
    | succ budget' =>
      rw [Parser.templateParts_succ, Parser.templateParts_succ]
      refine templateRound L ended (expr L ended (by omega) (by omega)) (fun seen => ?_) seen
      exact ih (by omega) (by omega) seen

end InStep

/-! ### Whole texts -/

section Texts

variable {T : Token → Token → Prop} {E : ParseError → ParseError → Prop} {α : Type}

/-- The number of tokens ahead is the same, and a text is a rest of itself. -/
theorem Agrees.of_budget {f : Nat → Parser α}
    (h : ∀ s : TokenStream, Ended s.items →
      InStep T E s.items Anywhere s.ahead.length 0 Eq (f (Parser.budgetFor s))
        (f (Parser.budgetFor s))) :
    Agrees T E (get >>= fun s => f (Parser.budgetFor s)) := by
  intro s s' ended like
  have budgets : Parser.budgetFor s = Parser.budgetFor s' := by
    rw [Parser.budgetFor, Parser.budgetFor, like.ahead.length_eq]
  show ExceptRel _ _ (f (Parser.budgetFor s) s) (f (Parser.budgetFor s') s')
  rw [← budgets]
  exact h s ended s s' trivial (List.suffix_refl _) (Int.le_refl _) like

namespace InStep

variable (L : ParserKeeps T E)
include L

theorem standalone : Agrees T E Parser.standalone := by
  refine Agrees.of_budget (f := fun budget => Parser.expr budget .sequence >>= fun e =>
    Parser.expect .endOfText >>= fun _ => Pure.pure e) fun s ended => ?_
  have enough : (16 * s.ahead.length + 15 : Int) ≤ Parser.budgetFor s := by
    rw [Parser.budgetFor]
    omega
  refine any (bind_eq (expr L ended (by omega) (by omega)) fun e => ?_)
  exact bind_eq (expect_any L rfl) fun _ => pure rfl

theorem template : Agrees T E Parser.template := by
  refine Agrees.of_budget (f := fun budget => Parser.templateParts budget none >>= fun parts =>
    Pure.pure (Template.mk parts.1 parts.2)) fun s ended => ?_
  have enough : (16 * s.ahead.length + 15 : Int) ≤ Parser.budgetFor s := by
    rw [Parser.budgetFor]
    omega
  exact bind_eq (templateParts L ended (by omega) (by omega) none) fun parts => pure rfl

end InStep

theorem TokenStream.rel_ofLexer {l l' : Lexer} (like : ItemsRel T E l.items l'.items) :
    ExceptRel E (TokenStream.Rel T E) (TokenStream.ofLexer l) (TokenStream.ofLexer l') := by
  have some : l.items ≠ [] := l.items_ne_nil
  unfold TokenStream.ofLexer
  revert like some
  generalize l.items = items
  generalize l'.items = items'
  intro like some
  cases like with
  | nil => exact absurd rfl some
  | cons first rest =>
    cases first with
    | ok token => exact .ok ⟨token, rest⟩
    | error e => exact .error e

/-- What a parser gives for whole texts whose tokens are related one by one. -/
theorem Agrees.parseAll {p : Parser α} (h : Agrees T E p) {l l' : Lexer}
    (like : ItemsRel T E l.items l'.items) :
    ExceptRel (FailsWith E) Eq (p.parseAll l) (p.parseAll l') := by
  obtain ⟨s, s', stream, stream', like⟩ | ⟨e, e', stream, stream', error⟩ :=
    (TokenStream.rel_ofLexer like).ok_or_error
  · have ended : Ended s.items := TokenStream.items_ofLexer stream ▸ l.ended_items
    unfold Parser.parseAll
    rw [stream, stream']
    exact (h s s' ended like).map fun r r' ends => ends.result
  · unfold Parser.parseAll
    rw [stream, stream']
    exact .error (.error error)

end Texts

end ExprLang
