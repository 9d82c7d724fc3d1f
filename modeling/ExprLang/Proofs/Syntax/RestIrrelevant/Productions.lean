import ExprLang.Proofs.Syntax.RestIrrelevant.Combinators
import ExprLang.Proofs.Syntax.TokensKept.Productions

/-!
# What comes behind an expression does not matter

Every production mirrors itself with another budget, if that is in proportion to the tokens it may
take. **Key theorem**: `Mirrors.expr`. An expression is read in the same way whatever comes behind
it, be it the end of a text or a brace that was not opened in it.
-/

namespace ExprLang

namespace Mirrors

variable {z z' : TokenStream} {P : TokenStream → Prop} {N : Int} {α : Type}

section Productions

variable (places : Places z z')
include places

/-! ### Lists -/

theorem itemsUntil {close : TokenKind} {item item' : Parser Expr}
    (notEnd : close ≠ .endOfText) (h : Mirrors z z' Anywhere N 1 item item') (budget : Nat)
    {budget' : Nat} (enough : N < budget') :
    Mirrors z z' P N 1 (Parser.itemsUntil close item budget)
      (Parser.itemsUntil close item' budget') := by
  induction budget generalizing P N budget' with
  | zero => exact exhausted
  | succ budget ih =>
    refine .budget (Parser.itemsUntil close item') (by omega) fun c le => ?_
    have others (first : Expr) : Mirrors z z' Anywhere (N - 1) 1
        (Parser.itemsUntil close item budget >>= fun es => Pure.pure (first :: es))
        (Parser.itemsUntil close item' c >>= fun es => Pure.pure (first :: es)) :=
      bind (ih (h.mono (by omega)) (by omega)) fun es => pure _
    refine at?_taking (advance_kind places notEnd (pure [])) ?_
    refine bind h fun first => any (at?_taking (others first).weaken ?_)
    exact expect_bind places (by decide) ((others first).mono (by omega)).any

theorem itemsAfter {separator : TokenKind} {item item' : Parser α}
    (notClosing : separator.isClosing = false) (h : Mirrors z z' Anywhere (N - 1) 1 item item')
    (budget : Nat) {budget' : Nat} (enough : N < budget') :
    Mirrors z z' P N 0 (Parser.itemsAfter separator item budget)
      (Parser.itemsAfter separator item' budget') := by
  have notEnd : separator ≠ .endOfText := (TokenKind.ne_of_isClosing rfl notClosing).symm
  induction budget generalizing P N budget' with
  | zero => exact exhausted
  | succ budget ih =>
    refine .budget (Parser.itemsAfter separator item') (by omega) fun c le => ?_
    refine at? places notClosing (any (advance_kind places notEnd ?_)) (pure [])
    refine any (bind h fun first => ?_)
    exact bind (ih (h.mono (by omega)) (by omega)) fun more => pure _

theorem arguments {item item' : Parser Expr} (h : Mirrors z z' Anywhere (N - 1) 1 item item')
    (budget : Nat) {budget' : Nat} (enough : N ≤ budget') :
    Mirrors z z' P N 1 (Parser.arguments budget item) (Parser.arguments budget' item') :=
  expect_bind places (by decide) (itemsUntil places (by decide) h budget (by omega)).any

theorem typeName (budget : Nat) {budget' : Nat} (enough : N < budget') :
    Mirrors z z' P N 1 (Parser.typeName budget) (Parser.typeName budget') := by
  refine bind (identifier places) fun first => ?_
  exact bind (itemsAfter places rfl (identifier places) budget (by omega)) fun more => pure _

/-! ### Levels without a loop -/

section Levels

variable {p p' q q' : Parser Expr}

theorem sequence (h : Mirrors z z' Anywhere N 1 p p') (budget : Nat) {budget' : Nat}
    (enough : N < budget') :
    Mirrors z z' Anywhere N 1 (Parser.sequence budget p) (Parser.sequence budget' p') := by
  refine bind h fun first => ?_
  exact bind (itemsAfter places rfl (h.mono (by omega)) budget (by omega)) fun more => pure _

theorem assignment (hp : Mirrors z z' Anywhere N 1 p p')
    (hq : Mirrors z z' Anywhere (N - 1) 1 q q') :
    Mirrors z z' Anywhere N 1 (Parser.assignment p q) (Parser.assignment p' q') := by
  have ne (t : Token) (closing : t.kind.isClosing = true) : t.kind ≠ .assign :=
    TokenKind.ne_of_isClosing closing rfl
  refine bind hp fun left => current places (fun kind lexeme at_ at' => ?_)
    fun t t' closing closing' => ?_
  · by_cases assign : kind = .assign
    · simp only [if_pos assign]
      by_cases assignable : left.isAssignable = true
      · simp only [if_pos assignable]
        refine any (advance_at places (t := ⟨kind, lexeme, at_⟩) (by simp [assign]) ?_)
        exact any (bind (hq.mono (by omega)) fun value => pure _)
      · simp only [if_neg assignable]
        exact fail _
    · simp only [if_neg assign]
      exact pure left
  · simp only [if_neg (ne t closing), if_neg (ne t' closing')]
    exact pure left

theorem conditional (hp : Mirrors z z' Anywhere N 1 p p')
    (hq : Mirrors z z' Anywhere (N - 1) 1 q q') :
    Mirrors z z' Anywhere N 1 (Parser.conditional p q) (Parser.conditional p' q') := by
  refine bind hp fun test => at? places rfl (any (advance_kind places (by decide) ?_)) (pure test)
  refine any (bind (hq.mono (by omega)) fun yes => any (expect_bind places (by decide) ?_))
  exact any (bind (hq.mono (by omega)) fun no => pure _)

theorem unary (hp : Mirrors z z' Anywhere (N - 1) 1 p p') (hq : Mirrors z z' Anywhere N 1 q q') :
    Mirrors z z' Anywhere N 1 (Parser.unary p q) (Parser.unary p' q') := by
  have none (t : Token) (closing : t.kind.isClosing = true) : UnaryOp.ofToken? t.kind = none := by
    rcases TokenKind.isClosing_cases closing with kind | kind <;> rw [kind] <;> rfl
  refine current places (fun kind lexeme at_ at' => ?_) fun t t' closing closing' => ?_
  · dsimp only
    split
    · exact hq.weaken
    · rename_i op found
      have notEnd : kind ≠ .endOfText := by
        rintro rfl
        cases found
      refine advance_at places (t := ⟨kind, lexeme, at_⟩) notEnd ?_
      exact any (bind hp fun operand => pure _)
  · rw [none t closing, none t' closing']
    exact hq

theorem lambda (hp : Mirrors z z' Anywhere (N - 1) 1 p p') (hq : Mirrors z z' Anywhere N 1 q q') :
    Mirrors z z' Anywhere N 1 (Parser.lambda p q) (Parser.lambda p' q') := by
  have after (params : List String) : Mirrors z z' Anywhere N 1
      (Parser.expect .arrow >>= fun _ => p >>= fun body => Pure.pure (Expr.lambda params body))
      (Parser.expect .arrow >>= fun _ => p' >>= fun body => Pure.pure (Expr.lambda params body)) :=
    expect_bind places (by decide) (any (bind hp fun body => pure _))
  constructor
  · intro s e s' ran
    obtain ⟨found, between, looked, rest⟩ := Parser.of_bind ran
    obtain ⟨looked, rfl⟩ := Parser.of_look looked
    cases found with
    | none => exact hq.forward between e s' rest
    | some found =>
      obtain ⟨params, onArrow⟩ := found
      obtain ⟨ts, items, -⟩ := Tallies.lambdaHeader?_passed looked Tally.start
      obtain ⟨u, _, first, second⟩ := Parser.of_bind rest
      cases first
      exact ((after params).forward onArrow e s' second).trans ⟨_, items.symm⟩
  · intro n s u e s' _ le aligned ran stays
    obtain ⟨found, found', looked, looked', same⟩ := aligned.lambdaHeader? places
    obtain ⟨seen, between, look, rest⟩ := Parser.of_bind ran
    obtain ⟨look, rfl⟩ := Parser.of_look look
    cases look.symm.trans looked
    have look' := Parser.look_ok looked'
    cases same with
    | nothing =>
      obtain ⟨m, u', taken, ran', aligned⟩ :=
        hq.follows n between u e s' trivial le aligned rest stays
      exact ⟨m, u', taken, (Parser.bind_ok look').trans ran', aligned⟩
    | @parameters k params onArrow onArrow' fewer aligned =>
      obtain ⟨_, _, first, second⟩ := Parser.of_bind rest
      cases first
      obtain ⟨m, u', taken, ran', aligned⟩ :=
        (after params).follows k onArrow onArrow' e s' trivial (by omega) aligned second stays
      exact ⟨m, u', by omega, (Parser.bind_ok look').trans ran', aligned⟩

end Levels

/-! ### Levels with a loop -/

theorem operators {operand operand' : Parser Expr}
    (h : Mirrors z z' Anywhere (N - 1) 1 operand operand') (level : Level) (budget : Nat)
    {budget' : Nat} (enough : N < budget') (left : Expr) :
    Mirrors z z' Anywhere N 0 (Parser.operators level operand budget left)
      (Parser.operators level operand' budget' left) := by
  have ne (t : Token) (closing : t.kind.isClosing = true) : t.kind ≠ .instanceOf :=
    TokenKind.ne_of_isClosing closing rfl
  have none (t : Token) (closing : t.kind.isClosing = true) : level.operator? t.kind = none := by
    rcases TokenKind.isClosing_cases closing with kind | kind <;> rw [kind] <;> cases level <;> rfl
  induction budget generalizing N budget' left with
  | zero => exact exhausted
  | succ budget ih =>
    refine .budget (fun b => Parser.operators level operand' b left) (by omega) fun c le => ?_
    refine current places (fun kind lexeme at_ at' => ?_) fun t t' closing closing' => ?_
    · dsimp only
      split
      · rename_i instance'
        refine any (advance_at places (t := ⟨kind, lexeme, at_⟩) (by simp [instance'.2]) ?_)
        refine any (bind (typeName places budget (by omega)) fun name => ?_)
        exact ih (h.mono (by omega)) (by omega) _
      · split
        · exact pure left
        · rename_i op found
          have notEnd : kind ≠ .endOfText := by
            rintro rfl
            cases level <;> cases found
          refine any (advance_at places (t := ⟨kind, lexeme, at_⟩) notEnd ?_)
          refine any (bind h fun right => ?_)
          exact ih (h.mono (by omega)) (by omega) _
    · rw [none t closing, none t' closing', if_neg (fun h => ne t closing h.2),
        if_neg (fun h => ne t' closing' h.2)]
      exact pure left

theorem accesses {whole whole' item item' : Parser Expr}
    (hw : Mirrors z z' Anywhere (N - 1) 1 whole whole')
    (hi : Mirrors z z' Anywhere (N - 1) 1 item item') (budget : Nat) {budget' : Nat}
    (enough : N < budget') (object : Expr) :
    Mirrors z z' Anywhere N 0 (Parser.accesses whole item budget object)
      (Parser.accesses whole' item' budget' object) := by
  induction budget generalizing N budget' object with
  | zero => exact exhausted
  | succ budget ih =>
    refine .budget (fun b => Parser.accesses whole' item' b object) (by omega) fun c le => ?_
    refine current places (fun kind lexeme at_ at' => ?_) fun t t' closing closing' => ?_
    · dsimp only
      split
      · refine any (advance_at places (t := ⟨_, lexeme, at_⟩) (by simp) ?_)
        refine any (bind (identifier places) fun name => ?_)
        refine at? places rfl ?_ ?_
        · refine any (bind (arguments places (hi.mono (by omega)) budget (by omega)) fun args => ?_)
          exact ih (hw.mono (by omega)) (hi.mono (by omega)) (by omega) _
        · exact ih (hw.mono (by omega)) (hi.mono (by omega)) (by omega) _
      · refine any (advance_at places (t := ⟨_, lexeme, at_⟩) (by simp) ?_)
        refine any (bind hw fun key => any (expect_bind places (by decide) ?_))
        exact ih (hw.mono (by omega)) (hi.mono (by omega)) (by omega) _
      · refine any (bind (arguments places hi budget (by omega)) fun args => ?_)
        exact ih (hw.mono (by omega)) (hi.mono (by omega)) (by omega) _
      · exact pure object
    · obtain ⟨k, _, _⟩ := t
      obtain ⟨k', _, _⟩ := t'
      obtain rfl | rfl := TokenKind.isClosing_cases closing <;>
        obtain rfl | rfl := TokenKind.isClosing_cases closing' <;> exact pure object

/-! ### Primary expressions -/

section Primary

variable {whole whole' item item' : Parser Expr}

theorem name (hi : Mirrors z z' Anywhere (N - 1) 1 item item') (budget : Nat) {budget' : Nat}
    (enough : N < budget') :
    Mirrors z z' (fun s => s.current.kind = .identifier) N 1 (Parser.name budget item)
      (Parser.name budget' item') := by
  refine look (fun n s u kind aligned => aligned.suffixAhead? places kind) fun qualified => ?_
  cases qualified with
  | false =>
    refine bind (identifier places) fun first => at? places rfl ?_ (pure (Expr.identifier first))
    exact any (bind (arguments places (hi.mono (by omega)) budget (by omega)) fun args => pure _)
  | true =>
    -- the qualifier, then its colon, then the name of the function
    refine bind_at (R := fun _ s => BeforeSuffix s.items) (identifier places) ?_ fun first => ?_
    · intro s first s' ⟨kind, looked⟩ ran
      obtain ⟨-, -, moved⟩ := Parser.of_identifier ran
      obtain ⟨colon, suffix, more, ahead, kinds⟩ := TokenStream.beforeSuffix_of_suffixAhead? kind looked
      simp only [TokenStream.advance, ahead] at moved
      cases moved
      exact ⟨colon, suffix, more, rfl, kinds⟩
    have colon : ∀ s : TokenStream, BeforeSuffix s.items → s.current.kind ≠ .endOfText := by
      rintro s ⟨colon, suffix, more, items, kind, -⟩
      obtain ⟨same, -⟩ := List.cons.inj items
      cases same
      simp [kind]
    have call (suffix : String) : Mirrors z z' Anywhere (N - 1 - 1 - 1) 0
        (Parser.arguments budget item >>= fun args =>
          Pure.pure (Expr.function (some first) suffix args))
        (Parser.arguments budget' item' >>= fun args =>
          Pure.pure (Expr.function (some first) suffix args)) :=
      any (bind (arguments places (hi.mono (by omega)) budget (by omega)) fun args => pure _)
    refine any (bind_at (R := fun _ s => s.current.kind = .functionSuffix)
      (advance places colon) ?_ fun _ => any (lexeme_bind places rfl call))
    rintro s _ s' ⟨colon, suffix, more, items, -, kind⟩ ran
    obtain ⟨-, ahead⟩ := List.cons.inj items
    have moved := Parser.of_advance ran
    simp only [TokenStream.advance, ahead] at moved
    cases moved
    exact kind

theorem mapAfterKey (hi : Mirrors z z' Anywhere (N - 1) 1 item item') (budget : Nat)
    {budget' : Nat} (enough : N < budget') (key : Expr) :
    Mirrors z z' P N 1 (Parser.mapAfterKey budget item key)
      (Parser.mapAfterKey budget' item' key) := by
  refine expect_bind places (by decide) (any (bind hi fun value => ?_))
  refine bind (itemsAfter places rfl ?_ budget (by omega)) fun more => ?_
  · refine bind (hi.mono (by omega)) fun k => any (expect_bind places (by decide) ?_)
    exact any (bind (hi.mono (by omega)) fun v => pure _)
  · exact any (expect_bind places (by decide) (pure _))

theorem braces (hi : Mirrors z z' Anywhere N 1 item item') (budget : Nat) {budget' : Nat}
    (enough : N < budget') :
    Mirrors z z' P N 1 (Parser.braces budget item) (Parser.braces budget' item') := by
  refine at?_taking (advance_kind places (by decide) (pure (Expr.set []))) ?_
  refine bind hi fun first => at? places rfl ?_ ?_
  · exact any (mapAfterKey places (hi.mono (by omega)) budget (by omega) first)
  · refine bind (itemsAfter places rfl (hi.mono (by omega)) budget (by omega)) fun more => ?_
    exact any (expect_bind places (by decide) (pure _))

theorem primary (hw : Mirrors z z' Anywhere (N - 1) 1 whole whole')
    (hi : Mirrors z z' Anywhere (N - 1) 1 item item') (budget : Nat) {budget' : Nat}
    (enough : N < budget') :
    Mirrors z z' Anywhere N 1 (Parser.primary budget whole item)
      (Parser.primary budget' whole' item') := by
  refine current places (fun kind lexeme at_ at' => ?_) fun t t' closing closing' => ?_
  · dsimp only
    split
    · exact advance_at places (by simp) (pure _)
    · refine advance_at places (by simp) ?_
      split
      · exact pure _
      · exact fail _
    · exact advance_at places (by simp) (pure _)
    · exact advance_at places (by simp) (pure _)
    · exact advance_at places (by simp) (pure _)
    · exact (name places hi budget enough).restrict fun s same => congrArg Token.kind same
    · refine advance_at places (by simp) ?_
      exact any (bind (identifier places) fun name => pure _)
    · refine advance_at places (by simp) ?_
      exact any (bind hw fun e => any (expect_bind places (by decide) (pure e)))
    · refine advance_at places (by simp) ?_
      exact any (bind (itemsUntil places (by decide) hi budget (by omega)) fun es => pure _)
    · exact advance_at places (by simp) (any (braces places hi budget (by omega)))
    · exact unexpected _
  · obtain ⟨k, _, _⟩ := t
    obtain rfl | rfl := TokenKind.isClosing_cases closing <;> exact unexpected _

end Primary

/-! ### The grammar -/

/-- A level mirrors itself with every budget that is more than the number of levels for each of the
tokens it may take. -/
theorem expr (budget : Nat) {budget' : Nat} (level : Level)
    (enough : 16 * N + 15 ≤ budget' + level.rank) :
    Mirrors z z' Anywhere N 1 (Parser.expr budget level) (Parser.expr budget' level) := by
  induction budget generalizing N budget' level with
  | zero => exact exhausted
  | succ budget ih =>
    have low : level.rank ≤ 13 := level.rank_le
    refine .budget (fun b => Parser.expr b level) (fun none => by omega) fun c le => ?_
    have fits : N < c := by omega
    -- the parts of a level are at the next one, or at any one behind a token
    have next (part : Level) (tighter : part.rank = level.rank + 1) :
        Mirrors z z' Anywhere N 1 (Parser.expr budget part) (Parser.expr c part) :=
      ih part (by omega)
    have behind (part : Level) :
        Mirrors z z' Anywhere (N - 1) 1 (Parser.expr budget part) (Parser.expr c part) :=
      ih part (by omega)
    have loop (operand : Level) (tighter : operand.rank = level.rank + 1) :
        Mirrors z z' Anywhere N 1
          (Parser.expr budget operand >>=
            Parser.operators level (Parser.expr budget operand) budget)
          (Parser.expr c operand >>= Parser.operators level (Parser.expr c operand) c) := by
      refine bind (next operand tighter) fun left => ?_
      exact operators places ((behind operand).mono (by omega)) level budget (by omega) left
    cases level with
    | sequence => exact sequence places (next .assignment rfl) budget fits
    | assignment => exact assignment places (next .lambda rfl) (behind .assignment)
    | lambda => exact lambda places (behind .lambda) (next .conditional rfl)
    | conditional => exact conditional places (next .disjunction rfl) (behind .conditional)
    | unary => exact unary places (behind .unary) (next .access rfl)
    | access =>
      refine bind (next .primary rfl) fun object => ?_
      exact accesses places ((behind .sequence).mono (by omega))
        ((behind .assignment).mono (by omega)) budget (by omega) object
    | primary => exact primary places (behind .sequence) (behind .assignment) budget fits
    | _ => exact loop _ rfl

end Productions

end Mirrors

end ExprLang
