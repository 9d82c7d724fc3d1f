import ExprLang.Proofs.Syntax.TreesSound.Combinators
import ExprLang.Proofs.Syntax.RoundTrip

/-!
# What the parser produces is a tree of the grammar

Every production gives a tree of the grammar if its parts do, so that whatever the parser produces
from a text is a tree of the grammar, up to literals that are not integers. **Key theorem**:
`parse_print_of_produced`, the round trip for everything that the parser can produce.
-/

namespace ExprLang

/-! ### Literals that are not integers -/

namespace Expr

mutual

/-- Whether a literal with a point or an exponent occurs in the expression. -/
def hasReal : Expr → Bool
  | .float _ => true
  | .decimal _ => true
  | .access object k => hasReal object || hasReal k
  | .method object _ args => hasReal object || anyReal args
  | .function _ _ args => anyReal args
  | .call callee args => hasReal callee || anyReal args
  | .unary _ operand => hasReal operand
  | .binary _ left right => hasReal left || hasReal right
  | .conditional condition yes no => hasReal condition || hasReal yes || hasReal no
  | .instanceOf operand _ => hasReal operand
  | .list elements => anyReal elements
  | .set elements => anyReal elements
  | .map entries => anyEntryReal entries
  | .lambda _ body => hasReal body
  | .assign target value => hasReal target || hasReal value
  | .sequence steps => anyReal steps
  | _ => false
termination_by structural e => e

/-- Whether one occurs in any of several expressions. -/
def anyReal : List Expr → Bool
  | [] => false
  | e :: es => hasReal e || anyReal es
termination_by structural es => es

/-- Whether one occurs in any entry of a map. -/
def anyEntryReal : List (Expr × Expr) → Bool
  | [] => false
  | e :: es => entryReal e || anyEntryReal es
termination_by structural es => es

/-- Whether one occurs in a key or in its value. -/
def entryReal : Expr × Expr → Bool
  | (k, v) => hasReal k || hasReal v
termination_by structural e => e

end

theorem anyReal_eq_false {es : List Expr} : anyReal es = false ↔ ∀ e ∈ es, e.hasReal = false := by
  induction es with
  | nil => simp [anyReal]
  | cons e es ih => simp [anyReal, ih]

theorem anyEntryReal_eq_false {es : List (Expr × Expr)} :
    anyEntryReal es = false ↔ ∀ e ∈ es, e.1.hasReal = false ∧ e.2.hasReal = false := by
  induction es with
  | nil => simp [anyEntryReal]
  | cons e es ih =>
    obtain ⟨k, v⟩ := e
    simp [anyEntryReal, entryReal, ih]

/-- A tree of the grammar, if all its literals are integers, strings and words. -/
def Shaped (e : Expr) : Prop :=
  e.hasReal = false → e.WellFormed

/-- Trees of the grammar are closed under the constructors. -/
theorem Shaped.all {es : List Expr} (h : ∀ e ∈ es, e.Shaped) (noReal : anyReal es = false) :
    ∀ e ∈ es, e.WellFormed :=
  fun e mem => h e mem (anyReal_eq_false.mp noReal e mem)

end Expr

/-! ### Names and qualified names -/

namespace TokenStream

/-- What is seen when a colon and a function name come next. -/
theorem peekKind_of_suffixAhead? {s : TokenStream} (looked : s.suffixAhead? = .ok true) :
    s.peekKind 0 = .ok .colon ∧ s.peekKind 1 = .ok .functionSuffix := by
  unfold TokenStream.suffixAhead? at looked
  cases zero : s.peekKind 0 with
  | error e =>
    rw [zero] at looked
    cases looked
  | ok k =>
    rw [zero] at looked
    replace looked : (if k == .colon then s.peekKind 1 >>= fun k => Except.ok (k == .functionSuffix)
      else .ok false) = .ok true := looked
    by_cases colon : k = .colon
    · rw [if_pos (by simpa using colon)] at looked
      cases one : s.peekKind 1 with
      | error e =>
        rw [one] at looked
        cases looked
      | ok k' =>
        rw [one] at looked
        have suffix : (k' == .functionSuffix) = true := Except.ok.inj looked
        rw [colon, beq_iff_eq.mp suffix]
        exact ⟨rfl, rfl⟩
    · rw [if_neg (by simpa using colon)] at looked
      cases looked

/-- Behind an identifier that is seen to be a qualifier, its colon and the function name come. -/
theorem beforeSuffix_of_suffixAhead? {s : TokenStream} (kind : s.current.kind = .identifier)
    (looked : s.suffixAhead? = .ok true) : BeforeSuffix s.ahead := by
  obtain ⟨zero, one⟩ := peekKind_of_suffixAhead? looked
  unfold TokenStream.peekKind TokenStream.peek at zero one
  match ahead : s.ahead with
  | [] =>
    rw [ahead] at zero
    simp [Except.map, kind] at zero
  | [item] =>
    rw [ahead] at zero one
    have same : (Except.ok TokenKind.colon : Except ParseError _) = .ok .functionSuffix :=
      zero.symm.trans one
    cases same
  | .error e :: _ :: _ =>
    rw [ahead] at zero
    cases zero
  | .ok colon :: .error e :: _ =>
    rw [ahead] at one
    cases one
  | .ok colon :: .ok name :: rest =>
    rw [ahead] at zero one
    exact ⟨colon, name, rest, rfl, Except.ok.inj zero, Except.ok.inj one⟩

end TokenStream

namespace Parser

/-- A name without a qualifier in front of it. -/
def unqualified (budget : Nat) (item : Parser Expr) : Parser Expr := do
  let first ← identifier
  if ← at? .openParen then
    return .function none first (← arguments budget item)
  else
    return .identifier first

/-- A call with a qualifier, from the arguments on. -/
def qualifiedCall (qualifier name : String) (budget : Nat) (item : Parser Expr) : Parser Expr :=
  return .function (some qualifier) name (← arguments budget item)

section Name

variable {s : TokenStream} {budget : Nat} {item : Parser Expr}

theorem name_of_error {e : ParseError} (looked : s.suffixAhead? = .error e) :
    name budget item s = .error (.error e) :=
  bind_error (look_error looked)

/-- Whether a suffix comes next does not matter where no name begins. -/
theorem name_of_other {qualified : Bool} (other : s.current.kind ≠ .identifier)
    (looked : s.suffixAhead? = .ok qualified) :
    name budget item s = .error (.error (s.unexpected .identifier)) :=
  (bind_ok (look_ok looked)).trans (bind_error (identifier_error other))

theorem name_unqualified (looked : s.suffixAhead? = .ok false) :
    name budget item s = unqualified budget item s :=
  bind_ok (look_ok looked)

/-- In front of a qualified name the colon and the name of the function are known. -/
theorem name_qualified (budget : Nat) (item : Parser Expr) (kind : s.current.kind = .identifier)
    (looked : s.suffixAhead? = .ok true) :
    ∃ colon suffix more, s.ahead = .ok colon :: .ok suffix :: more ∧ colon.kind = .colon ∧
      suffix.kind = .functionSuffix ∧
      name budget item s =
        (advance >>= fun _ => qualifiedCall s.current.lexeme suffix.lexeme budget item)
          ⟨suffix, more⟩ := by
  obtain ⟨colon, suffix, more, ahead, colonKind, suffixKind⟩ :=
    TokenStream.beforeSuffix_of_suffixAhead? kind looked
  refine ⟨colon, suffix, more, ahead, colonKind, suffixKind, ?_⟩
  have qualifier : s.advance = .ok ⟨colon, .ok suffix :: more⟩ := by
    rw [TokenStream.advance, ahead]
  exact (bind_ok (look_ok looked)).trans ((bind_ok (identifier_ok kind qualifier)).trans
    (bind_ok (advance_ok rfl)))

/-- The parts of a run that reads a name. -/
theorem of_name {s' : TokenStream} {e : Expr} (kind : s.current.kind = .identifier)
    (ran : name budget item s = .ok (e, s')) :
    unqualified budget item s = .ok (e, s') ∨
      ∃ colon suffix more s₁, s.ahead = .ok colon :: .ok suffix :: more ∧ colon.kind = .colon ∧
        suffix.kind = .functionSuffix ∧ TokenStream.advance ⟨suffix, more⟩ = .ok s₁ ∧
        qualifiedCall s.current.lexeme suffix.lexeme budget item s₁ = .ok (e, s') := by
  obtain ⟨qualified, between, looked, -⟩ := of_bind ran
  obtain ⟨looked, rfl⟩ := of_look looked
  cases qualified with
  | false => exact .inl (name_unqualified looked ▸ ran)
  | true =>
    obtain ⟨colon, suffix, more, ahead, colonKind, suffixKind, same⟩ :=
      name_qualified budget item kind looked
    rw [same] at ran
    obtain ⟨u, s₁, moved, rest⟩ := of_bind ran
    exact .inr ⟨colon, suffix, more, s₁, ahead, colonKind, suffixKind, of_advance moved, rest⟩

end Name

end Parser

namespace Gives

open ExprLang.Expr (Shaped)

variable {α : Type} {P : TokenStream → Prop}

/-! ### Lists -/

theorem itemsUntil {Q : Expr → Prop} {close : TokenKind} {item : Parser Expr}
    (notSuffix : close ≠ .functionSuffix) (h : Gives Anywhere Q item) (budget : Nat) :
    Gives P (fun es => ∀ e ∈ es, Q e) (Parser.itemsUntil close item budget) := by
  induction budget generalizing P with
  | zero => exact exhausted
  | succ budget ih =>
    have others (first : Expr) : Gives Anywhere (fun es => Q first → ∀ e ∈ es, Q e)
        (Parser.itemsUntil close item budget >>= fun es => Pure.pure (first :: es)) := by
      refine bind ih fun es => pure ?_
      exact fun all q => List.forall_mem_cons.mpr ⟨q, all⟩
    refine at? (advance_kind notSuffix (pure (by simp))) (bind h fun first => ?_)
    exact at? (others first).weaken (expect_bind (by decide) (others first))

theorem itemsAfter {Q : α → Prop} {separator : TokenKind} {item : Parser α}
    (notSuffix : separator ≠ .functionSuffix) (h : Gives Anywhere Q item) (budget : Nat) :
    Gives P (fun as => ∀ a ∈ as, Q a) (Parser.itemsAfter separator item budget) := by
  induction budget generalizing P with
  | zero => exact exhausted
  | succ budget ih =>
    refine at? (advance_kind notSuffix (bind h fun first => bind ih fun as => pure ?_))
      (pure (by simp))
    exact fun all q => List.forall_mem_cons.mpr ⟨q, all⟩

theorem arguments {Q : Expr → Prop} {item : Parser Expr} (h : Gives Anywhere Q item)
    (budget : Nat) :
    Gives P (fun es => ∀ e ∈ es, Q e) (Parser.arguments budget item) :=
  expect_bind (by decide) (itemsUntil (by decide) h budget)

/-- The name of a type is put together from names. -/
theorem typeName (budget : Nat) :
    Gives P (fun name => ∃ names : List String, names ≠ [] ∧ (∀ n ∈ names, IsName n) ∧
      name = ".".intercalate names) (Parser.typeName budget) := by
  refine bind identifier fun first => bind (itemsAfter (by decide) identifier budget) fun more => ?_
  refine pure fun later name => ⟨first :: more, by simp, ?_, rfl⟩
  exact List.forall_mem_cons.mpr ⟨name, later⟩

/-! ### Levels without a loop -/

section Levels

variable {p q : Parser Expr}

theorem sequence (h : Gives Anywhere Shaped p) (budget : Nat) :
    Gives Anywhere Shaped (Parser.sequence budget p) := by
  refine bind h fun first => bind (itemsAfter (by decide) h budget) fun more => pure ?_
  intro later one
  cases more with
  | nil => exact one
  | cons second more =>
    intro (noReal : Expr.anyReal (first :: second :: more) = false)
    refine .sequence (by simp) (Shaped.all ?_ noReal)
    exact List.forall_mem_cons.mpr ⟨one, later⟩

theorem assignment (hp : Gives Anywhere Shaped p) (hq : Gives Anywhere Shaped q) :
    Gives Anywhere Shaped (Parser.assignment p q) := by
  refine bind hp fun left => current fun t => ?_
  split
  · rename_i assign
    split
    · rename_i assignable
      refine advance_at (by simp [assign]) (bind hq fun value => pure ?_)
      intro right left noReal
      simp only [Expr.hasReal, Bool.or_eq_false_iff] at noReal
      exact .assign assignable (left noReal.1) (right noReal.2)
    · exact fail _
  · exact pure id

theorem conditional (hp : Gives Anywhere Shaped p) (hq : Gives Anywhere Shaped q) :
    Gives Anywhere Shaped (Parser.conditional p q) := by
  refine bind hp fun test => at? (advance_kind (by decide) ?_) (pure id)
  refine bind hq fun yes => expect_bind (by decide) (bind hq fun no => pure ?_)
  intro other chosen test noReal
  simp only [Expr.hasReal, Bool.or_eq_false_iff] at noReal
  exact .conditional (test noReal.1.1) (chosen noReal.1.2) (other noReal.2)

theorem unary (hp : Gives Anywhere Shaped p) (hq : Gives Anywhere Shaped q) :
    Gives Anywhere Shaped (Parser.unary p q) := by
  refine current fun t => ?_
  split
  · exact hq.weaken
  · rename_i op kind
    have notSuffix : t.kind ≠ .functionSuffix := by
      intro same
      rw [same] at kind
      cases kind
    refine advance_at notSuffix (bind hp fun operand => pure ?_)
    exact fun shaped noReal => .unary (shaped noReal)

theorem lambda (hp : Gives Anywhere Shaped p) (hq : Gives Anywhere Shaped q) :
    Gives Anywhere Shaped (Parser.lambda p q) := by
  refine look fun found => ?_
  cases found with
  | none => exact hq.weaken
  | some found =>
    -- the parser jumps to the arrow, so that the names are judged where they were looked at
    obtain ⟨params, onArrow⟩ := found
    intro s e s' start named ran
    obtain ⟨names, named', notStuck⟩ := TokenStream.lambdaHeader?_named named start.2
    obtain ⟨u, between, first, second⟩ := Parser.of_bind ran
    cases first
    have after : Gives Anywhere Shaped (Parser.expect .arrow >>= fun _ => p >>= fun body =>
        Pure.pure (.lambda params body)) := by
      refine expect_bind (by decide) (bind hp fun body => pure ?_)
      exact fun shaped noReal => .lambda names (shaped noReal)
    obtain ⟨named'', -, gives⟩ := after onArrow e s' trivial named' second
    exact ⟨named'', fun stuck => absurd stuck notStuck, gives⟩

end Levels

/-! ### Levels with a loop -/

theorem operators {operand : Parser Expr} (h : Gives Anywhere Shaped operand) (level : Level)
    (budget : Nat) (left : Expr) :
    Gives Anywhere (fun e => left.Shaped → e.Shaped)
      (Parser.operators level operand budget left) := by
  induction budget generalizing left with
  | zero => exact exhausted
  | succ budget ih =>
    refine current fun t => ?_
    split
    · rename_i instance'
      refine advance_at (by simp [instance'.2]) (bind (typeName budget) fun name => ?_)
      refine (ih (.instanceOf left name)).mono fun e gives names shaped => gives ?_
      obtain ⟨names, named, isName, rfl⟩ := names
      exact fun noReal => .instanceOf (shaped noReal) named isName
    · split
      · exact pure id
      · rename_i op kind
        have notSuffix : t.kind ≠ .functionSuffix := by
          intro same
          rw [same] at kind
          cases level <;> cases kind
        refine advance_at notSuffix (bind h fun right => ?_)
        refine (ih (.binary op left right)).mono fun e gives shapedRight shaped => gives ?_
        intro noReal
        simp only [Expr.hasReal, Bool.or_eq_false_iff] at noReal
        exact .binary (shaped noReal.1) (shapedRight noReal.2)

theorem accesses {whole item : Parser Expr} (hw : Gives Anywhere Shaped whole)
    (hi : Gives Anywhere Shaped item) (budget : Nat) (object : Expr) :
    Gives Anywhere (fun e => object.Shaped → e.Shaped)
      (Parser.accesses whole item budget object) := by
  induction budget generalizing object with
  | zero => exact exhausted
  | succ budget ih =>
    refine current fun t => ?_
    split
    · rename_i dot
      refine advance_at (by simp [dot]) (bind identifier fun name => at? ?_ ?_)
      · refine bind (arguments hi budget) fun args => ?_
        refine (ih (.method object name args)).mono fun e gives all named shaped => gives ?_
        intro noReal
        simp only [Expr.hasReal, Bool.or_eq_false_iff] at noReal
        exact .method (shaped noReal.1) named (Shaped.all all noReal.2)
      · refine (ih (.access object (.key name))).mono fun e gives named shaped => gives ?_
        intro noReal
        simp only [Expr.hasReal, Bool.or_eq_false_iff] at noReal
        exact .member (shaped noReal.1) named
    · rename_i bracket
      refine advance_at (by simp [bracket]) (bind hw fun key => expect_bind (by decide) ?_)
      refine (ih (.access object key)).mono fun e gives shapedKey shaped => gives ?_
      intro noReal
      simp only [Expr.hasReal, Bool.or_eq_false_iff] at noReal
      exact .index (shaped noReal.1) (shapedKey noReal.2)
    · refine bind (arguments hi budget) fun args => ?_
      refine (ih (.call object args)).mono fun e gives all shaped => gives ?_
      intro noReal
      simp only [Expr.hasReal, Bool.or_eq_false_iff] at noReal
      exact .call (shaped noReal.1) (Shaped.all all noReal.2)
    · exact pure id

/-! ### Primary expressions -/

section Primary

variable {whole item : Parser Expr}

/-- A name without a qualifier. -/
theorem unqualified (hi : Gives Anywhere Shaped item) (budget : Nat) :
    Gives P Shaped (Parser.unqualified budget item) := by
  refine bind identifier fun first => at? (bind (arguments hi budget) fun args => pure ?_) (pure ?_)
  · exact fun all named noReal => .function named (Shaped.all all noReal)
  · exact fun named _ => .identifier named

/-- A name of a function or a variable; only in front of a suffix it may be reserved. -/
theorem name (hi : Gives Anywhere Shaped item) (budget : Nat) :
    Gives (fun s => s.current.kind = .identifier) Shaped (Parser.name budget item) := by
  intro s e s' kind named ran
  obtain rest | ⟨colon, suffix, more, s₁, ahead, colonKind, suffixKind, moved, rest⟩ :=
    Parser.of_name kind ran
  · exact unqualified (P := Anywhere) hi budget s e s' trivial named rest
  · have behind : TokenStream.Named ⟨suffix, more⟩ := by
      rw [TokenStream.Named, ahead] at named
      exact named.tail.tail
    have call : Gives Anywhere Shaped
        (Parser.qualifiedCall s.current.lexeme suffix.lexeme budget item) := by
      refine bind (arguments hi budget) fun args => pure fun all noReal => ?_
      exact .qualified ((EachToken.head named).word kind)
        ((EachToken.head behind).suffix suffixKind) (Shaped.all all noReal)
    obtain ⟨named', -, gives⟩ := call s₁ e s' trivial (behind.advance moved) rest
    exact ⟨named', fun stuck => absurd stuck (s.not_stuck kind (by decide) (by decide)), gives⟩

theorem mapAfterKey (hi : Gives Anywhere Shaped item) (budget : Nat) (key : Expr) :
    Gives P (fun e => key.Shaped → e.Shaped) (Parser.mapAfterKey budget item key) := by
  have entry : Gives Anywhere (fun e : Expr × Expr => e.1.Shaped ∧ e.2.Shaped)
      (item >>= fun k => Parser.expect .colon >>= fun _ => item >>= fun v => Pure.pure (k, v)) :=
    bind hi fun k => expect_bind (by decide) (bind hi fun v => pure fun value key => ⟨key, value⟩)
  refine expect_bind (by decide) (bind hi fun value => ?_)
  refine bind (itemsAfter (by decide) entry budget) fun more => expect_bind (by decide) (pure ?_)
  intro others shapedValue shapedKey noReal
  have all : ∀ e ∈ (key, value) :: more, e.1.Shaped ∧ e.2.Shaped :=
    List.forall_mem_cons.mpr ⟨⟨shapedKey, shapedValue⟩, others⟩
  have parts := Expr.anyEntryReal_eq_false.mp noReal
  exact .map (by simp) (fun e mem => (all e mem).1 (parts e mem).1)
    fun e mem => (all e mem).2 (parts e mem).2

theorem braces (hi : Gives Anywhere Shaped item) (budget : Nat) :
    Gives P Shaped (Parser.braces budget item) := by
  refine at? (advance_kind (by decide) (pure fun _ => .set (by simp))) ?_
  refine bind hi fun first => at? (mapAfterKey hi budget first) ?_
  refine bind (itemsAfter (by decide) hi budget) fun more => expect_bind (by decide) (pure ?_)
  intro others one noReal
  refine .set (Shaped.all ?_ noReal)
  exact List.forall_mem_cons.mpr ⟨one, others⟩

theorem hasReal_floatLiteral? {lexeme : String} {e : Expr}
    (literal : Parser.floatLiteral? lexeme = some e) : e.hasReal = true := by
  unfold Parser.floatLiteral? at literal
  split at literal
  · cases literal
  · split at literal
    · cases literal
      rfl
    · obtain ⟨d, -, rfl⟩ := Option.map_eq_some_iff.mp literal
      rfl

theorem primary (hw : Gives Anywhere Shaped whole) (hi : Gives Anywhere Shaped item)
    (budget : Nat) : Gives Anywhere Shaped (Parser.primary budget whole item) := by
  refine current fun t => ?_
  split
  · rename_i kind
    exact advance_at (by simp [kind]) (pure fun _ => .integer)
  · rename_i kind
    refine advance_at (by simp [kind]) ?_
    split
    · rename_i e literal
      refine pure fun noReal => ?_
      rw [hasReal_floatLiteral? literal] at noReal
      cases noReal
    · exact fail _
  · rename_i kind
    exact advance_at (by simp [kind]) (pure fun _ => .string)
  · rename_i kind
    exact advance_at (by simp [kind]) (pure fun _ => .boolean)
  · rename_i kind
    exact advance_at (by simp [kind]) (pure fun _ => .null)
  · rename_i kind
    intro s e s' same
    refine name hi budget s e s' ?_
    show s.current.kind = .identifier
    rw [same, kind]
  · rename_i kind
    refine advance_at (by simp [kind]) (bind identifier fun name => pure ?_)
    exact fun named _ => .implicit named
  · rename_i kind
    refine advance_at (by simp [kind]) (bind hw fun e => expect_bind (by decide) (pure id))
  · rename_i kind
    refine advance_at (by simp [kind]) (bind (itemsUntil (by decide) hi budget) fun es => pure ?_)
    exact fun all noReal => .list (Shaped.all all noReal)
  · rename_i kind
    exact advance_at (by simp [kind]) (braces hi budget)
  · exact unexpected _

end Primary

/-! ### The grammar -/

/-- Every level gives trees of the grammar. -/
theorem expr (budget : Nat) (level : Level) : Gives Anywhere Shaped (Parser.expr budget level) := by
  induction budget generalizing level with
  | zero => exact exhausted
  | succ budget ih =>
    have loop (level operand : Level) : Gives Anywhere Shaped (Parser.expr budget operand >>=
        fun left => Parser.operators level (Parser.expr budget operand) budget left) :=
      bind (ih operand) fun left =>
        (operators (ih operand) level budget left).mono fun _ gives => gives
    cases level with
    | sequence => exact sequence (ih _) budget
    | assignment => exact assignment (ih _) (ih _)
    | lambda => exact lambda (ih _) (ih _)
    | conditional => exact conditional (ih _) (ih _)
    | unary => exact unary (ih _) (ih _)
    | access => exact bind (ih _) fun object => accesses (ih _) (ih _) budget object
    | primary => exact primary (ih _) (ih _) budget
    | _ => exact loop _ _

end Gives

/-! ### Whole texts -/

/-- Behind an expression something is expected at which no parser is stuck. -/
theorem shaped_of_expect {s s₁ s₂ : TokenStream} {budget : Nat} {e : Expr} {kind : TokenKind}
    {u : Unit} (named : s.Named) (read : Parser.expr budget .sequence s = .ok (e, s₁))
    (behind : Parser.expect kind s₁ = .ok (u, s₂)) (notColon : kind ≠ .colon)
    (notSuffix : kind ≠ .functionSuffix) : e.Shaped ∧ s₂.Named := by
  obtain ⟨named₁, -, gives⟩ := Gives.expr budget .sequence s e s₁ trivial named read
  obtain ⟨here, moved⟩ := Parser.of_expect behind
  exact ⟨gives (TokenStream.not_stuck here notColon notSuffix), named₁.advance moved⟩

theorem standalone_shaped {s s' : TokenStream} {e : Expr} (named : s.Named)
    (ran : Parser.standalone s = .ok (e, s')) : e.Shaped := by
  obtain ⟨s₀, _, read, rest⟩ := Parser.of_bind ran
  cases read
  obtain ⟨e', s₁, read, rest⟩ := Parser.of_bind rest
  obtain ⟨u, s₂, behind, rest⟩ := Parser.of_bind rest
  cases rest
  exact (shaped_of_expect named read behind (by decide) (by decide)).1

/-- The expressions that a parser of template parts finds in a stream are trees of the grammar. -/
def Finds (s : TokenStream) (p : Parser (List TemplatePart × Option EvalMode)) : Prop :=
  ∀ r s', p s = .ok (r, s') → ∀ e, .expression e ∈ r.1 → e.Shaped

theorem Finds.current {s : TokenStream} {f : Token → Parser (List TemplatePart × Option EvalMode)}
    (h : Finds s (f s.current)) : Finds s (Parser.current >>= f) :=
  h

theorem finds_templateParts {budget : Nat} {seen : Option EvalMode} {s : TokenStream}
    (named : s.Named) : Finds s (Parser.templateParts budget seen) := by
  induction budget generalizing seen s with
  | zero =>
    intro r s' ran
    cases ran
  | succ budget ih =>
    refine Finds.current ?_
    split
    · intro r s' ran
      cases ran
      simp
    · -- literal text
      intro r s' ran
      obtain ⟨u, s₁, moved, ran⟩ := Parser.of_bind ran
      obtain ⟨parts, s₂, later, ran⟩ := Parser.of_bind ran
      cases ran
      have all := ih (named.advance (Parser.of_advance moved)) _ _ later
      intro e mem
      exact all e (by simpa using mem)
    · split
      · intro r s' ran
        cases ran
      · split
        · -- an expression up to its brace
          intro r s' ran
          obtain ⟨u, s₁, moved, ran⟩ := Parser.of_bind ran
          obtain ⟨e₀, s₂, read, ran⟩ := Parser.of_bind ran
          obtain ⟨u, s₃, behind, ran⟩ := Parser.of_bind ran
          obtain ⟨parts, s₄, later, ran⟩ := Parser.of_bind ran
          cases ran
          obtain ⟨one, named₃⟩ := shaped_of_expect (named.advance (Parser.of_advance moved)) read
            behind (by decide) (by decide)
          intro e mem
          rcases List.mem_cons.mp mem with same | later'
          · cases same
            exact one
          · exact ih named₃ _ _ later e later'
        · intro r s' ran
          cases ran

/-- The stream of a text that is parsed. -/
theorem stream_of_parseAll {α : Type} {p : Parser α} {l : Lexer} {a : α}
    (parsed : p.parseAll l = .ok a) :
    ∃ s s' : TokenStream, TokenStream.ofLexer l = .ok s ∧ p s = .ok (a, s') := by
  unfold Parser.parseAll at parsed
  cases stream : TokenStream.ofLexer l with
  | error e =>
    rw [stream] at parsed
    cases parsed
  | ok s =>
    rw [stream] at parsed
    replace parsed : (p s).map Prod.fst = .ok a := parsed
    cases ran : p s with
    | error e =>
      rw [ran] at parsed
      cases parsed
    | ok r =>
      rw [ran] at parsed
      cases parsed
      exact ⟨s, r.2, rfl, ran⟩

/-- That stream names its tokens. -/
theorem of_parseAll {α : Type} {p : Parser α} {l : Lexer} {a : α} (fresh : l.suffixPending = false)
    (parsed : p.parseAll l = .ok a) : ∃ s s' : TokenStream, s.Named ∧ p s = .ok (a, s') := by
  obtain ⟨s, s', stream, ran⟩ := stream_of_parseAll parsed
  exact ⟨s, s', TokenStream.named_ofLexer (.nothing fresh) stream, ran⟩

namespace Expr

/-- The parser produces the expression: from a whole text, or as a part of a template. -/
inductive Produced (e : Expr) : Prop where
  | text {source : String} : Expr.parse source = .ok e → Produced e
  | part {source : String} {t : Template} : Template.parse source = .ok t →
      .expression e ∈ t.parts → Produced e

/-- What the parser produces is a tree of the grammar. -/
theorem Produced.shaped {e : Expr} (h : e.Produced) : e.Shaped := by
  cases h with
  | text parsed =>
    obtain ⟨s, s', named, ran⟩ := of_parseAll rfl parsed
    exact standalone_shaped named ran
  | part parsed mem =>
    obtain ⟨s, s', named, ran⟩ := of_parseAll rfl parsed
    obtain ⟨_, _, read, ran⟩ := Parser.of_bind ran
    cases read
    obtain ⟨r, s₁, read, ran⟩ := Parser.of_bind ran
    cases ran
    exact finds_templateParts named r _ read e mem

/-- Every expression that the parser can produce is read again from what is printed for it, unless
it holds a literal with a point or an exponent. -/
theorem parse_print_of_produced (bare : Bool) {e : Expr} (produced : e.Produced)
    (noReal : e.hasReal = false) : Expr.parse (e.print bare) = .ok e :=
  (produced.shaped noReal).parse_print bare

/-- A tree whose parts need parentheses, and some that look as if they did. -/
def nested : Expr :=
  .sequence [
    .lambda ["x"] (.access (.method (.identifier "x") "f" [.unary .negate (.integer 1)])
      (.binary .subtract (.binary .subtract (.identifier "a") (.identifier "b"))
        (.binary .subtract (.identifier "c") (.identifier "d")))),
    .assign (.identifier "z") (.call (.identifier "g") [.string "it's",
      .map [(.instanceOf (.identifier "p") "m.n", .function (some "fn") "true" [])]])]

theorem wellFormed_nested : nested.WellFormed := by
  have one {e : Expr} (h : e.WellFormed) : ∀ a ∈ [e], a.WellFormed := by simpa using h
  have two {e e' : Expr} (h : e.WellFormed) (h' : e'.WellFormed) : ∀ a ∈ [e, e'], a.WellFormed := by
    simpa using ⟨h, h'⟩
  refine .sequence (Nat.le_refl 2) (two ?lambda ?assign)
  case lambda =>
    refine .lambda (by decide) (.index (.method ?_ (by decide) (one (.unary .integer))) ?_)
    · exact .identifier (by decide)
    · exact .binary (.binary (.identifier (by decide)) (.identifier (by decide)))
        (.binary (.identifier (by decide)) (.identifier (by decide)))
  case assign =>
    have key : (Expr.instanceOf (.identifier "p") (".".intercalate ["m", "n"])).WellFormed :=
      .instanceOf (.identifier (by decide)) (by simp) (by decide)
    have value : (Expr.function (some "fn") "true" []).WellFormed :=
      .qualified (by decide) (by decide) (by simp)
    refine .assign rfl (.identifier (by decide)) (.call (.identifier (by decide)) (two .string ?_))
    exact .map (by simp) (by simpa using key) (by simpa using value)

theorem parse_print_nested : nested.Produced ∧ nested.hasReal = false ∧
    Expr.parse ("x -> x . f ( - 1 ) [ a - b - ( c - d ) ] ; " ++
      "z = ( g ) ( 'it\\'s' , \x7b p instanceof m . n : fn:true ( ) \x7d )") = .ok nested := by
  have produced : nested.Produced := .text (wellFormed_nested.parse_print false)
  have text : nested.print true = "x -> x . f ( - 1 ) [ a - b - ( c - d ) ] ; " ++
      "z = ( g ) ( 'it\\'s' , \x7b p instanceof m . n : fn:true ( ) \x7d )" := by
    decide
  refine ⟨produced, rfl, ?_⟩
  rw [← text]
  exact parse_print_of_produced true produced rfl

end Expr

end ExprLang
