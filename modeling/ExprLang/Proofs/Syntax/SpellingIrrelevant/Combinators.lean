import ExprLang.Proofs.Syntax.TokensKept.Combinators
import Mathlib.Data.List.Forall2

/-!
# Parsers on streams whose tokens differ in spelling and place

A parser looks at the kind of a token, and at its lexeme if it is no operator with two spellings;
the rest it only hands on, in trees and in errors. So it runs in the same way on streams whose
tokens differ in nothing else. `InStep T E text P N k Q p p'` says so of two parsers: on streams with
tokens that are related by `T` both give results that `Q` relates, or both fail with errors that `E`
relates. It says as well that both come to an end: neither uses up its budget if there are at most
`N` tokens ahead, and at least `k` of these are taken. The lemmas follow the combinators of the
grammar.
-/

namespace ExprLang

/-! ### Relations -/

/-- Operators that have two spellings. -/
def TokenKind.isDual : TokenKind → Bool
  | operator _ _ => true
  | _ => false

/-- The tokens show the same to the parser: they have the same kind and the same lexeme, or are the
same operator. -/
inductive Token.SameUpToSpelling : Token → Token → Prop where
  | same (kind : TokenKind) (lexeme : String) (p p' : Position) :
      SameUpToSpelling ⟨kind, lexeme, p⟩ ⟨kind, lexeme, p'⟩
  | operator (op : DualOperator) (x x' : Spelling) (lexeme lexeme' : String) (p p' : Position) :
      SameUpToSpelling ⟨.operator op x, lexeme, p⟩ ⟨.operator op x', lexeme', p'⟩

/-- Two computations give related results, or fail with related errors. -/
inductive ExceptRel {ε α α' : Type} (E : ε → ε → Prop) (Q : α → α' → Prop) :
    Except ε α → Except ε α' → Prop where
  | ok {a : α} {a' : α'} : Q a a' → ExceptRel E Q (.ok a) (.ok a')
  | error {e e' : ε} : E e e' → ExceptRel E Q (.error e) (.error e')

/-- Two computations fail with related errors, and not because a budget is used up. -/
inductive FailsWith {ε : Type} (E : ε → ε → Prop) : Halt ε → Halt ε → Prop where
  | error {e e' : ε} : E e e' → FailsWith E (.error e) (.error e')

/-- What relations of tokens and of errors have to satisfy for the parser to keep them. -/
structure ParserKeeps (T : Token → Token → Prop) (E : ParseError → ParseError → Prop) : Prop where
  alike {t u : Token} : T t u → t.SameUpToSpelling u
  unexpected {s s' : TokenStream} (expected : Expectation) : T s.current s'.current →
    E (s.unexpected expected) (s'.unexpected expected)
  invalidNumber {t u : Token} : t.kind = .float → T t u →
    E (.invalidNumber t.lexeme t.position) (.invalidNumber u.lexeme u.position)
  mixedModes {t u : Token} : T t u → E (.mixedModes t.position) (.mixedModes u.position)
  invalidTarget {t u : Token} : T t u → E (.invalidTarget t.position) (.invalidTarget u.position)

namespace ExceptRel

variable {ε ε' α α' β β' : Type} {E : ε → ε → Prop} {Q : α → α' → Prop} {R : β → β' → Prop}
  {x : Except ε α} {x' : Except ε α'}

theorem bind {f : α → Except ε β} {f' : α' → Except ε β'} (h : ExceptRel E Q x x')
    (hf : ∀ a a', Q a a' → ExceptRel E R (f a) (f' a')) : ExceptRel E R (x >>= f) (x' >>= f') := by
  cases h with
  | ok q => exact hf _ _ q
  | error e => exact .error e

theorem map {f : α → β} {f' : α' → β'} (h : ExceptRel E Q x x')
    (hf : ∀ a a', Q a a' → R (f a) (f' a')) : ExceptRel E R (x.map f) (x'.map f') := by
  cases h with
  | ok q => exact .ok (hf _ _ q)
  | error e => exact .error e

theorem imp {Q' : α → α' → Prop} (h : ExceptRel E Q x x') (hq : ∀ a a', Q a a' → Q' a a') :
    ExceptRel E Q' x x' := by
  cases h with
  | ok q => exact .ok (hq _ _ q)
  | error e => exact .error e

/-- Related results, or related errors. -/
theorem ok_or_error (h : ExceptRel E Q x x') :
    (∃ a a', x = .ok a ∧ x' = .ok a' ∧ Q a a') ∨
      ∃ e e', x = .error e ∧ x' = .error e' ∧ E e e' := by
  cases h with
  | ok q => exact .inl ⟨_, _, rfl, rfl, q⟩
  | error e => exact .inr ⟨_, _, rfl, rfl, e⟩

end ExceptRel

theorem Token.SameUpToSpelling.beq_kind {t u : Token} (h : t.SameUpToSpelling u) {kind : TokenKind}
    (plain : kind.isDual = false) : (t.kind == kind) = (u.kind == kind) := by
  cases h with
  | same => rfl
  | operator op x x' =>
    have other (y : Spelling) : (TokenKind.operator op y == kind) = false := by
      rw [beq_eq_false_iff_ne]
      rintro rfl
      cases plain
    exact (other x).trans (other x').symm

theorem Token.SameUpToSpelling.kind_eq_iff {t u : Token} (h : t.SameUpToSpelling u)
    {kind : TokenKind} (plain : kind.isDual = false) : t.kind = kind ↔ u.kind = kind := by
  rw [← beq_iff_eq, h.beq_kind plain, beq_iff_eq]

/-- The lexeme counts if the kind is known. -/
theorem Token.SameUpToSpelling.lexeme {t u : Token} (h : t.SameUpToSpelling u)
    (plain : t.kind.isDual = false) : t.lexeme = u.lexeme := by
  cases h with
  | same => rfl
  | operator => cases plain

/-! ### Streams -/

section

variable (T : Token → Token → Prop) (E : ParseError → ParseError → Prop)

/-- The items are related one by one. -/
abbrev ItemsRel : List (Except ParseError Token) → List (Except ParseError Token) → Prop :=
  List.Forall₂ (ExceptRel E T)

/-- The tokens that the streams stand on and the items ahead are related. -/
structure TokenStream.Rel (s s' : TokenStream) : Prop where
  current : T s.current s'.current
  ahead : ItemsRel T E s.ahead s'.ahead

/-- What two parsers give and where they end, from streams that are alike with `s` the first. -/
structure EndsRel {α α' : Type} (s : TokenStream) (k : Nat) (Q : α → α' → Prop)
    (r : α × TokenStream) (r' : α' × TokenStream) : Prop where
  result : Q r.1 r'.1
  like : r.2.Rel T E r'.2
  rest : r.2.items <:+ s.items
  taken : r.2.ahead.length + k ≤ s.ahead.length

/-- On streams that are alike both parsers end on streams that are alike, with related results and
`k` tokens taken, or both fail. It is said of the rests of a text that satisfy `P` and have at most
`N` tokens ahead. -/
def InStep (text : List (Except ParseError Token)) (P : TokenStream → Prop) (N : Int) (k : Nat)
    {α α' : Type} (Q : α → α' → Prop) (p : Parser α) (p' : Parser α') : Prop :=
  ∀ s s', P s → s.items <:+ text → (s.ahead.length : Int) ≤ N → s.Rel T E s' →
    ExceptRel (FailsWith E) (EndsRel T E s k Q) (p s) (p' s')

/-- The parser gives the same on streams that are alike, up to the end of a text. -/
def Agrees {α : Type} (p : Parser α) : Prop :=
  ∀ s s', Ended s.items → s.Rel T E s' →
    ExceptRel (FailsWith E) (EndsRel T E s 0 Eq) (p s) (p s')

end

variable {T : Token → Token → Prop} {E : ParseError → ParseError → Prop}

namespace ItemsRel

variable {items items' : List (Except ParseError Token)}

/-- The item at a place, or the last one there is. -/
theorem getD_last (h : ItemsRel T E items items') {item item' : Except ParseError Token}
    (before : ExceptRel E T item item') (n : Nat) :
    ExceptRel E T (items[n]?.getD (items.getLast?.getD item))
      (items'[n]?.getD (items'.getLast?.getD item')) := by
  induction h generalizing item item' n with
  | nil => exact before
  | cons first _ ih =>
    cases n with
    | zero => exact first
    | succ n =>
      rw [List.getLast?_cons, List.getLast?_cons]
      exact ih first n

/-- What a search for parameters finds: the same names, and the items behind them. -/
abbrev SameNames (T : Token → Token → Prop) (E : ParseError → ParseError → Prop) :
    Option (List String × List (Except ParseError Token)) →
      Option (List String × List (Except ParseError Token)) → Prop :=
  Option.Rel fun r r' => r.1 = r'.1 ∧ ItemsRel T E r.2 r'.2

variable (L : ParserKeeps T E)
include L

theorem names? (h : ItemsRel T E items items') :
    ExceptRel E (SameNames T E) (TokenStream.parameters?.names? items)
      (TokenStream.parameters?.names? items') := by
  -- a name and the comma behind it are two items, so that the induction is on the length
  induction length : items.length using Nat.strongRecOn generalizing items items' with
  | ind n ih =>
    unfold TokenStream.parameters?.names?
    cases h with
    | nil => exact .ok .none
    | @cons _ _ rest rest' first behind =>
      cases first with
      | error e => exact .error e
      | @ok t u name =>
        have alike := L.alike name
        dsimp only
        by_cases isName : t.kind = .identifier
        · have lexeme : t.lexeme = u.lexeme := alike.lexeme (by rw [isName]; rfl)
          rw [if_pos isName, if_pos ((alike.kind_eq_iff rfl).mp isName)]
          cases behind with
          | nil => exact .ok .none
          | cons second behind =>
            cases second with
            | error e => exact .error e
            | @ok c d mark =>
              have close : c.kind = .closeParen ↔ d.kind = .closeParen :=
                (L.alike mark).kind_eq_iff rfl
              have comma : c.kind = .comma ↔ d.kind = .comma := (L.alike mark).kind_eq_iff rfl
              dsimp only
              simp only [close, comma]
              split
              · exact .ok (.some ⟨congrArg ([·]) lexeme, behind⟩)
              · split
                · refine (ih _ (by simp at length; omega) behind rfl).map fun found found' same => ?_
                  cases same with
                  | none => exact .none
                  | some both => exact .some ⟨congrArg₂ List.cons lexeme both.1, both.2⟩
                · exact .ok .none
        · rw [if_neg isName, if_neg (mt (alike.kind_eq_iff rfl).mpr isName)]
          exact .ok .none

theorem parameters? (h : ItemsRel T E items items') :
    ExceptRel E (SameNames T E) (TokenStream.parameters? items)
      (TokenStream.parameters? items') := by
  unfold TokenStream.parameters?
  cases h with
  | nil => exact .ok .none
  | cons first behind =>
    cases first with
    | error e => exact .error e
    | @ok t u token =>
      have close : t.kind = .closeParen ↔ u.kind = .closeParen := (L.alike token).kind_eq_iff rfl
      dsimp only
      simp only [close]
      split
      · exact .ok (.some ⟨rfl, behind⟩)
      · exact names? L (.cons (.ok token) behind)

/-- The same parameters, and streams that are alike. -/
abbrev SameHeads (T : Token → Token → Prop) (E : ParseError → ParseError → Prop) :
    Option (List String × TokenStream) → Option (List String × TokenStream) → Prop :=
  Option.Rel fun r r' => r.1 = r'.1 ∧ r.2.Rel T E r'.2

theorem onArrow? (h : ItemsRel T E items items') (params : List String) :
    ExceptRel E (SameHeads T E) (TokenStream.onArrow? params items)
      (TokenStream.onArrow? params items') := by
  unfold TokenStream.onArrow?
  cases h with
  | nil => exact .ok .none
  | cons first behind =>
    cases first with
    | error e => exact .error e
    | @ok t u token =>
      have arrow : t.kind = .arrow ↔ u.kind = .arrow := (L.alike token).kind_eq_iff rfl
      dsimp only
      simp only [arrow]
      split
      · exact .ok (.some ⟨rfl, token, behind⟩)
      · exact .ok .none

end ItemsRel

namespace TokenStream.Rel

variable {s s' : TokenStream}

theorem advance (h : s.Rel T E s') : ExceptRel E (TokenStream.Rel T E) s.advance s'.advance := by
  obtain ⟨t, items⟩ := s
  obtain ⟨u, items'⟩ := s'
  cases h.ahead with
  | nil => exact .ok h
  | cons first rest =>
    cases first with
    | ok token => exact .ok ⟨token, rest⟩
    | error e => exact .error e

/-! ### Looking ahead -/

theorem peek (h : s.Rel T E s') (n : Nat) : ExceptRel E T (s.peek n) (s'.peek n) := by
  have item := h.ahead.getD_last (.ok h.current) n
  unfold TokenStream.peek
  cases there : s.ahead[n]? <;> cases there' : s'.ahead[n]? <;> rw [there, there'] at item <;>
    exact item

variable (L : ParserKeeps T E)
include L

theorem suffixAhead? (h : s.Rel T E s') : ExceptRel E Eq s.suffixAhead? s'.suffixAhead? := by
  have seen (n : Nat) : ExceptRel E (fun k k' => ∀ kind : TokenKind, kind.isDual = false →
      (k == kind) = (k' == kind)) (s.peekKind n) (s'.peekKind n) :=
    (h.peek n).map fun t u token kind plain => (L.alike token).beq_kind plain
  refine (seen 0).bind fun k k' same => ?_
  rw [same .colon rfl]
  split
  · exact (seen 1).bind fun k k' same => .ok (same .functionSuffix rfl)
  · exact .ok rfl

theorem lambdaHeader? (h : s.Rel T E s') :
    ExceptRel E (ItemsRel.SameHeads T E) s.lambdaHeader? s'.lambdaHeader? := by
  obtain ⟨t, items⟩ := s
  obtain ⟨u, items'⟩ := s'
  unfold TokenStream.lambdaHeader?
  cases L.alike h.current with
  | same kind lexeme p p' =>
    dsimp only
    split
    · exact ItemsRel.onArrow? L h.ahead [lexeme]
    · refine (ItemsRel.parameters? L h.ahead).bind fun found found' same => ?_
      cases same with
      | none => exact .ok .none
      | @some r r' both =>
        dsimp only
        rw [both.1]
        exact ItemsRel.onArrow? L both.2 r'.1
    · exact .ok .none
  | operator => exact .ok .none

end TokenStream.Rel

/-! ### Combinators -/

namespace InStep

variable {text : List (Except ParseError Token)} {P : TokenStream → Prop} {N : Int} {k : Nat}
  {α α' β β' : Type} {Q : α → α' → Prop} {R : β → β' → Prop} {p : Parser α} {p' : Parser α'}

theorem restrict {P' : TokenStream → Prop} (h : InStep T E text P' N k Q p p')
    (le : ∀ s, P s → P' s) : InStep T E text P N k Q p p' :=
  fun s s' start => h s s' (le s start)

theorem weaken (h : InStep T E text Anywhere N k Q p p') : InStep T E text P N k Q p p' :=
  h.restrict fun _ _ => trivial

theorem mono {M : Int} (h : InStep T E text P N k Q p p') (less : M ≤ N) :
    InStep T E text P M k Q p p' :=
  fun s s' start there le => h s s' start there (Int.le_trans le less)

theorem any (h : InStep T E text P N k Q p p') : InStep T E text P N 0 Q p p' :=
  fun s s' start there le like => (h s s' start there le like).imp fun _ _ ends =>
    ⟨ends.result, ends.like, ends.rest, by have := ends.taken; omega⟩

/-- No stream has fewer than no tokens ahead. -/
theorem of_neg (none : N < 0) : InStep T E text P N k Q p p' := by
  intro s s' _ _ le
  omega

theorem pure {a : α} {a' : α'} (h : Q a a') :
    InStep T E text P N 0 Q (Pure.pure a) (Pure.pure a') :=
  fun _ _ _ _ _ like => .ok ⟨h, like, List.suffix_refl _, Nat.le_refl _⟩

theorem fail {e e' : ParseError} (h : E e e') :
    InStep T E text P N k Q (Parser.fail e) (Parser.fail e') :=
  fun _ _ _ _ _ _ => .error (.error h)

/-- The second parser has the tokens that the first one leaves. What it takes does not count. -/
theorem bind {f : α → Parser β} {f' : α' → Parser β'} (hp : InStep T E text P N k Q p p')
    (hf : ∀ a a', Q a a' → InStep T E text Anywhere (N - k) 0 R (f a) (f' a')) :
    InStep T E text P N k R (p >>= f) (p' >>= f') := by
  intro s s' start there le like
  refine (hp s s' start there le like).bind ?_
  rintro ⟨a, u⟩ ⟨a', u'⟩ ⟨q, like, rest, taken⟩
  have fewer : (u.ahead.length : Int) ≤ N - k := by
    simp only at taken
    omega
  refine (hf a a' q u u' trivial (rest.trans there) fewer like).imp fun r r' ends => ?_
  have taken' := ends.taken
  exact ⟨ends.result, ends.like, ends.rest.trans rest, by simp only at taken; omega⟩

/-- The usual case: what comes next depends on the same result. -/
theorem bind_eq {p p' : Parser α} {f f' : α → Parser β} {R : β → β → Prop}
    (hp : InStep T E text P N k Eq p p')
    (hf : ∀ a, InStep T E text Anywhere (N - k) 0 R (f a) (f' a)) :
    InStep T E text P N k R (p >>= f) (p' >>= f') :=
  bind hp fun a _ same => same ▸ hf a

/-- A look at the streams, which takes nothing. -/
theorem look {f : TokenStream → Except ParseError α} {f' : TokenStream → Except ParseError α'}
    {g : α → Parser β} {g' : α' → Parser β'}
    (seen : ∀ s s', s.Rel T E s' → ExceptRel E Q (f s) (f' s'))
    (h : ∀ a a', Q a a' → InStep T E text (fun s => P s ∧ f s = .ok a) N k R (g a) (g' a')) :
    InStep T E text P N k R (Parser.look f >>= g) (Parser.look f' >>= g') := by
  intro s s' start there le like
  obtain ⟨a, a', here, here', q⟩ | ⟨e, e', here, here', error⟩ := (seen s s' like).ok_or_error
  · rw [Parser.bind_ok (Parser.look_ok here), Parser.bind_ok (Parser.look_ok here')]
    exact h a a' q s s' ⟨start, here⟩ there le like
  · rw [Parser.bind_error (Parser.look_error here), Parser.bind_error (Parser.look_error here')]
    exact .error (.error error)

theorem advance_of_taken (taken : ∀ s u, P s → s.items <:+ text → s.advance = .ok u →
    u.ahead.length + k ≤ s.ahead.length) :
    InStep T E text P N k Eq Parser.advance Parser.advance := by
  intro s s' start there _ like
  obtain ⟨u, u', here, here', like'⟩ | ⟨e, e', here, here', error⟩ := like.advance.ok_or_error
  · rw [Parser.advance_ok here, Parser.advance_ok here']
    exact .ok ⟨rfl, like', TokenStream.suffix_of_advance here, taken s u start there here⟩
  · have fails {s : TokenStream} {e : ParseError} (here : s.advance = .error e) :
        Parser.advance s = .error (.error e) :=
      Parser.bind_error (Parser.look_error here)
    rw [fails here, fails here']
    exact .error (.error error)

/-- The current token is passed. Where the text ends the stream stays as it is. -/
theorem move : InStep T E text P N 0 Eq Parser.advance Parser.advance :=
  advance_of_taken fun _ _ _ _ moved =>
    TokenStream.length_ahead_of_suffix (TokenStream.suffix_of_advance moved)

/-- The head of a lambda is passed up to its arrow. -/
theorem set_bind {s s' : TokenStream} {f : PUnit → Parser β} {f' : PUnit → Parser β'}
    (like : s.Rel T E s') (h : InStep T E text Anywhere N k R (f ⟨⟩) (f' ⟨⟩)) :
    InStep T E text (fun u => s.items <:+ u.items) N k R (set s >>= f) (set s' >>= f') := by
  intro u u' there inText le _
  have fewer := TokenStream.length_ahead_of_suffix there
  refine (h s s' trivial (there.trans inText) (by omega) like).imp fun r r' ends => ?_
  have taken := ends.taken
  exact ⟨ends.result, ends.like, ends.rest.trans there, by omega⟩

section Text

variable (ended : Ended text)
include ended

/-- A token other than the end of the text is taken. -/
theorem advance (notEnd : ∀ s, P s → s.current.kind ≠ .endOfText) :
    InStep T E text P N 1 Eq Parser.advance Parser.advance := by
  refine advance_of_taken fun s u start there moved => ?_
  have items := TokenStream.items_of_advance (ended.suffix there) (notEnd s start) moved
  have length := congrArg List.length items
  simp only [TokenStream.items, List.length_cons] at length
  omega

theorem advance_at {t : Token} {f : Unit → Parser β} {f' : Unit → Parser β'}
    (notEnd : t.kind ≠ .endOfText) (h : InStep T E text Anywhere (N - 1) 0 R (f ()) (f' ())) :
    InStep T E text (fun s => s.current = t) N 1 R (Parser.advance >>= f)
      (Parser.advance >>= f') :=
  bind (advance ended fun _ same => same ▸ notEnd) fun _ _ _ => h

theorem advance_kind {kind : TokenKind} {f : Unit → Parser β} {f' : Unit → Parser β'}
    (notEnd : kind ≠ .endOfText) (h : InStep T E text Anywhere (N - 1) 0 R (f ()) (f' ())) :
    InStep T E text (fun s => s.current.kind = kind) N 1 R (Parser.advance >>= f)
      (Parser.advance >>= f') :=
  bind (advance ended fun _ same => same ▸ notEnd) fun _ _ _ => h

end Text

section Tokens

variable (L : ParserKeeps T E)
include L

theorem unexpected (expected : Expectation) :
    InStep T E text P N k Q (Parser.unexpected expected) (Parser.unexpected expected) :=
  fun _ _ _ _ _ like => .error (.error (L.unexpected expected like.current))

/-- A parser is judged by each pair of tokens it may stand at. -/
theorem current {f : Token → Parser β} {f' : Token → Parser β'}
    (same : ∀ kind lexeme p p', T ⟨kind, lexeme, p⟩ ⟨kind, lexeme, p'⟩ →
      InStep T E text (fun s => s.current = ⟨kind, lexeme, p⟩) N k R (f ⟨kind, lexeme, p⟩)
        (f' ⟨kind, lexeme, p'⟩))
    (operator : ∀ op x x' lexeme lexeme' p p',
      InStep T E text (fun s => s.current = ⟨.operator op x, lexeme, p⟩) N k R
        (f ⟨.operator op x, lexeme, p⟩) (f' ⟨.operator op x', lexeme', p'⟩)) :
    InStep T E text P N k R (Parser.current >>= f) (Parser.current >>= f') := by
  intro s s' _ there le like
  obtain ⟨t, items⟩ := s
  obtain ⟨u, items'⟩ := s'
  have token : T t u := like.current
  show ExceptRel _ _ (f t ⟨t, items⟩) (f' u ⟨u, items'⟩)
  cases L.alike token with
  | same kind lexeme p p' => exact same kind lexeme p p' token _ _ rfl there le like
  | operator op x x' lexeme lexeme' p p' =>
    exact operator op x x' lexeme lexeme' p p' _ _ rfl there le like

/-- Whether the current token is of a kind is the same on both sides. -/
theorem at? {kind : TokenKind} (plain : kind.isDual = false) {f : Bool → Parser β}
    {f' : Bool → Parser β'}
    (here : InStep T E text (fun s => s.current.kind = kind) N k R (f true) (f' true))
    (other : InStep T E text Anywhere N k R (f false) (f' false)) :
    InStep T E text P N k R (Parser.at? kind >>= f) (Parser.at? kind >>= f') := by
  intro s s' _ there le like
  show ExceptRel _ _ (f (s.current.kind == kind) s) (f' (s'.current.kind == kind) s')
  rw [← (L.alike like.current).beq_kind plain]
  cases same : s.current.kind == kind with
  | true => exact here s s' (by simpa using same) there le like
  | false => exact other s s' trivial there le like

/-- A token that is expected is passed, be it the end of the text. -/
theorem expect_any {kind : TokenKind} (plain : kind.isDual = false) :
    InStep T E text P N 0 Eq (Parser.expect kind) (Parser.expect kind) :=
  at? L plain move (unexpected L _)

variable (ended : Ended text)
include ended

theorem expect {kind : TokenKind} (plain : kind.isDual = false) (notEnd : kind ≠ .endOfText) :
    InStep T E text P N 1 Eq (Parser.expect kind) (Parser.expect kind) :=
  at? L plain (advance ended fun _ same => same ▸ notEnd) (unexpected L _)

theorem expect_bind {kind : TokenKind} {f : Unit → Parser β} {f' : Unit → Parser β'}
    (plain : kind.isDual = false) (notEnd : kind ≠ .endOfText)
    (h : InStep T E text Anywhere (N - 1) 0 R (f ()) (f' ())) :
    InStep T E text P N 1 R (Parser.expect kind >>= f) (Parser.expect kind >>= f') :=
  bind (expect L ended plain notEnd) fun _ _ _ => h

theorem identifier : InStep T E text P N 1 Eq Parser.identifier Parser.identifier := by
  refine current L (fun kind lexeme p p' _ => ?_) fun _ _ _ _ _ _ _ => unexpected L _
  by_cases name : kind = .identifier
  · simp only [if_pos name]
    exact advance_at ended (t := ⟨kind, lexeme, p⟩) (by simp [name]) (pure rfl)
  · simp only [if_neg name]
    exact unexpected L _

end Tokens

end InStep

end ExprLang
