import ExprLang.Proofs.Syntax.Lexing
import ExprLang.Token.Stream

/-!
# Names among the tokens of a text

Every identifier token is a word, and a name unless the suffix of a qualified function name follows
it: the lexer takes the word before such a suffix for its qualifier even if it is reserved.
**Key theorem**: `Lexer.named_items`.

A lexer with a suffix pending stands at its colon or behind it, never elsewhere (`Awaits`).
-/

namespace ExprLang

/-- A colon and the name of a function come first. -/
def BeforeSuffix (items : List (Except ParseError Token)) : Prop :=
  ∃ colon name rest, items = .ok colon :: .ok name :: rest ∧ colon.kind = .colon ∧
    name.kind = .functionSuffix

/-- What holds of the text of a token with the given items behind it. -/
structure Token.Named (t : Token) (behind : List (Except ParseError Token)) : Prop where
  word : t.kind = .identifier → IsWord t.lexeme
  free : t.kind = .identifier → TokenKind.ofWord? t.lexeme = none ∨ BeforeSuffix behind
  suffix : t.kind = .functionSuffix → IsWord t.lexeme

/-- Every token among the items is `P` of itself and the items behind it. -/
def EachToken (P : Token → List (Except ParseError Token) → Prop)
    (items : List (Except ParseError Token)) : Prop :=
  ∀ t behind, .ok t :: behind <:+ items → P t behind

namespace EachToken

variable {P : Token → List (Except ParseError Token) → Prop}
  {items : List (Except ParseError Token)} {t : Token}

theorem suffix {later : List (Except ParseError Token)} (h : EachToken P items)
    (there : later <:+ items) : EachToken P later :=
  fun t behind found => h t behind (found.trans there)

theorem tail {item : Except ParseError Token} (h : EachToken P (item :: items)) :
    EachToken P items :=
  h.suffix (List.suffix_cons item items)

theorem head (h : EachToken P (.ok t :: items)) : P t items :=
  h t items (List.suffix_refl _)

theorem cons (ht : P t items) (h : EachToken P items) : EachToken P (.ok t :: items) := by
  intro u behind there
  rcases List.suffix_cons_iff.mp there with same | later
  · obtain ⟨same, rfl⟩ := List.cons.inj same
    obtain rfl : u = t := by simpa using same
    exact ht
  · exact h u behind later

theorem nil : EachToken P [] :=
  fun t behind there => by simp at there

theorem error (e : ParseError) : EachToken P [.error e] := by
  intro t behind there
  rcases List.suffix_cons_iff.mp there with same | later
  · cases same
  · simp at later

end EachToken

/-- Every token among the items is `Token.Named`. -/
abbrev Named (items : List (Except ParseError Token)) : Prop :=
  EachToken Token.Named items

/-- A token that is neither a name nor a suffix. -/
theorem Token.Named.of_other {t : Token} {behind : List (Except ParseError Token)}
    (notName : t.kind ≠ .identifier) (notSuffix : t.kind ≠ .functionSuffix) : t.Named behind :=
  ⟨fun same => absurd same notName, fun same => absurd same notName,
    fun same => absurd same notSuffix⟩

namespace Lexer

/-- The lexer stands at the colon between a qualifier and the name of a function. -/
structure AtColon (l : Lexer) : Prop where
  pending : l.suffixPending = true
  inside : l.mode ≠ .text
  suffix : startsSuffix l.rest = true

/-- The lexer stands behind that colon. -/
structure AtSuffix (l : Lexer) : Prop where
  pending : l.suffixPending = true
  inside : l.mode ≠ .text
  start : ∃ c cs, l.rest = c :: cs ∧ isWordStart c = true

/-- Where the lexer stands in the reading of a qualified name, if anywhere. -/
inductive Awaits (l : Lexer) : Prop where
  | nothing : l.suffixPending = false → Awaits l
  | colon : l.AtColon → Awaits l
  | suffix : l.AtSuffix → Awaits l

/-- How a token `t` is read by `l`, with `l'` behind it: outside of a qualified name, or as one of
the three parts of one. -/
inductive Follows (l : Lexer) (t : Token) (l' : Lexer) : Prop where
  | other : l.suffixPending = false → l'.suffixPending = false → t.kind ≠ .identifier →
      t.kind ≠ .functionSuffix → Follows l t l'
  | name : l.suffixPending = false → l'.suffixPending = false → t.kind = .identifier →
      IsWord t.lexeme → TokenKind.ofWord? t.lexeme = none → Follows l t l'
  | qualifier : l.suffixPending = false → l'.AtColon → t.kind = .identifier → IsWord t.lexeme →
      Follows l t l'
  | colon : l.AtColon → l'.AtSuffix → t.shown = (.colon, TokenKind.colon.image) → Follows l t l'
  | suffix : l.AtSuffix → l'.suffixPending = false → t.kind = .functionSuffix → IsWord t.lexeme →
      Follows l t l'

/-- Reading a token keeps to where a lexer can stand. -/
theorem Follows.awaits {l l' : Lexer} {t : Token} (h : Follows l t l') : l'.Awaits := by
  cases h with
  | other _ fresh => exact .nothing fresh
  | name _ fresh => exact .nothing fresh
  | qualifier _ colon => exact .colon colon
  | colon _ suffix => exact .suffix suffix
  | suffix _ fresh => exact .nothing fresh

/-- The characters of a word, as the lexer takes them. -/
theorem isWord_takeWhile {c : Char} {cs : List Char} (start : isWordStart c = true) :
    IsWord (String.ofList ((c :: cs).takeWhile isWordPart)) := by
  refine ⟨c, cs.takeWhile isWordPart, ?_, start, ?_⟩
  · simp [isWordPart_of_isWordStart start]
  · intro d mem
    exact List.all_eq_true.mp List.all_takeWhile d mem

/-- Only a word is a name, or the name of a function. -/
theorem other_of_mem_kinds {cls : TokenClass} {kind : TokenKind} (mem : kind ∈ cls.kinds)
    (notWord : cls ≠ .word) : kind ≠ .identifier ∧ kind ≠ .functionSuffix := by
  revert kind
  cases cls with
  | word => exact absurd rfl notWord
  | _ => decide

theorem ofWord?_other {word : String} {kind : TokenKind} (h : TokenKind.ofWord? word = some kind) :
    kind ≠ .identifier ∧ kind ≠ .functionSuffix := by
  have mem := (TokenKind.image_of_ofWord? h).1
  constructor <;> rintro rfl <;> revert mem <;> decide

/-- The parts of a suffix. -/
theorem of_startsSuffix {cs : List Char} (h : startsSuffix cs = true) :
    ∃ c rest, cs = ':' :: c :: rest ∧ isWordStart c = true := by
  unfold startsSuffix at h
  split at h
  · rename_i c rest
    rw [Bool.and_eq_true] at h
    exact ⟨c, rest, rfl, h.1⟩
  · cases h

/-! ### One token -/

theorem follows_nextInText {l : Lexer} (fresh : l.suffixPending = false) :
    Follows l l.nextInText.1 l.nextInText.2 := by
  unfold nextInText
  split
  · exact .other fresh fresh (by simp [Token.atEnd]) (by simp [Token.atEnd])
  · exact .other fresh fresh (by simp) (by simp)
  · exact .other fresh fresh (by simp) (by simp)
  · exact .other fresh fresh (by simp) (by simp)

section Fresh

variable {l m : Lexer} (fresh : l.suffixPending = false) (fresh' : m.suffixPending = false)
  (inside : m.mode ≠ .text)
include fresh fresh' inside

theorem follows_nextWord {c : Char} {cs : List Char} (rest : m.rest = c :: cs)
    (start : isWordStart c = true) : Follows l m.nextWord.1 m.nextWord.2 := by
  have word : IsWord (String.ofList ((c :: cs).takeWhile isWordPart)) := isWord_takeWhile start
  unfold nextWord
  rw [rest, fresh']
  dsimp only
  rw [if_neg Bool.false_ne_true]
  split
  · rename_i suffix
    exact .qualifier fresh ⟨rfl, inside, suffix⟩ rfl word
  · cases reserved : TokenKind.ofWord? (String.ofList ((c :: cs).takeWhile isWordPart)) with
    | none => exact .name fresh fresh' rfl word reserved
    | some kind =>
      obtain ⟨notName, notSuffix⟩ := ofWord?_other reserved
      exact .other fresh fresh' notName notSuffix

theorem follows_nextToken {t : Token} (read : m.nextToken.1 = .ok t) :
    Follows l t m.nextToken.2 := by
  cases rest : m.rest with
  | nil =>
    simp only [nextToken, rest] at read ⊢
    cases read
    exact .other fresh fresh' (by simp [Token.atEnd]) (by simp [Token.atEnd])
  | cons c cs =>
    rw [nextToken_eq rest] at read ⊢
    have mem := kind_of_nextOf m c read
    cases kind : classOf c cs.head? with
    | word =>
      rw [kind] at read
      cases read
      exact follows_nextWord fresh fresh' inside rest (isWordStart_of_classOf kind)
    | string =>
      rw [kind] at read mem
      obtain ⟨notName, notSuffix⟩ := other_of_mem_kinds mem (by simp)
      refine .other fresh ?_ notName notSuffix
      unfold nextOf nextString at read ⊢
      dsimp only at read ⊢
      split at read <;> cases read
      exact fresh'
    | _ =>
      rw [kind] at mem
      obtain ⟨notName, notSuffix⟩ := other_of_mem_kinds mem (by simp)
      exact .other fresh fresh' notName notSuffix

end Fresh

/-- At the colon of a qualified name it is read. -/
theorem AtColon.next {l : Lexer} (here : l.AtColon) :
    ∃ (t : Token) (next : Lexer), l.next = (.ok t, next) ∧
      t.shown = (.colon, TokenKind.colon.image) ∧ next.AtSuffix ∧ l.rest = ':' :: next.rest := by
  obtain ⟨c, cs, rest, start⟩ := of_startsSuffix here.suffix
  have behind := rest_skipGap rest (by decide)
  have rest' : (l.skipGap.skip 1).rest = c :: cs := by
    rw [rest_skip, behind]
    rfl
  refine ⟨_, _, (next_inside here.inside).trans (nextToken_colon behind start), rfl, ?_, ?_⟩
  · exact ⟨here.pending, here.inside, c, cs, rest', start⟩
  · rw [rest', rest]

/-- Behind that colon the name of the function is read. -/
theorem AtSuffix.next {l : Lexer} (here : l.AtSuffix) :
    ∃ (t : Token) (next : Lexer), l.next = (.ok t, next) ∧ t.kind = .functionSuffix ∧
      IsWord t.lexeme ∧ next.suffixPending = false ∧ next.mode ≠ .text ∧
      next.rest = l.rest.dropWhile isWordPart := by
  obtain ⟨c, cs, rest, start⟩ := here.start
  have behind := rest_skipGap rest (not_isGap_of_isWordStart start)
  have pending : l.skipGap.suffixPending = true := here.pending
  have word : IsWord (String.ofList (l.skipGap.rest.takeWhile isWordPart)) := by
    rw [behind]
    exact isWord_takeWhile start
  refine ⟨_, _, (next_inside here.inside).trans (nextToken_word behind start), ?_⟩
  unfold nextWord
  rw [if_pos pending]
  refine ⟨rfl, word, rfl, here.inside, ?_⟩
  rw [rest, ← behind]
  exact drop_length_takeWhile isWordPart _

/-- A lexer that stands where one can reads a token that may stand there. -/
theorem follows_next {l : Lexer} {t : Token} (h : l.Awaits) (read : l.next.1 = .ok t) :
    Follows l t l.next.2 := by
  cases h with
  | nothing fresh =>
    -- literal text has no words, so only expressions can leave a suffix pending
    by_cases inside : l.mode = .text
    · rw [next_inText inside] at read ⊢
      cases read
      exact follows_nextInText fresh
    · rw [next_inside inside] at read ⊢
      exact follows_nextToken (m := l.skipGap) fresh fresh inside read
  | colon here =>
    obtain ⟨u, next, same, shown, suffix, -⟩ := here.next
    rw [same] at read ⊢
    cases read
    exact .colon here suffix shown
  | suffix here =>
    obtain ⟨u, next, same, kind, word, fresh, -⟩ := here.next
    rw [same] at read ⊢
    cases read
    exact .suffix here fresh kind word

/-! ### Whole texts -/

/-- At the colon of a qualified name, that colon, the name of the function and the parenthesis of its
arguments come next. -/
theorem AtColon.items {l : Lexer} (here : l.AtColon) :
    ∃ (colon name paren : Token) (behind : List (Except ParseError Token)),
      l.items = .ok colon :: .ok name :: .ok paren :: behind ∧
      colon.shown = (.colon, TokenKind.colon.image) ∧ name.kind = .functionSuffix ∧
      IsWord name.lexeme ∧ paren.shown = (.openParen, TokenKind.openParen.image) := by
  obtain ⟨colon, onName, first, shown, suffix, rest⟩ := here.next
  obtain ⟨name, onParen, second, kind, word, -, inside, rest'⟩ := suffix.next
  -- the parenthesis is what makes the word in front of the colon a qualifier
  obtain ⟨cs, third⟩ : ∃ cs, onParen.skipGap.rest = '(' :: cs := by
    have starts := here.suffix
    obtain ⟨c, cs, text, start⟩ := suffix.start
    have part := isWordPart_of_isWordStart start
    rw [rest, text, startsSuffix, start, Bool.true_and, beq_iff_eq] at starts
    rw [rest_skipGap_eq_dropWhile, rest', text, List.dropWhile_cons_of_pos part]
    exact List.head?_eq_some_iff.mp starts
  have colonKind : colon.kind = .colon := congrArg Prod.fst shown
  let paren : Token := ⟨.openParen, TokenKind.openParen.image, onParen.skipGap.position⟩
  refine ⟨colon, name, paren, (onParen.skipGap.skip 1).items, ?_, shown, kind, word, rfl⟩
  rw [items_of_token (congrArg Prod.fst first) (by simp [colonKind]), first,
    items_of_token (congrArg Prod.fst second) (by simp [kind]), second,
    items_cons inside (nextToken_openParen third) (by simp)]

/-- At the colon of a qualified name, that colon and the name of the function come next. -/
theorem beforeSuffix_items {l : Lexer} (here : l.AtColon) : BeforeSuffix l.items := by
  obtain ⟨colon, name, paren, behind, items, shown, kind, -⟩ := here.items
  exact ⟨colon, name, _, items, congrArg Prod.fst shown, kind⟩

/-- Every token of a text is `Token.Named`. -/
theorem named_items {l : Lexer} (h : l.Awaits) : Named l.items := by
  induction l using items.induct with
  | case1 l e read =>
    rw [items_of_error read]
    exact .error e
  | case2 l t read final =>
    rw [items_of_end read final]
    have other : t.Named [] := .of_other (by simp [final]) (by simp [final])
    exact .cons other .nil
  | case3 l t read more shorter ih =>
    rw [items_of_token read more]
    have follows := follows_next h read
    refine .cons ?_ (ih follows.awaits)
    cases follows with
    | other _ _ notName notSuffix => exact .of_other notName notSuffix
    | name _ _ kind word free => exact ⟨fun _ => word, fun _ => .inl free, by simp [kind]⟩
    | qualifier _ colon kind word =>
      -- a reserved word is a name only at the colon, where the suffix is known to follow
      exact ⟨fun _ => word, fun _ => .inr (beforeSuffix_items colon), by simp [kind]⟩
    | colon _ _ shown =>
      have kind : t.kind = .colon := congrArg Prod.fst shown
      exact .of_other (by simp [kind]) (by simp [kind])
    | suffix _ _ kind word => exact ⟨by simp [kind], by simp [kind], fun _ => word⟩

end Lexer

/-- The stream of a text names its tokens. -/
theorem TokenStream.named_ofLexer {l : Lexer} {s : TokenStream} (h : l.Awaits)
    (stream : TokenStream.ofLexer l = .ok s) : Named (.ok s.current :: s.ahead) := by
  have named := Lexer.named_items h
  unfold TokenStream.ofLexer at stream
  split at stream
  · cases stream
    exact .cons (.of_other (by simp [Token.atEnd]) (by simp [Token.atEnd])) .nil
  · cases stream
  · rename_i t ahead items
    cases stream
    rwa [items] at named

end ExprLang
