import ExprLang.Proofs.Syntax.Front
import ExprLang.Proofs.Syntax.TokensKept.Combinators

/-!
# Streams that show the same tokens up to a place

Two streams are `Aligned` if they show the same tokens up to one place in each of them, at the end
of a text or at a brace that closes. The parser looks ahead for the suffix of a qualified name and
for the parameters of a lambda. Neither look gets past such a place, so that it shows the same on
both streams.
-/

namespace ExprLang

/-- The end of a text, or a brace that closes: where an expression may end, and none begins. -/
def TokenKind.isClosing : TokenKind → Bool
  | endOfText | closeBrace => true
  | _ => false

theorem TokenKind.isClosing_cases {kind : TokenKind} (closing : kind.isClosing = true) :
    kind = .endOfText ∨ kind = .closeBrace := by
  cases kind <;> simp [isClosing] at closing ⊢

theorem TokenKind.ne_of_isClosing {kind other : TokenKind} (closing : kind.isClosing = true)
    (notClosing : other.isClosing = false) : kind ≠ other := by
  rintro rfl
  rw [closing] at notClosing
  cases notClosing

/-- Two streams on the places up to which others are compared. A brace has something behind it. -/
structure Places (z z' : TokenStream) : Prop where
  left : z.current.kind.isClosing = true
  right : z'.current.kind.isClosing = true
  behind : z.current.kind ≠ .endOfText → z.ahead ≠ []

/-- The streams show the same `n` tokens, and stand on the places behind these. -/
inductive Aligned (z z' : TokenStream) : Nat → TokenStream → TokenStream → Prop where
  | last : Aligned z z' 0 z z'
  | more {n : Nat} {s s' u u' : TokenStream} : s.current.shown = u.current.shown →
      s.ahead = s'.items → u.ahead = u'.items → Aligned z z' n s' u' → Aligned z z' (n + 1) s u

namespace TokenStream

variable {s s' : TokenStream}

theorem advance_of_ahead (ahead : s.ahead = s'.items) : s.advance = .ok s' := by
  unfold advance
  rw [ahead]
  rfl

/-- A stream with something ahead does not come back to where it is. -/
theorem not_suffix_of_advance (more : s.ahead ≠ []) (moved : s.advance = .ok s') :
    ¬s.items <:+ s'.items := by
  unfold advance at moved
  split at moved
  · rename_i none
    exact absurd none more
  · cases moved
  · rename_i ahead
    cases moved
    intro back
    have length := back.length_le
    simp only [items, ahead, List.length_cons] at length
    omega

/-! ### Looking ahead -/

theorem suffixAhead?_of_colon {s'' : TokenStream} (ahead : s.ahead = s'.items)
    (ahead' : s'.ahead = s''.items) (colon : s'.current.kind = .colon) :
    s.suffixAhead? = .ok (s''.current.kind == .functionSuffix) := by
  simp [suffixAhead?, peekKind, peek, ahead, ahead', items, Except.map, colon, bind, Except.bind,
    pure, Except.pure]

theorem suffixAhead?_of_not_colon (ahead : s.ahead = s'.items) (other : s'.current.kind ≠ .colon) :
    s.suffixAhead? = .ok false := by
  simp [suffixAhead?, peekKind, peek, ahead, items, Except.map, other, bind, Except.bind, pure,
    Except.pure]

theorem names?_of_not_name (other : s.current.kind ≠ .identifier) :
    parameters?.names? s.items = .ok none := by
  unfold parameters?.names?
  simp [items, other]

theorem names?_of_name (name : s.current.kind = .identifier) (ahead : s.ahead = s'.items) :
    parameters?.names? s.items =
      if s'.current.kind = .closeParen then .ok (some ([s.current.lexeme], s'.ahead))
      else if s'.current.kind = .comma then
        (parameters?.names? s'.ahead).map fun found => found.map fun (names, rest) =>
          (s.current.lexeme :: names, rest)
      else .ok none := by
  rw [items, ahead, items]
  simp [parameters?.names?, name]

end TokenStream

namespace Aligned

variable {z z' : TokenStream} {n : Nat} {s u : TokenStream}

/-- Both streams are at a token of a kind that does not close, or neither is. -/
theorem kind_eq_iff (places : Places z z') (aligned : Aligned z z' n s u) (kind : TokenKind)
    (notClosing : kind.isClosing = false) : s.current.kind = kind ↔ u.current.kind = kind := by
  cases aligned with
  | last =>
    have left := TokenKind.ne_of_isClosing places.left notClosing
    have right := TokenKind.ne_of_isClosing places.right notClosing
    exact ⟨fun same => absurd same left, fun same => absurd same right⟩
  | more same =>
    have kinds : s.current.kind = u.current.kind := congrArg Prod.fst same
    rw [kinds]

/-- At a token that does not close, the places are further ahead. -/
theorem of_notClosing (places : Places z z') (aligned : Aligned z z' n s u)
    (notClosing : s.current.kind.isClosing = false) :
    ∃ m s' u', n = m + 1 ∧ s.current.shown = u.current.shown ∧ s.ahead = s'.items ∧
      u.ahead = u'.items ∧ Aligned z z' m s' u' := by
  cases aligned with
  | last =>
    rw [places.left] at notClosing
    cases notClosing
  | more same ahead ahead' rest => exact ⟨_, _, _, rfl, same, ahead, ahead', rest⟩

theorem suffixAhead? (places : Places z z') (aligned : Aligned z z' n s u)
    (name : s.current.kind = .identifier) :
    ∃ b, s.suffixAhead? = .ok b ∧ u.suffixAhead? = .ok b := by
  obtain ⟨m, s₁, u₁, -, -, ahead, ahead', aligned⟩ :=
    aligned.of_notClosing places (by rw [name]; rfl)
  have colons := aligned.kind_eq_iff places .colon rfl
  by_cases colon : s₁.current.kind = .colon
  · obtain ⟨k, s₂, u₂, -, -, ahead₁, ahead₁', behind⟩ :=
      aligned.of_notClosing places (by rw [colon]; rfl)
    have suffixes := behind.kind_eq_iff places .functionSuffix rfl
    have same : (s₂.current.kind == .functionSuffix) = (u₂.current.kind == .functionSuffix) :=
      Bool.eq_iff_iff.mpr (by simpa using suffixes)
    refine ⟨_, TokenStream.suffixAhead?_of_colon ahead ahead₁ colon, ?_⟩
    rw [same]
    exact TokenStream.suffixAhead?_of_colon ahead' ahead₁' (colons.mp colon)
  · exact ⟨false, TokenStream.suffixAhead?_of_not_colon ahead colon,
      TokenStream.suffixAhead?_of_not_colon ahead' (mt colons.mpr colon)⟩

end Aligned

/-- What two looks for parameters find: nothing, or the same parameters with fewer than `n` tokens
behind them that are aligned. -/
inductive Found (z z' : TokenStream) (n : Nat) :
    Option (List String × TokenStream) → Option (List String × TokenStream) → Prop where
  | nothing : Found z z' n none none
  | parameters {m : Nat} {params : List String} {s u : TokenStream} : m < n → Aligned z z' m s u →
      Found z z' n (some (params, s)) (some (params, u))

theorem Found.mono {z z' : TokenStream} {m n : Nat}
    {found found' : Option (List String × TokenStream)} (h : Found z z' m found found')
    (le : m ≤ n) : Found z z' n found found' := by
  cases h with
  | nothing => exact .nothing
  | parameters fewer aligned => exact .parameters (by omega) aligned

/-- Parameters with the items behind them. -/
def withItems : List String × TokenStream → List String × List (Except ParseError Token)
  | (params, s) => (params, s.items)

namespace Aligned

variable {z z' : TokenStream} {n : Nat} {s u : TokenStream}

theorem names? (places : Places z z') (aligned : Aligned z z' n s u) :
    ∃ found found', TokenStream.parameters?.names? s.items = .ok (found.map withItems) ∧
      TokenStream.parameters?.names? u.items = .ok (found'.map withItems) ∧
      Found z z' n found found' := by
  -- on the tokens in front of the places; a name with its comma takes two of them
  induction n using Nat.strongRecOn generalizing s u with
  | ind n ih =>
    have names := aligned.kind_eq_iff places .identifier rfl
    by_cases name : s.current.kind = .identifier
    · obtain ⟨m, s₁, u₁, rfl, same, ahead, ahead', aligned⟩ :=
        aligned.of_notClosing places (by rw [name]; rfl)
      have lexemes : s.current.lexeme = u.current.lexeme := congrArg Prod.snd same
      have closes := aligned.kind_eq_iff places .closeParen rfl
      have commas := aligned.kind_eq_iff places .comma rfl
      rw [TokenStream.names?_of_name name ahead, lexemes,
        TokenStream.names?_of_name (names.mp name) ahead']
      by_cases close : s₁.current.kind = .closeParen
      · obtain ⟨k, s₂, u₂, rfl, -, ahead, ahead', aligned⟩ :=
          aligned.of_notClosing places (by rw [close]; rfl)
        rw [if_pos close, if_pos (closes.mp close), ahead, ahead']
        exact ⟨some ([u.current.lexeme], s₂), some ([u.current.lexeme], u₂), rfl, rfl,
          .parameters (by omega) aligned⟩
      rw [if_neg close, if_neg (mt closes.mpr close)]
      by_cases comma : s₁.current.kind = .comma
      · obtain ⟨k, s₂, u₂, rfl, -, ahead, ahead', aligned⟩ :=
          aligned.of_notClosing places (by rw [comma]; rfl)
        rw [if_pos comma, if_pos (commas.mp comma), ahead, ahead']
        obtain ⟨found, found', looked, looked', same⟩ := ih k (by omega) aligned
        rw [looked, looked']
        cases same with
        | nothing => exact ⟨none, none, rfl, rfl, .nothing⟩
        | parameters fewer aligned =>
          exact ⟨some (_, _), some (_, _), rfl, rfl, .parameters (by omega) aligned⟩
      · rw [if_neg comma, if_neg (mt commas.mpr comma)]
        exact ⟨none, none, rfl, rfl, .nothing⟩
    · exact ⟨none, none, TokenStream.names?_of_not_name name,
        TokenStream.names?_of_not_name (mt names.mpr name), .nothing⟩

theorem parameters? (places : Places z z') (aligned : Aligned z z' n s u) :
    ∃ found found', TokenStream.parameters? s.items = .ok (found.map withItems) ∧
      TokenStream.parameters? u.items = .ok (found'.map withItems) ∧ Found z z' n found found' := by
  have closes := aligned.kind_eq_iff places .closeParen rfl
  by_cases close : s.current.kind = .closeParen
  · obtain ⟨m, s₁, u₁, rfl, -, ahead, ahead', aligned⟩ :=
      aligned.of_notClosing places (by rw [close]; rfl)
    refine ⟨some ([], s₁), some ([], u₁), ?_, ?_, .parameters (by omega) aligned⟩
    · simp [TokenStream.parameters?, TokenStream.items, close, ahead, withItems]
    · simp [TokenStream.parameters?, TokenStream.items, closes.mp close, ahead', withItems]
  · have names (s : TokenStream) (open' : s.current.kind ≠ .closeParen) :
        TokenStream.parameters? s.items = TokenStream.parameters?.names? s.items := by
      simp [TokenStream.parameters?, TokenStream.items, open']
    rw [names s close, names u (mt closes.mpr close)]
    exact aligned.names? places

/-- An arrow behind the parameters, or none. -/
theorem found_arrow (places : Places z z') (params : List String) (aligned : Aligned z z' n s u) :
    Found z z' (n + 1) (if s.current.kind = .arrow then some (params, s) else none)
      (if u.current.kind = .arrow then some (params, u) else none) := by
  have arrows := aligned.kind_eq_iff places .arrow rfl
  by_cases arrow : s.current.kind = .arrow
  · rw [if_pos arrow, if_pos (arrows.mp arrow)]
    exact .parameters (by omega) aligned
  · rw [if_neg arrow, if_neg (mt arrows.mpr arrow)]
    exact .nothing

theorem lambdaHeader? (places : Places z z') (aligned : Aligned z z' n s u) :
    ∃ found found', s.lambdaHeader? = .ok found ∧ u.lambdaHeader? = .ok found' ∧
      Found z z' n found found' := by
  have names := aligned.kind_eq_iff places .identifier rfl
  have parens := aligned.kind_eq_iff places .openParen rfl
  by_cases name : s.current.kind = .identifier
  · obtain ⟨m, s₁, u₁, rfl, same, ahead, ahead', aligned⟩ :=
      aligned.of_notClosing places (by rw [name]; rfl)
    have lexemes : s.current.lexeme = u.current.lexeme := congrArg Prod.snd same
    refine ⟨_, _, TokenStream.lambdaHeader?_of_name name ahead,
      TokenStream.lambdaHeader?_of_name (names.mp name) ahead', ?_⟩
    rw [lexemes]
    exact aligned.found_arrow places [u.current.lexeme]
  by_cases paren : s.current.kind = .openParen
  · obtain ⟨m, s₁, u₁, rfl, -, ahead, ahead', aligned⟩ :=
      aligned.of_notClosing places (by rw [paren]; rfl)
    obtain ⟨list, list', looked, looked', same⟩ := aligned.parameters? places
    rw [← ahead] at looked
    rw [← ahead'] at looked'
    cases same with
    | nothing =>
      exact ⟨none, none, TokenStream.lambdaHeader?_of_none paren looked,
        TokenStream.lambdaHeader?_of_none (parens.mp paren) looked', .nothing⟩
    | parameters fewer aligned =>
      exact ⟨_, _, TokenStream.lambdaHeader?_of_parameters paren looked,
        TokenStream.lambdaHeader?_of_parameters (parens.mp paren) looked',
        (aligned.found_arrow places _).mono (by omega)⟩
  · exact ⟨none, none, TokenStream.lambdaHeader?_of_other name paren,
      TokenStream.lambdaHeader?_of_other (mt names.mpr name) (mt parens.mpr paren), .nothing⟩

end Aligned

end ExprLang
