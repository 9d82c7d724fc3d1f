import ExprLang.Proofs.Effects
import ExprLang.Token.Stream

/-!
# Token buffers

A buffer stands on one token of a text and asks its lexer for another one only when it has to: to
move on, or to look at a token ahead, which it keeps until it gets there. `TokenBuffer.stream` is
the stream of what it stands on, what it has looked at and what the lexer still gives. A lambda is
told from a parenthesised expression by looking as far ahead as its parameters go
(`parametersEnd?`), and only then moving over them (`parameters`); both loops end because they read
a token in each round.
-/

namespace ExprLang

namespace Lexer

/-- Reading never makes the rest of the text longer. -/
theorem length_next_le (l : Lexer) : l.next.2.rest.length ≤ l.rest.length := by
  unfold next
  split
  · unfold nextInText
    split <;> simp
  · have shorter : l.skipGap.rest.length ≤ l.rest.length := by simp [skipGap]
    refine Nat.le_trans ?_ shorter
    generalize l.skipGap = m
    unfold nextToken nextString nextNumber nextWord nextSymbol
    split
    · exact Nat.le_refl _
    · dsimp only
      repeat' split
      all_goals simp

end Lexer

/-- A token, those ahead of it that have been looked at, and the lexer that gives the others. -/
structure TokenBuffer where
  current : Token
  lookahead : List Token
  lexer : Lexer
deriving Repr

/-- What is done with a buffer gives a result or an error, and leaves a buffer in either case. -/
abbrev BufferM (α : Type) :=
  ExceptT ParseError (StateM TokenBuffer) α

namespace TokenBuffer

/-- The buffer on the first token of a lexer. -/
def ofLexer (l : Lexer) : Except ParseError TokenBuffer :=
  l.next.1.map fun t => ⟨t, [], l.next.2⟩

/-- The token, those that have been looked at, and all that the lexer gives. -/
def stream (b : TokenBuffer) : TokenStream :=
  ⟨b.current, b.lookahead.map .ok ++ b.lexer.items⟩

/-- Moves to the next token: the first that has been looked at, else one of the lexer. -/
def advance : BufferM Unit := fun b =>
  match b.lookahead with
  | t :: later => (.ok (), { b with current := t, lookahead := later })
  | [] =>
    match b.lexer.next with
    | (.ok t, l) => (.ok (), { b with current := t, lexer := l })
    | (.error e, l) => (.error e, { b with lexer := l })

/-- Looks at so many more tokens. -/
def lookOn : Nat → BufferM Unit
  | 0 => fun b => (.ok (), b)
  | n + 1 => fun b =>
    match b.lexer.next with
    | (.ok t, l) => lookOn n { b with lookahead := b.lookahead ++ [t], lexer := l }
    | (.error e, l) => (.error e, { b with lexer := l })

/-- The token `n` places after the next one. -/
def peek (n : Nat) : BufferM Token := do
  lookOn (n + 1 - (← get).lookahead.length)
  let b ← get
  return b.lookahead.getD n b.current

/-- The kind of the token `n` places after the next one. -/
def peekKind (n : Nat) : BufferM TokenKind := do
  return (← peek n).kind

/-- Moves past a token of a kind. -/
def expect (kind : TokenKind) : BufferM Unit := do
  let b ← get
  if b.current.kind = kind then advance else throw (b.stream.unexpected (.token kind))

/-- Moves past an identifier and gives its name. -/
def identifier : BufferM String := do
  let b ← get
  if b.current.kind = .identifier then
    advance
    return b.current.lexeme
  else
    throw (b.stream.unexpected .identifier)

/-- Moves past a comma, if the buffer stands on one. -/
def skipComma : BufferM Unit := do
  if (← get).current.kind = .comma then advance else return ()

/-- Moves past the name of a parameter, and past the comma after it if there is one. -/
def parameter : BufferM String := do
  let name ← identifier
  skipComma
  return name

/-! ### Progress -/

/-- How much there is to read: the characters of the lexer, the tokens that have been looked at, and
the token that the buffer stands on unless it is the end. -/
def size (b : TokenBuffer) : Nat :=
  b.lexer.rest.length + b.lookahead.length + if b.current.kind = .endOfText then 0 else 1

section Progress

variable {b after : TokenBuffer} {n : Nat}

theorem size_advance_lt (moved : advance b = (.ok (), after))
    (notEnd : b.current.kind ≠ .endOfText) : after.size < b.size := by
  unfold advance at moved
  split at moved
  · rename_i t later ahead
    cases moved
    simp only [size, ahead, notEnd, if_false, List.length_cons]
    split <;> omega
  · rename_i ahead
    split at moved
    · rename_i t l read
      have behind : b.lexer.next.2 = l := congrArg Prod.snd read
      cases moved
      simp only [size, ahead, notEnd, if_false, List.length_nil, ← behind]
      by_cases final : t.kind = .endOfText
      · have shorter := b.lexer.length_next_le
        simp only [final, if_true]
        omega
      · have shorter := Lexer.length_next_lt (congrArg Prod.fst read) final
        simp only [final, if_false]
        omega
    · cases moved

theorem size_identifier_lt {name : String} (read : identifier b = (.ok name, after)) :
    after.size < b.size := by
  unfold identifier at read
  rw [get_bind_apply] at read
  by_cases kind : b.current.kind = .identifier
  · rw [if_pos kind] at read
    obtain ⟨_, between, moved, result⟩ := bind_ok read
    cases result
    exact size_advance_lt moved (by simp [kind])
  · rw [if_neg kind] at read
    cases read

theorem size_skipComma_le (moved : skipComma b = (.ok (), after)) : after.size ≤ b.size := by
  unfold skipComma at moved
  rw [get_bind_apply] at moved
  by_cases comma : b.current.kind = .comma
  · rw [if_pos comma] at moved
    exact Nat.le_of_lt (size_advance_lt moved (by simp [comma]))
  · rw [if_neg comma] at moved
    cases moved
    exact Nat.le_refl _

theorem size_parameter_lt {name : String} (read : parameter b = (.ok name, after)) :
    after.size < b.size := by
  obtain ⟨name', between, first, rest⟩ := bind_ok read
  obtain ⟨_, last, moved, result⟩ := bind_ok rest
  cases result
  exact Nat.lt_of_le_of_lt (size_skipComma_le moved) (size_identifier_lt first)

/-- The tokens that are looked at come from the lexer. -/
theorem lookOn_progress (looked : lookOn n b = (.ok (), after)) :
    ∃ ts : List Token, ts.length = n ∧ after.lookahead = b.lookahead ++ ts ∧
      after.lexer.rest.length ≤ b.lexer.rest.length ∧
      ∀ t ∈ ts, t.kind ≠ .endOfText → after.lexer.rest.length < b.lexer.rest.length := by
  induction n generalizing b with
  | zero =>
    cases looked
    exact ⟨[], rfl, by simp, Nat.le_refl _, nofun⟩
  | succ n ih =>
    unfold lookOn at looked
    split at looked
    · rename_i t l read
      have behind : b.lexer.next.2 = l := congrArg Prod.snd read
      obtain ⟨ts, length, ahead, shorter, strict⟩ := ih looked
      have first : l.rest.length ≤ b.lexer.rest.length := behind ▸ b.lexer.length_next_le
      refine ⟨t :: ts, by simp [length], by simp [ahead], Nat.le_trans shorter first, ?_⟩
      intro u mem notEnd
      rcases List.mem_cons.mp mem with rfl | later
      · have less : l.rest.length < b.lexer.rest.length :=
          behind ▸ Lexer.length_next_lt (congrArg Prod.fst read) notEnd
        exact Nat.lt_of_le_of_lt shorter less
      · exact Nat.lt_of_lt_of_le (strict u later notEnd) first
    · cases looked

/-- Looking at a token other than the end leaves less to look at behind it. -/
theorem peek_progress {t : Token} (looked : peek n b = (.ok t, after))
    (notEnd : t.kind ≠ .endOfText) :
    after.lexer.rest.length + (after.lookahead.length - (n + 1)) <
      b.lexer.rest.length + (b.lookahead.length - n) := by
  unfold peek at looked
  rw [get_bind_apply] at looked
  obtain ⟨_, between, filled, result⟩ := bind_ok looked
  obtain ⟨ts, length, ahead, shorter, strict⟩ := lookOn_progress filled
  have total := congrArg List.length ahead
  rw [List.length_append, length] at total
  cases result
  by_cases inside : n < b.lookahead.length
  · omega
  · have mem : after.lookahead.getD n after.current ∈ ts := by
      have there : n - b.lookahead.length < ts.length := by omega
      have same : after.lookahead.getD n after.current = ts[n - b.lookahead.length] := by
        rw [List.getD_eq_getElem?_getD, ahead, List.getElem?_append_right (by omega),
          List.getElem?_eq_getElem there]
        rfl
      rw [same]
      exact List.getElem_mem there
    have less := strict _ mem notEnd
    omega

end Progress

/-- The place of the parenthesis that closes a list of parameters, which is looked for from the
token `n` places after the next one on: names with commas between them, of which a name comes next
or has just been passed, and perhaps nothing. It is `none` if there is no such list. -/
def parametersEnd? (n : Nat) (nameNext : Bool) : BufferM (Option Nat) := fun b =>
  match looked : peek n b with
  | (.error e, after) => (.error e, after)
  | (.ok t, after) =>
    if t.kind = .closeParen ∧ (n = 0 ∨ nameNext = false) then (.ok (some n), after)
    else if next : t.kind = if nameNext then .identifier else .comma then
      parametersEnd? (n + 1) (!nameNext) after
    else (.ok none, after)
termination_by b => b.lexer.rest.length + (b.lookahead.length - n)
decreasing_by
  refine peek_progress looked ?_
  cases nameNext <;> simp [next]

/-- The names of parameters up to a closing parenthesis. -/
def parameters : BufferM (List String) := fun b =>
  if b.current.kind = .closeParen then (.ok [], b)
  else
    match _read : parameter b with
    | (.error e, after) => (.error e, after)
    | (.ok name, after) =>
      match parameters after with
      | (.error e, last) => (.error e, last)
      | (.ok more, last) => (.ok (name :: more), last)
termination_by b => b.size
decreasing_by exact size_parameter_lt ‹_›

/-- The parameters of a lambda, if the buffer stands at the start of one: a name or a parameter
list, with an arrow after it. The buffer then stands on the arrow, and else where it stood. -/
def lambdaParameters? : BufferM (Option (List String)) := do
  let start := (← get).current
  if start.kind = .identifier then
    if (← peekKind 0) = .arrow then return some [← identifier] else return none
  else if start.kind = .openParen then
    match ← parametersEnd? 0 true with
    | none => return none
    | some n =>
      if (← peekKind (n + 1)) = .arrow then
        advance
        let params ← parameters
        expect .closeParen
        return some params
      else return none
  else return none

end TokenBuffer

end ExprLang
