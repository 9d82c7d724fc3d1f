import ExprLang.Proofs.Syntax.Progress
import ExprLang.Token.Buffer
import Mathlib.Data.Stream.Init

/-!
# Looking ahead in a buffer

`TokenBuffer.sequence` is what there is from the token of a buffer on: the token, those that have
been looked at and what the lexer gives after them, without end. To look ahead only brings tokens
from the lexer into the buffer, so that the sequence is the same afterwards (`LooksOn`); if there is
an error on the way, the sequence is afterwards without that error (`Drops`). `Looked` says that a
run did one or the other, and `Passes` that it moved over some tokens. What is seen is what the
stream of the buffer shows (`peek_eq`).
-/

namespace ExprLang

namespace Lexer

/-- What the lexer gives when it is asked again and again, behind an error and at the end too. -/
def output (l : Lexer) : Stream' (Except ParseError Token) :=
  fun n => (l.after n).next.1

theorem output_eq_cons (l : Lexer) : l.output = .cons l.next.1 l.next.2.output := by
  refine Stream'.ext fun n => ?_
  cases n with
  | zero => rfl
  | succ n => exact congrArg (fun behind : Lexer => behind.next.1) (l.after_next n).symm

/-- The items of a text come first. -/
theorem exists_output_eq (l : Lexer) : ∃ behind, l.output = l.items ++ₛ behind := by
  induction l using Lexer.items.induct with
  | case1 l e read => exact ⟨_, by rw [output_eq_cons, read, items_of_error read]; rfl⟩
  | case2 l t read final => exact ⟨_, by rw [output_eq_cons, read, items_of_end read final]; rfl⟩
  | case3 l t read more shorter ih =>
    obtain ⟨behind, same⟩ := ih
    exact ⟨behind, by rw [output_eq_cons, read, items_of_token read more, same]; rfl⟩

end Lexer

namespace TokenBuffer

/-- The token, those that have been looked at, and what the lexer gives after them. -/
def sequence (b : TokenBuffer) : Stream' (Except ParseError Token) :=
  (b.current :: b.lookahead).map .ok ++ₛ b.lexer.output

/-- The tokens come first in the sequence of a buffer, whatever errors stand between them. -/
def Gives (b : TokenBuffer) (ts : List Token) : Prop :=
  ∃ n, (b.sequence.take n).filterMap Except.toOption = ts

/-- The buffer afterwards has looked at more tokens, or at no more. -/
structure LooksOn (b after : TokenBuffer) : Prop where
  current : after.current = b.current
  lookahead : b.lookahead <+: after.lookahead
  sequence : after.sequence = b.sequence

/-- The error is the first one in the sequence of the buffer, and is afterwards not in it. -/
def Drops (b : TokenBuffer) (e : ParseError) (after : TokenBuffer) : Prop :=
  ∃ (ts : List Token) (behind : Stream' (Except ParseError Token)),
    b.sequence = ts.map .ok ++ₛ .cons (.error e) behind ∧ after.sequence = ts.map .ok ++ₛ behind

/-- A run that gives a result has only looked at tokens, and one that gives an error has found it on
the way. -/
inductive Looked {α : Type} (b : TokenBuffer) : Except ParseError α × TokenBuffer → Prop
  | ok {a : α} {after : TokenBuffer} : b.LooksOn after → Looked b (.ok a, after)
  | error {e : ParseError} {after : TokenBuffer} : b.Drops e after → Looked b (.error e, after)

/-- The buffer afterwards stands behind the tokens. -/
structure Passes (b : TokenBuffer) (ts : List Token) (after : TokenBuffer) : Prop where
  items : b.stream.items = ts.map .ok ++ after.stream.items
  sequence : b.sequence = ts.map .ok ++ₛ after.sequence

variable {b between after : TokenBuffer} {e : ParseError} {n : Nat}

/-- The sequence begins with what the stream shows. -/
theorem exists_sequence_eq (b : TokenBuffer) :
    ∃ behind, b.sequence = b.stream.items ++ₛ behind := by
  obtain ⟨behind, same⟩ := b.lexer.exists_output_eq
  refine ⟨behind, ?_⟩
  rw [sequence, same, ← Stream'.append_append_stream]
  rfl

/-- A buffer on the first token of a lexer gives what the lexer gives. -/
theorem sequence_ofLexer {l : Lexer} (first : ofLexer l = .ok b) : b.sequence = l.output := by
  unfold ofLexer at first
  rcases read : l.next with ⟨e | t, behind⟩
  · rw [read] at first
    cases first
  · rw [read] at first
    cases first
    rw [l.output_eq_cons, read]
    rfl

/-- A lexing error is no token. -/
theorem Drops.gives_iff (h : b.Drops e after) (ts : List Token) : after.Gives ts ↔ b.Gives ts := by
  obtain ⟨us, behind, whole, without⟩ := h
  rw [Gives, Gives, whole, without]
  -- up to the error as many items are taken on both sides, and behind it one more with it
  generalize us.map Except.ok = front
  have short {n : Nat} (le : n ≤ front.length) (rest : Stream' (Except ParseError Token)) :
      (front ++ₛ rest).take n = front.take n := Stream'.take_append_of_le_length _ _ _ le
  have long (n : Nat) :
      ((front ++ₛ .cons (.error e) behind).take (front.length + (n + 1))).filterMap
          Except.toOption =
        ((front ++ₛ behind).take (front.length + n)).filterMap Except.toOption := by
    rw [← Stream'.append_take, ← Stream'.append_take, Stream'.take_succ_cons, List.filterMap_append,
      List.filterMap_append]
    rfl
  constructor
  · intro given
    obtain ⟨n, taken⟩ := given
    by_cases le : n ≤ front.length
    · exact ⟨n, by rw [short le, ← taken, short le]⟩
    · obtain ⟨k, rfl⟩ := Nat.exists_eq_add_of_lt (Nat.lt_of_not_le le)
      exact ⟨front.length + (k + 2), by rw [long, ← taken]; rfl⟩
  · intro given
    obtain ⟨n, taken⟩ := given
    by_cases le : n ≤ front.length
    · exact ⟨n, by rw [short le, ← taken, short le]⟩
    · obtain ⟨k, rfl⟩ := Nat.exists_eq_add_of_lt (Nat.lt_of_not_le le)
      exact ⟨front.length + k, by rw [← taken, ← long]; rfl⟩

theorem Passes.refl (b : TokenBuffer) : b.Passes [] b :=
  ⟨rfl, rfl⟩

theorem Passes.trans {ts us : List Token} (h : b.Passes ts between) (h' : between.Passes us after) :
    b.Passes (ts ++ us) after := by
  refine ⟨?_, ?_⟩
  · rw [h.items, h'.items, List.map_append, List.append_assoc]
  · rw [h.sequence, h'.sequence, List.map_append, Stream'.append_append_stream]

namespace LooksOn

variable {ts : List Token}

theorem refl (b : TokenBuffer) : b.LooksOn b :=
  ⟨rfl, List.prefix_rfl, rfl⟩

theorem trans (h : b.LooksOn between) (h' : between.LooksOn after) : b.LooksOn after :=
  ⟨h'.current.trans h.current, h.lookahead.trans h'.lookahead, h'.sequence.trans h.sequence⟩

theorem drops (h : b.LooksOn between) (h' : between.Drops e after) : b.Drops e after := by
  rwa [Drops, h.sequence] at h'

theorem gives_iff (h : b.LooksOn after) (ts : List Token) : after.Gives ts ↔ b.Gives ts := by
  rw [Gives, Gives, h.sequence]

theorem passes (h : b.LooksOn between) (same : between.stream = b.stream)
    (h' : between.Passes ts after) : b.Passes ts after := by
  refine ⟨?_, ?_⟩
  · rw [← same, h'.items]
  · rw [← h.sequence, h'.sequence]

end LooksOn

/-! ### One token of the lexer -/

/-- The buffer with one more token of the lexer. -/
theorem looksOn_of_next {t : Token} {l : Lexer} (read : b.lexer.next = (.ok t, l)) :
    b.LooksOn { b with lookahead := b.lookahead ++ [t], lexer := l } := by
  refine ⟨rfl, List.prefix_append _ _, ?_⟩
  rw [sequence, sequence, b.lexer.output_eq_cons, read, List.map_cons, List.map_append,
    List.map_cons, ← List.cons_append, Stream'.append_append_stream]
  rfl

theorem drops_of_next {l : Lexer} (read : b.lexer.next = (.error e, l)) :
    b.Drops e { b with lexer := l } := by
  refine ⟨b.current :: b.lookahead, l.output, ?_, rfl⟩
  rw [sequence, b.lexer.output_eq_cons, read]

theorem lookOn_of_next {t : Token} {l : Lexer} (read : b.lexer.next = (.ok t, l)) :
    lookOn (n + 1) b = lookOn n { b with lookahead := b.lookahead ++ [t], lexer := l } := by
  simp only [lookOn, read]

theorem lookOn_of_error {l : Lexer} (read : b.lexer.next = (.error e, l)) :
    lookOn (n + 1) b = (.error e, { b with lexer := l }) := by
  simp only [lookOn, read]

/-! ### Looks -/

section Looks

variable {α β : Type}

theorem LooksOn.looked {run : Except ParseError α × TokenBuffer} (looks : b.LooksOn between)
    (h : Looked between run) : Looked b run := by
  cases h with
  | ok looks' => exact .ok (looks.trans looks')
  | error dropped => exact .error (looks.drops dropped)

theorem Looked.bind {m : BufferM α} {f : α → BufferM β} (first : Looked b (m b))
    (rest : ∀ a between, m b = (.ok a, between) → Looked between (f a between)) :
    Looked b ((m >>= f) b) := by
  rw [bind_apply]
  generalize ran : m b = run at first
  cases first with
  | error dropped => exact .error dropped
  | ok looks => exact looks.looked (rest _ _ ran)

theorem looked_lookOn (n : Nat) (b : TokenBuffer) : Looked b (lookOn n b) := by
  induction n generalizing b with
  | zero => exact .ok (.refl b)
  | succ n ih =>
    rcases read : b.lexer.next with ⟨e | t, l⟩
    · rw [lookOn_of_error read]
      exact .error (drops_of_next read)
    · rw [lookOn_of_next read]
      exact (looksOn_of_next read).looked (ih _)

theorem looked_peek (n : Nat) (b : TokenBuffer) : Looked b (peek n b) := by
  refine Looked.bind (m := get) (.ok (.refl b)) fun b' between got => ?_
  cases got
  exact Looked.bind (looked_lookOn _ b) fun _ between _ => .ok (.refl between)

theorem looked_peekKind (n : Nat) (b : TokenBuffer) : Looked b (peekKind n b) :=
  Looked.bind (looked_peek n b) fun _ between _ => .ok (.refl between)

end Looks

/-! ### What is seen -/

section Peek

variable {t : Token} {l : Lexer}

theorem peek_of_lookOn (looked : lookOn (n + 1 - b.lookahead.length) b = (.ok (), after)) :
    peek n b = (.ok (after.lookahead.getD n after.current), after) := by
  unfold peek
  rw [get_bind_apply, bind_apply, looked]
  rfl

/-- A token that has been looked at is looked at again. -/
theorem peek_inside (inside : n < b.lookahead.length) : peek n b = (.ok b.lookahead[n], b) := by
  have none : n + 1 - b.lookahead.length = 0 := by omega
  have looked : lookOn (n + 1 - b.lookahead.length) b = (.ok (), b) := by
    rw [none]
    rfl
  rw [peek_of_lookOn looked, List.getD_eq_getElem?_getD, List.getElem?_eq_getElem inside]
  rfl

/-- A token that is further ahead is looked for behind the next one of the lexer. -/
theorem peek_of_next (outside : b.lookahead.length ≤ n) (read : b.lexer.next = (.ok t, l)) :
    peek n b = peek n { b with lookahead := b.lookahead ++ [t], lexer := l } := by
  have more : n + 1 - b.lookahead.length = (n + 1 - (b.lookahead ++ [t]).length) + 1 := by
    rw [List.length_append, List.length_singleton]
    omega
  unfold peek
  rw [get_bind_apply, get_bind_apply, bind_apply, bind_apply, more, lookOn_of_next read]

theorem peek_of_error (outside : b.lookahead.length ≤ n) (read : b.lexer.next = (.error e, l)) :
    peek n b = (.error e, { b with lexer := l }) := by
  have more : n + 1 - b.lookahead.length = (n - b.lookahead.length) + 1 := by omega
  unfold peek
  rw [get_bind_apply, bind_apply, more, lookOn_of_error read]

theorem peek_ok (looked : peek n b = (.ok t, after)) :
    b.LooksOn after ∧ after.lookahead[n]? = some t := by
  have looks := looked_peek n b
  rw [looked] at looks
  cases looks with
  | ok looks =>
    refine ⟨looks, ?_⟩
    unfold peek at looked
    rw [get_bind_apply] at looked
    obtain ⟨_, between, filled, result⟩ := bind_ok looked
    obtain ⟨ts, length, ahead, -, -⟩ := lookOn_progress filled
    cases result
    have inside : n < after.lookahead.length := by
      rw [ahead, List.length_append, length]
      omega
    rw [List.getD_eq_getElem?_getD, List.getElem?_eq_getElem inside]
    rfl

/-- What has been looked at stands in the sequence behind the current token. -/
theorem get_sequence (there : b.lookahead[n]? = some t) : b.sequence.get (n + 1) = .ok t := by
  obtain ⟨inside, same⟩ := List.getElem?_eq_some_iff.mp there
  have front : n + 1 < (List.map (Except.ok : _ → Except ParseError _)
      (b.current :: b.lookahead)).length := by simpa using inside
  rw [sequence, Stream'.get_append_left _ _ _ front]
  simp [same]

/-- A token of the lexer, other than the end, is in the stream where it was before. -/
theorem stream_of_next (read : b.lexer.next = (.ok t, l)) (more : t.kind ≠ .endOfText) :
    stream { b with lookahead := b.lookahead ++ [t], lexer := l } = b.stream := by
  have items := Lexer.items_of_token (congrArg Prod.fst read) more
  rw [read] at items
  simp [stream, items]

end Peek

end TokenBuffer

namespace TokenStream

/-- Behind its last item a stream shows this again and again. -/
theorem peek_of_last {s : TokenStream} {items : List (Except ParseError Token)}
    {last : Except ParseError Token} {n : Nat} (ahead : s.ahead = items ++ [last])
    (le : items.length ≤ n) : s.peek n = last := by
  rw [peek, ahead]
  by_cases same : n = items.length
  · simp [same]
  · have none : (items ++ [last])[n]? = none := by
      rw [List.getElem?_eq_none_iff, List.length_append, List.length_singleton]
      omega
    simp [none]

end TokenStream

namespace TokenBuffer

variable {b after : TokenBuffer} {e : ParseError} {n : Nat}

/-- At the end of a text the lexer gives the end again. -/
theorem peek_stream_of_end {t : Token} {l : Lexer} (outside : b.lookahead.length ≤ n)
    (read : b.lexer.next = (.ok t, l)) (final : t.kind = .endOfText) :
    (stream { b with lookahead := b.lookahead ++ [t], lexer := l }).peek n = b.stream.peek n := by
  have again := Lexer.next_again (congrArg Prod.fst read) final
  rw [read] at again
  have items := Lexer.items_of_end (congrArg Prod.fst read) final
  have items' := Lexer.items_of_end (congrArg Prod.fst again) final
  have ahead : b.stream.ahead = b.lookahead.map .ok ++ [.ok t] := by rw [stream, items]
  rw [TokenStream.peek_of_last ahead (by simpa using outside)]
  by_cases same : n = b.lookahead.length
  · simp [stream, TokenStream.peek, same]
  · exact TokenStream.peek_of_last (by rw [stream, items']) (by simp; omega)

/-- What is seen in a buffer is what its stream shows. -/
theorem peek_eq (n : Nat) (b : TokenBuffer) : (peek n b).1 = b.stream.peek n := by
  -- on the number of tokens that the lexer has to give
  induction missing : n + 1 - b.lookahead.length generalizing b with
  | zero =>
    have inside : n < b.lookahead.length := by omega
    rw [peek_inside inside]
    simp [stream, TokenStream.peek, List.getElem?_append, inside]
  | succ k ih =>
    have outside : b.lookahead.length ≤ n := by omega
    rcases read : b.lexer.next with ⟨e | t, l⟩
    · have items := Lexer.items_of_error (congrArg Prod.fst read)
      have ahead : b.stream.ahead = b.lookahead.map .ok ++ [.error e] := by rw [stream, items]
      rw [peek_of_error outside read, TokenStream.peek_of_last ahead (by simpa using outside)]
    · rw [peek_of_next outside read, ih _ (by simp; omega)]
      by_cases final : t.kind = .endOfText
      · exact peek_stream_of_end outside read final
      · rw [stream_of_next read final]

theorem peekKind_eq (n : Nat) (b : TokenBuffer) : (peekKind n b).1 = b.stream.peekKind n := by
  rw [TokenStream.peekKind, ← peek_eq, peekKind, bind_apply]
  rcases peek n b with ⟨e | t, after⟩ <;> rfl

/-- A look one place further than before: a token, which leaves the stream as it is unless it is the
end, or an error of the lexer. -/
theorem peek_cases (inside : n ≤ b.lookahead.length) :
    (∃ t after, peek n b = (.ok t, after) ∧
        b.stream.ahead.drop n = .ok t :: b.stream.ahead.drop (n + 1) ∧ b.LooksOn after ∧
        n < after.lookahead.length ∧ (t.kind ≠ .endOfText → after.stream = b.stream)) ∨
      ∃ e after, peek n b = (.error e, after) ∧
        b.stream.ahead.drop n = .error e :: b.stream.ahead.drop (n + 1) ∧ b.Drops e after := by
  have drop {item : Except ParseError Token} (there : b.stream.ahead[n]? = some item) :
      b.stream.ahead.drop n = item :: b.stream.ahead.drop (n + 1) := by
    rw [List.drop_eq_getElem?_toList_append, there]
    rfl
  by_cases seen : n < b.lookahead.length
  · refine .inl ⟨b.lookahead[n], b, peek_inside seen, drop ?_, .refl b, seen, fun _ => rfl⟩
    simp [stream, List.getElem?_append, seen]
  · obtain rfl : n = b.lookahead.length := by omega
    rcases read : b.lexer.next with ⟨e | t, l⟩
    · have items := Lexer.items_of_error (congrArg Prod.fst read)
      refine .inr ⟨e, _, peek_of_error (Nat.le_refl _) read, drop ?_, drops_of_next read⟩
      simp [stream, items]
    · refine .inl ⟨t, _, ?_, drop ?_, looksOn_of_next read, by simp, stream_of_next read⟩
      · rw [peek_of_next (Nat.le_refl _) read, peek_inside (by simp)]
        simp
      · by_cases final : t.kind = .endOfText
        · simp [stream, Lexer.items_of_end (congrArg Prod.fst read) final]
        · simp [stream, Lexer.items_of_token (congrArg Prod.fst read) final]

theorem peekKind_of_ok {t : Token} (looked : peek n b = (.ok t, after)) :
    peekKind n b = (.ok t.kind, after) := by
  rw [peekKind, bind_apply, looked]
  rfl

theorem peekKind_of_error (looked : peek n b = (.error e, after)) :
    peekKind n b = (.error e, after) := by
  rw [peekKind, bind_apply, looked]

/-! ### Moves -/

section Moves

variable {x t : Token} {rest : List (Except ParseError Token)}

theorem current_of_items (items : b.stream.items = .ok x :: rest) : b.current = x := by
  obtain ⟨same, -⟩ := List.cons.inj items
  exact Except.ok.inj same

/-- A buffer that moves gives up its token. -/
theorem sequence_advance (moved : advance b = (.ok (), after)) :
    b.sequence = .cons (.ok b.current) after.sequence := by
  unfold advance at moved
  split at moved
  · rename_i seen
    cases moved
    rw [sequence, seen]
    rfl
  · rename_i seen
    split at moved
    · rename_i read
      cases moved
      rw [sequence, sequence, seen, b.lexer.output_eq_cons, read]
      rfl
    · cases moved

/-- A buffer moves over its token if there is another one behind it that is not the end. -/
theorem exists_advance (items : b.stream.items = .ok x :: .ok t :: rest)
    (more : t.kind ≠ .endOfText) :
    ∃ after, advance b = (.ok (), after) ∧ b.Passes [x] after ∧
      after.stream.items = .ok t :: rest := by
  obtain rfl := current_of_items items
  obtain ⟨-, ahead⟩ := List.cons.inj items
  have onNext : ∃ after, advance b = (.ok (), after) ∧ after.stream.items = .ok t :: rest := by
    unfold advance
    cases seen : b.lookahead with
    | cons u later =>
      simp only [stream, seen, List.map_cons, List.cons_append] at ahead
      cases ahead
      exact ⟨_, rfl, rfl⟩
    | nil =>
      simp only [stream, seen, List.map_nil, List.nil_append] at ahead
      rcases read : b.lexer.next with ⟨e | u, l⟩
      · rw [Lexer.items_of_error (congrArg Prod.fst read)] at ahead
        cases ahead
      · by_cases final : u.kind = .endOfText
        · rw [Lexer.items_of_end (congrArg Prod.fst read) final] at ahead
          cases ahead
          exact absurd final more
        · rw [Lexer.items_of_token (congrArg Prod.fst read) final, read] at ahead
          cases ahead
          exact ⟨_, rfl, by simp [stream, TokenStream.items]⟩
  obtain ⟨after, moved, behind⟩ := onNext
  exact ⟨after, moved, ⟨by rw [items, behind]; rfl, sequence_advance moved⟩, behind⟩

theorem exists_identifier (items : b.stream.items = .ok x :: .ok t :: rest)
    (kind : x.kind = .identifier) (more : t.kind ≠ .endOfText) :
    ∃ after, identifier b = (.ok x.lexeme, after) ∧ b.Passes [x] after ∧
      after.stream.items = .ok t :: rest := by
  obtain ⟨after, moved, passes, behind⟩ := exists_advance items more
  refine ⟨after, ?_, passes, behind⟩
  rw [← current_of_items items] at kind ⊢
  rw [identifier, get_bind_apply, if_pos kind, bind_apply, moved]
  rfl

theorem exists_expect {kind : TokenKind} (items : b.stream.items = .ok x :: .ok t :: rest)
    (same : x.kind = kind) (more : t.kind ≠ .endOfText) :
    ∃ after, expect kind b = (.ok (), after) ∧ b.Passes [x] after ∧
      after.stream.items = .ok t :: rest := by
  obtain ⟨after, moved, passes, behind⟩ := exists_advance items more
  refine ⟨after, ?_, passes, behind⟩
  rw [expect, get_bind_apply, current_of_items items, if_pos same, moved]

/-- A name with the closing parenthesis behind it. -/
theorem exists_parameter_last (items : b.stream.items = .ok x :: .ok t :: rest)
    (kind : x.kind = .identifier) (close : t.kind = .closeParen) :
    ∃ after, parameter b = (.ok x.lexeme, after) ∧ b.Passes [x] after ∧
      after.stream.items = .ok t :: rest := by
  obtain ⟨after, named, passes, behind⟩ := exists_identifier items kind (by simp [close])
  refine ⟨after, ?_, passes, behind⟩
  have noComma : after.current.kind ≠ .comma := by simp [current_of_items behind, close]
  rw [parameter, bind_apply, named]
  dsimp only
  rw [bind_apply, skipComma, get_bind_apply, if_neg noComma]
  rfl

/-- A name with a comma behind it. -/
theorem exists_parameter_comma {comma : Token}
    (items : b.stream.items = .ok x :: .ok comma :: .ok t :: rest) (kind : x.kind = .identifier)
    (isComma : comma.kind = .comma) (more : t.kind ≠ .endOfText) :
    ∃ after, parameter b = (.ok x.lexeme, after) ∧ b.Passes [x, comma] after ∧
      after.stream.items = .ok t :: rest := by
  obtain ⟨between, named, passes, behind⟩ := exists_identifier items kind (by simp [isComma])
  obtain ⟨after, moved, passes', behind'⟩ := exists_advance behind more
  refine ⟨after, ?_, passes.trans passes', behind'⟩
  have onComma : between.current.kind = .comma := by rw [current_of_items behind, isComma]
  rw [parameter, bind_apply, named]
  dsimp only
  rw [bind_apply, skipComma, get_bind_apply, if_pos onComma, moved]
  rfl

end Moves

end TokenBuffer

end ExprLang
