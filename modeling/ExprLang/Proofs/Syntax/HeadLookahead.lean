import ExprLang.Proofs.Syntax.LambdaHeads
import ExprLang.Proofs.Syntax.Lookahead

/-!
# Finding lambdas by looking ahead

A buffer comes to what its stream shows at the head of a lambda (`headed_lambdaParameters?`): its
scan goes through the same items (`scanned_parametersEnd?`), and its second, laxer loop reads no
more than what was scanned (`exists_parameterList`).

**Key theorem** (`lookahead_exact_and_invisible`): to look ahead changes nothing of what there is to
read, and finds a lambda where one begins.
-/

namespace ExprLang

/-! ### The scan -/

namespace TokenStream

/-- The items behind a parameter list, which is gone through item by item: a name comes next, or one
has just been passed. Only in front of the first name may the list be closed where a name comes
next. -/
def behindParameters? (first nameNext : Bool) : List (Except ParseError Token) →
    Except ParseError (Option (List (Except ParseError Token)))
  | [] => .ok none
  | .error e :: _ => .error e
  | .ok t :: rest =>
    if t.kind = .closeParen ∧ (first = true ∨ nameNext = false) then .ok (some rest)
    else if t.kind = if nameNext then .identifier else .comma then
      behindParameters? false (!nameNext) rest
    else .ok none

theorem behind_names? (items : List (Except ParseError Token)) :
    behindParameters? false true items = (parameters?.names? items).map (·.map Prod.snd) := by
  induction items using parameters?.names?.induct with
  | case1 e' rest => rfl
  | case2 name isName e' rest =>
    simp [parameters?.names?, behindParameters?, isName, Except.map]
  | case3 name isName t rest close =>
    simp [parameters?.names?, behindParameters?, isName, close, Except.map]
  | case4 name isName t rest notClose comma ih =>
    have step : behindParameters? false true (.ok name :: .ok t :: rest) =
        behindParameters? false true rest := by simp [behindParameters?, isName, comma]
    rw [step, ih]
    simp only [parameters?.names?, isName, comma]
    rcases parameters?.names? rest with e | _ | found <;> rfl
  | case5 name isName t rest notClose notComma =>
    simp [parameters?.names?, behindParameters?, isName, notClose, notComma, Except.map]
  | case6 name isName => simp [parameters?.names?, behindParameters?, isName, Except.map]
  | case7 name rest notName =>
    unfold parameters?.names?
    simp [behindParameters?, notName, Except.map]
  | case8 => rfl

theorem behind_parameters? (items : List (Except ParseError Token)) :
    behindParameters? true true items = (parameters? items).map (·.map Prod.snd) := by
  rcases items with _ | ⟨e | t, rest⟩
  · rfl
  · rfl
  · by_cases close : t.kind = .closeParen
    · simp [behindParameters?, parameters?, close, Except.map]
    · have other : parameters? (.ok t :: rest) = parameters?.names? (.ok t :: rest) := by
        rw [parameters?, if_neg close]
      rw [other, ← behind_names?]
      simp [behindParameters?, close]

end TokenStream

namespace TokenBuffer

/-- A scan from a place has found what the stream shows from there on: no list, an error on the way,
or a list whose closing parenthesis has been looked at, with some items behind it. -/
inductive Scanned (b : TokenBuffer) :
    Except ParseError (Option (List (Except ParseError Token))) →
      Except ParseError (Option Nat) × TokenBuffer → Prop
  | error {e : ParseError} {after : TokenBuffer} : b.Drops e after →
      Scanned b (.error e) (.error e, after)
  | none {after : TokenBuffer} : b.LooksOn after → Scanned b (.ok none) (.ok none, after)
  | found {n : Nat} {after : TokenBuffer} {rest : List (Except ParseError Token)} :
      b.LooksOn after → after.stream = b.stream → n < after.lookahead.length →
      b.stream.ahead.drop (n + 1) = rest → Scanned b (.ok (some rest)) (.ok (some n), after)

variable {b after : TokenBuffer} {n : Nat}

theorem LooksOn.scanned {items : Except ParseError (Option (List (Except ParseError Token)))}
    {between : TokenBuffer} {run : Except ParseError (Option Nat) × TokenBuffer}
    (looks : b.LooksOn between) (same : between.stream = b.stream)
    (h : Scanned between items run) : Scanned b items run := by
  cases h with
  | error dropped => exact .error (looks.drops dropped)
  | none looks' => exact .none (looks.trans looks')
  | found looks' same' inside behind =>
    rw [same] at behind
    exact .found (looks.trans looks') (same'.trans same) inside behind

theorem parametersEnd?_of_error {nameNext : Bool} {e : ParseError}
    (looked : peek n b = (.error e, after)) :
    parametersEnd? n nameNext b = (.error e, after) := by
  unfold parametersEnd?
  split
  · rename_i looked'
    rw [looked] at looked'
    cases looked'
    rfl
  · rename_i looked'
    rw [looked] at looked'
    cases looked'

theorem parametersEnd?_of_ok {nameNext : Bool} {t : Token} (looked : peek n b = (.ok t, after)) :
    parametersEnd? n nameNext b =
      if t.kind = .closeParen ∧ (n = 0 ∨ nameNext = false) then (.ok (some n), after)
      else if t.kind = if nameNext then .identifier else .comma then
        parametersEnd? (n + 1) (!nameNext) after
      else (.ok none, after) := by
  rw [parametersEnd?]
  split
  · rename_i looked'
    rw [looked] at looked'
    cases looked'
  · rename_i looked'
    rw [looked] at looked'
    cases looked'
    simp

/-- The scan goes on item by item as the stream does. -/
theorem scanned_parametersEnd? {items : List (Except ParseError Token)} (nameNext : Bool)
    (inside : n ≤ b.lookahead.length) (ahead : b.stream.ahead.drop n = items) :
    Scanned b (TokenStream.behindParameters? (n == 0) nameNext items)
      (parametersEnd? n nameNext b) := by
  induction items generalizing n nameNext b with
  | nil =>
    -- what the lexer gives does not end
    have last := List.drop_eq_nil_iff.mp ahead
    have some := List.length_pos_iff.mpr b.lexer.items_ne_nil
    rw [stream, List.length_append, List.length_map] at last
    omega
  | cons item rest ih =>
    rcases peek_cases inside with ⟨t, after, looked, there, looks, further, same⟩ |
        ⟨e, after, looked, there, dropped⟩
    · obtain ⟨rfl, rfl⟩ := List.cons.inj (ahead.symm.trans there)
      rw [parametersEnd?_of_ok looked, TokenStream.behindParameters?]
      simp only [beq_iff_eq]
      by_cases close : t.kind = .closeParen ∧ (n = 0 ∨ nameNext = false)
      · have notEnd : t.kind ≠ .endOfText := by simp [close.1]
        rw [if_pos close, if_pos close]
        exact .found looks (same notEnd) further rfl
      · rw [if_neg close, if_neg close]
        by_cases next : t.kind = if nameNext then .identifier else .comma
        · have notEnd : t.kind ≠ .endOfText := by cases nameNext <;> simp [next]
          rw [if_pos next, if_pos next]
          refine looks.scanned (same notEnd) ?_
          exact ih (!nameNext) further (by rw [same notEnd])
        · rw [if_neg next, if_neg next]
          exact .none looks
    · obtain ⟨rfl, -⟩ := List.cons.inj (ahead.symm.trans there)
      rw [parametersEnd?_of_error looked]
      exact .error dropped

/-! ### The second reading -/

theorem parameters_of_close (close : b.current.kind = .closeParen) :
    parameters b = (.ok [], b) := by
  unfold parameters
  rw [if_pos close]

theorem parameters_of_parameter {between : TokenBuffer} {name : String} {more : List String}
    (isName : b.current.kind = .identifier) (first : parameter b = (.ok name, between))
    (others : parameters between = (.ok more, after)) :
    parameters b = (.ok (name :: more), after) := by
  rw [parameters, if_neg (by simp [isName])]
  split
  · rename_i read
    rw [first] at read
    cases read
  · rename_i read
    rw [first] at read
    cases read
    rw [others]

section Reading

variable {ts : List Token} {params : List String} {t : Token}
  {rest : List (Except ParseError Token)}

/-- The names are read again, up to the closing parenthesis. -/
theorem exists_parameters_names (names : ParameterNames ts params)
    (items : b.stream.items = ts.map .ok ++ .ok t :: rest) (more : t.kind ≠ .endOfText) :
    ∃ between after, parameters b = (.ok params, between) ∧
      expect .closeParen between = (.ok (), after) ∧ b.Passes ts after := by
  induction names generalizing b with
  | last isName close =>
    have onName := current_of_items items
    obtain ⟨between, read, passes, behind⟩ := exists_parameter_last items isName close
    obtain ⟨after, closed, passes', -⟩ := exists_expect behind close more
    have onClose : between.current.kind = .closeParen := by rw [current_of_items behind, close]
    exact ⟨between, after, parameters_of_parameter (by rw [onName, isName]) read
      (parameters_of_close onClose), closed, passes.trans passes'⟩
  | more isName comma names ih =>
    have onName := current_of_items items
    obtain ⟨x, us, rfl, isName'⟩ := names.exists_name
    obtain ⟨first, read, passes, behind⟩ :=
      exists_parameter_comma items isName comma (by simp [isName'])
    obtain ⟨between, after, others, closed, passes'⟩ := ih behind
    exact ⟨between, after, parameters_of_parameter (by rw [onName, isName]) read others, closed,
      passes.trans passes'⟩

theorem exists_parameters (list : ParameterList ts params)
    (items : b.stream.items = ts.map .ok ++ .ok t :: rest) (more : t.kind ≠ .endOfText) :
    ∃ between after, parameters b = (.ok params, between) ∧
      expect .closeParen between = (.ok (), after) ∧ b.Passes ts after := by
  cases list with
  | empty close =>
    have onClose := current_of_items items
    obtain ⟨after, closed, passes, -⟩ := exists_expect items close more
    exact ⟨b, after, parameters_of_close (by rw [onClose, close]), closed, passes⟩
  | names names => exact exists_parameters_names names items more

/-- From the parenthesis that opens it a list is read to its end. -/
theorem exists_parameterList {start : Token} (list : ParameterList ts params)
    (items : b.stream.items = .ok start :: (ts.map .ok ++ .ok t :: rest))
    (more : t.kind ≠ .endOfText) :
    ∃ first between after, advance b = (.ok (), first) ∧ parameters first = (.ok params, between) ∧
      expect .closeParen between = (.ok (), after) ∧ b.Passes (start :: ts) after := by
  obtain ⟨u, us, rfl, notEnd⟩ := list.exists_first
  obtain ⟨first, moved, passes, behind⟩ := exists_advance items notEnd
  obtain ⟨between, after, read, closed, passes'⟩ := exists_parameters list behind more
  exact ⟨first, between, after, moved, read, closed, passes.trans passes'⟩

end Reading

/-! ### The head of a lambda -/

/-- A run has come to what the stream shows: no head of a lambda, an error on the way, or a head
that it then stands behind. -/
inductive Headed (b : TokenBuffer) :
    Except ParseError (Option (List String × TokenStream)) →
      Except ParseError (Option (List String)) × TokenBuffer → Prop
  | error {e : ParseError} {after : TokenBuffer} : b.Drops e after →
      Headed b (.error e) (.error e, after)
  | none {after : TokenBuffer} : b.LooksOn after → Headed b (.ok none) (.ok none, after)
  | found {ts : List Token} {params : List String} {after : TokenBuffer} : LambdaHead ts params →
      b.Passes ts after → Headed b (.ok (some (params, after.stream))) (.ok (some params), after)

theorem headed_of_name (name : b.current.kind = .identifier) :
    Headed b b.stream.lambdaHeader? (lambdaParameters? b) := by
  unfold lambdaParameters?
  rw [get_bind_apply, if_pos name, bind_apply]
  rcases peek_cases (Nat.zero_le b.lookahead.length) with
    ⟨t, between, looked, ahead, looks, -, same⟩ | ⟨e, after, looked, ahead, dropped⟩
  · rw [List.drop_zero] at ahead
    rw [peekKind_of_ok looked, TokenStream.lambdaHeader?_of_name name ahead]
    dsimp only
    by_cases arrow : t.kind = .arrow
    · have notEnd : t.kind ≠ .endOfText := by simp [arrow]
      have items : between.stream.items = .ok b.current :: b.stream.ahead := by
        rw [same notEnd]
        rfl
      rw [ahead] at items
      obtain ⟨after, read, passes, behind⟩ := exists_identifier items name notEnd
      have onArrow := TokenStream.items_injective (u := ⟨t, b.stream.ahead.drop 1⟩) behind
      rw [if_pos arrow, if_pos arrow, bind_apply, read, ← onArrow]
      exact .found (.name name) (looks.passes (same notEnd) passes)
    · rw [if_neg arrow, if_neg arrow]
      exact .none looks
  · rw [peekKind_of_error looked, (TokenStream.lambdaHeader?_error_of_name name).mpr ⟨_, ahead⟩]
    exact .error dropped

/-- Once the list has been looked at, one more look tells whether it is read. -/
theorem headed_of_list {between : TokenBuffer} {params : List String}
    {rest : List (Except ParseError Token)} (start : b.current.kind = .openParen)
    (ended : parametersEnd? 0 true b = (.ok (some n), between)) (looks : b.LooksOn between)
    (same : between.stream = b.stream) (inside : n < between.lookahead.length)
    (behind : b.stream.ahead.drop (n + 1) = rest)
    (list : TokenStream.parameters? b.stream.ahead = .ok (some (params, rest))) :
    Headed b b.stream.lambdaHeader? (lambdaParameters? b) := by
  have notName : b.current.kind ≠ .identifier := by simp [start]
  unfold lambdaParameters?
  rw [get_bind_apply, if_neg notName, if_pos start, bind_apply, ended]
  dsimp only
  rw [bind_apply]
  rcases peek_cases (n := n + 1) inside with
    ⟨t, between', looked, ahead, looks', -, same'⟩ | ⟨e, after, looked, ahead, dropped⟩
  · rw [same, behind] at ahead
    subst ahead
    rw [peekKind_of_ok looked, TokenStream.lambdaHeader?_of_parameters start list]
    dsimp only
    by_cases arrow : t.kind = .arrow
    · have notEnd : t.kind ≠ .endOfText := by simp [arrow]
      have stays : between'.stream = b.stream := (same' notEnd).trans same
      obtain ⟨ts, isList, whole⟩ := TokenStream.parameters?_iff.mp list
      have items : between'.stream.items = .ok b.current :: b.stream.ahead := by
        rw [stays]
        rfl
      rw [whole] at items
      obtain ⟨first, last, after, moved, read, closed, passes⟩ :=
        exists_parameterList isList items notEnd
      have onArrow := TokenStream.items_injective (u := ⟨t, _⟩)
        (List.append_cancel_left (passes.items.symm.trans items))
      rw [if_pos arrow, if_pos arrow, bind_apply, moved, ← onArrow]
      dsimp only
      rw [bind_apply, read]
      dsimp only
      rw [bind_apply, closed]
      exact .found (.list start isList) ((looks.trans looks').passes stays passes)
    · rw [if_neg arrow, if_neg arrow]
      exact .none (looks.trans looks')
  · rw [same, behind] at ahead
    subst ahead
    rw [peekKind_of_error looked,
      (TokenStream.lambdaHeader?_error_of_open start).mpr (.inr ⟨_, _, list⟩)]
    exact .error (looks.drops dropped)

/-- What the buffer gives is what its stream shows. -/
theorem headed_lambdaParameters? (b : TokenBuffer) :
    Headed b b.stream.lambdaHeader? (lambdaParameters? b) := by
  by_cases name : b.current.kind = .identifier
  · exact headed_of_name name
  · by_cases start : b.current.kind = .openParen
    · have scanned := scanned_parametersEnd? true (Nat.zero_le b.lookahead.length) rfl
      rw [beq_self_eq_true, TokenStream.behind_parameters?, List.drop_zero] at scanned
      generalize ended : parametersEnd? 0 true b = run at scanned
      rcases found : TokenStream.parameters? b.stream.ahead with e | _ | ⟨params, rest⟩
      · rw [found] at scanned
        cases scanned with
        | error dropped =>
          rw [(TokenStream.lambdaHeader?_error_of_open start).mpr (.inl found), lambdaParameters?,
            get_bind_apply, if_neg name, if_pos start, bind_apply, ended]
          exact .error dropped
      · rw [found] at scanned
        cases scanned with
        | none looks =>
          rw [TokenStream.lambdaHeader?_of_none start found, lambdaParameters?, get_bind_apply,
            if_neg name, if_pos start, bind_apply, ended]
          exact .none looks
      · rw [found] at scanned
        cases scanned with
        | found looks same inside behind =>
          exact headed_of_list start ended looks same inside behind found
    · unfold lambdaParameters?
      rw [get_bind_apply, if_neg name, if_neg start, TokenStream.lambdaHeader?_of_other name start]
      exact .none (.refl b)

end TokenBuffer

/-! ### Beginnings of sequences -/

/-- The sequence begins with `x ->`, `() ->` or `(x, y, ...) ->`. -/
def StartsLambda (sequence : Stream' (Except ParseError Token)) (params : List String) : Prop :=
  ∃ ts arrow rest, LambdaHead ts params ∧ arrow.kind = .arrow ∧
    sequence = ts.map .ok ++ₛ .cons (.ok arrow) rest

/-- The sequence breaks off with an error in what could become the beginning of a lambda. -/
def BreaksLambda (sequence : Stream' (Except ParseError Token)) (e : ParseError) : Prop :=
  ∃ ts more params rest, LambdaStart (ts ++ more) params ∧ more ≠ [] ∧
    sequence = ts.map .ok ++ₛ .cons (.error e) rest

/-- Tokens before the end that begin a sequence begin the items that it begins with, if these go
up to the end or an error. -/
theorem exists_items_of_sequence {ts : List Token} {before : List (Except ParseError Token)}
    {item last : Except ParseError Token} {behind rest : Stream' (Except ParseError Token)}
    (final : IsFinal last) (inside : ∀ t ∈ ts, t.kind ≠ .endOfText)
    (same : (before ++ [last]) ++ₛ behind = ts.map .ok ++ₛ .cons item rest) :
    ∃ rest, before ++ [last] = ts.map .ok ++ item :: rest := by
  induction ts generalizing before with
  | nil =>
    cases before with
    | nil =>
      obtain ⟨rfl, -⟩ := Stream'.cons_injective2 same
      exact ⟨[], rfl⟩
    | cons first before =>
      obtain ⟨rfl, -⟩ := Stream'.cons_injective2 same
      exact ⟨before ++ [last], rfl⟩
  | cons t ts ih =>
    obtain ⟨first, others⟩ := List.forall_mem_cons.mp inside
    cases before with
    | nil =>
      obtain ⟨rfl, -⟩ := Stream'.cons_injective2 same
      exact absurd final first
    | cons u before =>
      obtain ⟨rfl, later⟩ := Stream'.cons_injective2 same
      obtain ⟨rest, items⟩ := ih others later
      exact ⟨rest, by rw [List.cons_append, items]; rfl⟩

namespace TokenBuffer

variable {b : TokenBuffer} {params : List String} {e : ParseError}

theorem exists_last_item (b : TokenBuffer) :
    ∃ before last, b.stream.items = before ++ [last] ∧ IsFinal last := by
  obtain ⟨before, last, same⟩ :=
    (List.eq_nil_or_concat' b.lexer.items).resolve_left b.lexer.items_ne_nil
  refine ⟨(b.current :: b.lookahead).map .ok ++ before, last, ?_, ?_⟩
  · simp [stream, TokenStream.items, same]
  · have there : b.lexer.items[before.length]? = some last := by simp [same]
    rw [Lexer.isFinal_iff there, same]
    simp

/-- The sequence of a buffer and the items of its stream begin in the same way. -/
theorem begins_iff {ts : List Token} {item : Except ParseError Token}
    (inside : ∀ t ∈ ts, t.kind ≠ .endOfText) :
    (∃ rest, b.sequence = ts.map .ok ++ₛ .cons item rest) ↔
      ∃ rest, b.stream.items = ts.map .ok ++ item :: rest := by
  obtain ⟨behind, whole⟩ := b.exists_sequence_eq
  constructor
  · intro begins
    obtain ⟨rest, same⟩ := begins
    obtain ⟨before, last, items, final⟩ := b.exists_last_item
    rw [whole, items] at same
    rw [items]
    exact exists_items_of_sequence final inside same
  · intro begins
    obtain ⟨rest, items⟩ := begins
    exact ⟨rest ++ₛ behind, by rw [whole, items, Stream'.append_append_stream]; rfl⟩

theorem startsLambda_iff :
    StartsLambda b.sequence params ↔
      ∃ onArrow, b.stream.lambdaHeader? = .ok (some (params, onArrow)) := by
  constructor
  · intro starts
    obtain ⟨ts, arrow, rest, head, isArrow, same⟩ := starts
    obtain ⟨rest, items⟩ := (begins_iff head.ne_endOfText).mp ⟨rest, same⟩
    exact ⟨⟨arrow, rest⟩, TokenStream.lambdaHeader?_iff.mpr ⟨isArrow, ts, head, items⟩⟩
  · intro shown
    obtain ⟨onArrow, found⟩ := shown
    obtain ⟨isArrow, ts, head, items⟩ := TokenStream.lambdaHeader?_iff.mp found
    obtain ⟨rest, same⟩ := (begins_iff head.ne_endOfText).mpr ⟨_, items⟩
    exact ⟨ts, _, rest, head, isArrow, same⟩

theorem breaksLambda_iff :
    BreaksLambda b.sequence e ↔ b.stream.lambdaHeader? = .error e := by
  rw [TokenStream.lambdaHeader?_error_iff]
  constructor
  · intro breaks
    obtain ⟨ts, more, params, rest, start, further, same⟩ := breaks
    have inside : ∀ t ∈ ts, t.kind ≠ .endOfText :=
      fun t mem => start.ne_endOfText t (List.mem_append_left _ mem)
    obtain ⟨rest, items⟩ := (begins_iff inside).mp ⟨rest, same⟩
    exact ⟨ts, more, params, rest, start, further, items⟩
  · intro breaks
    obtain ⟨ts, more, params, rest, start, further, items⟩ := breaks
    have inside : ∀ t ∈ ts, t.kind ≠ .endOfText :=
      fun t mem => start.ne_endOfText t (List.mem_append_left _ mem)
    obtain ⟨rest, same⟩ := (begins_iff inside).mpr ⟨rest, items⟩
    exact ⟨ts, more, params, rest, start, further, same⟩

/-! ### Exact and invisible -/

/-- A look at a place shows the token there and leaves the sequence as it is (`LooksOn`), unless
there is an error on the way, which is then given and not in the sequence afterwards (`Drops`). -/
structure SeesAhead (b : TokenBuffer) (n : Nat) : Prop where
  kind : (peekKind n b).1 = b.stream.peekKind n
  ok : ∀ kind after, peekKind n b = (.ok kind, after) →
    b.LooksOn after ∧ (b.sequence.get (n + 1)).map Token.kind = .ok kind
  error : ∀ e after, peekKind n b = (.error e, after) → b.Drops e after
  /-- The tokens are the same in either case, since only an error can be missing afterwards. -/
  tokens : ∀ ts, (peekKind n b).2.Gives ts ↔ b.Gives ts

/-- The parameters of a lambda are found where a lambda begins and nowhere else, unless there is an
error before this is known. -/
structure FindsLambdas (b : TokenBuffer) : Prop where
  some_iff : ∀ params, (lambdaParameters? b).1 = .ok (some params) ↔ StartsLambda b.sequence params
  none_iff : (lambdaParameters? b).1 = .ok none ↔
    (∀ params, ¬StartsLambda b.sequence params) ∧ ∀ e, ¬BreaksLambda b.sequence e
  error_iff : ∀ e, (lambdaParameters? b).1 = .error e ↔ BreaksLambda b.sequence e
  /-- The buffer has then moved over them and stands on the arrow, where the stream goes on too. -/
  some : ∀ params after, lambdaParameters? b = (.ok (some params), after) →
    after.current.kind = .arrow ∧
      (∃ ts, LambdaHead ts params ∧ b.sequence = ts.map .ok ++ₛ after.sequence) ∧
      b.stream.lambdaHeader? = .ok (some (params, after.stream))
  none : ∀ after, lambdaParameters? b = (.ok none, after) →
    b.LooksOn after ∧ b.stream.lambdaHeader? = .ok none
  error : ∀ e after, lambdaParameters? b = (.error e, after) →
    b.Drops e after ∧ b.stream.lambdaHeader? = .error e

theorem seesAhead (b : TokenBuffer) (n : Nat) : b.SeesAhead n := by
  refine ⟨peekKind_eq n b, ?_, ?_, ?_⟩
  · intro kind after ran
    obtain ⟨t, between, looked, result⟩ := bind_ok ran
    cases result
    obtain ⟨looks, there⟩ := peek_ok looked
    refine ⟨looks, ?_⟩
    rw [← looks.sequence, get_sequence there]
    rfl
  · intro e after ran
    have looked := looked_peekKind n b
    rw [ran] at looked
    cases looked with
    | error dropped => exact dropped
  · intro ts
    have looked := looked_peekKind n b
    generalize peekKind n b = run at looked
    cases looked with
    | ok looks => exact looks.gives_iff ts
    | error dropped => exact dropped.gives_iff ts

theorem fst_lambdaParameters? (b : TokenBuffer) :
    (lambdaParameters? b).1 = b.stream.lambdaHeader?.map (·.map Prod.fst) := by
  have headed := headed_lambdaParameters? b
  generalize lambdaParameters? b = run, b.stream.lambdaHeader? = shown at headed
  cases headed <;> rfl

theorem findsLambdas (b : TokenBuffer) : b.FindsLambdas := by
  have headed := headed_lambdaParameters? b
  refine ⟨?_, ?_, ?_, ?_, ?_, ?_⟩
  · intro params
    rw [startsLambda_iff, fst_lambdaParameters?]
    rcases b.stream.lambdaHeader? with e | _ | ⟨names, onArrow⟩ <;> simp [Except.map]
  · simp only [startsLambda_iff, breaksLambda_iff, fst_lambdaParameters?]
    rcases b.stream.lambdaHeader? with e | _ | ⟨names, onArrow⟩ <;> simp [Except.map]
  · intro e
    rw [breaksLambda_iff, fst_lambdaParameters?]
    rcases b.stream.lambdaHeader? with e | _ | ⟨names, onArrow⟩ <;> simp [Except.map]
  · intro params after ran
    rw [ran] at headed
    generalize shown : b.stream.lambdaHeader? = found at headed
    cases headed with
    | found head passes =>
      obtain ⟨arrow, -⟩ := TokenStream.lambdaHeader?_iff.mp shown
      exact ⟨arrow, ⟨_, head, passes.sequence⟩, rfl⟩
  · intro after ran
    rw [ran] at headed
    generalize b.stream.lambdaHeader? = found at headed ⊢
    cases headed with
    | none looks => exact ⟨looks, rfl⟩
  · intro e after ran
    rw [ran] at headed
    generalize b.stream.lambdaHeader? = found at headed ⊢
    cases headed with
    | error dropped => exact ⟨dropped, rfl⟩

/-- Whatever a buffer stands on and has looked at, to look ahead is invisible and tells exactly
where a lambda begins. -/
theorem lookahead_exact_and_invisible (b : TokenBuffer) :
    (∀ n, b.SeesAhead n) ∧ b.FindsLambdas :=
  ⟨b.seesAhead, b.findsLambdas⟩

/-- A buffer on `(x, y) -> x` that has looked at one token. -/
theorem lookahead_exact_and_invisible_parameters :
    let l := (Lexer.ofExpression "(x, y) -> x").after 2
    let b : TokenBuffer := ⟨⟨.openParen, "(", ⟨0, 1, 1⟩⟩, [⟨.identifier, "x", ⟨1, 1, 2⟩⟩], l⟩
    (lambdaParameters? b).1 = .ok (some ["x", "y"]) ∧
      (lambdaParameters? b).2.current.kind = .arrow ∧
      (peekKind 4 b).1 = .ok .arrow ∧ (peekKind 4 b).2.sequence = b.sequence := by
  intro l b
  have items : l.items = [.ok ⟨.comma, ",", ⟨2, 1, 3⟩⟩, .ok ⟨.identifier, "y", ⟨4, 1, 5⟩⟩,
      .ok ⟨.closeParen, ")", ⟨5, 1, 6⟩⟩, .ok ⟨.arrow, "->", ⟨7, 1, 8⟩⟩,
      .ok ⟨.identifier, "x", ⟨10, 1, 11⟩⟩, .ok (.atEnd ⟨11, 1, 12⟩)] := by decide +kernel
  clear_value l
  obtain ⟨sees, finds⟩ := lookahead_exact_and_invisible b
  have params : (lambdaParameters? b).1 = .ok (some ["x", "y"]) := by
    rw [finds.some_iff, startsLambda_iff, stream, items]
    exact ⟨_, rfl⟩
  have arrow : (peekKind 4 b).1 = .ok .arrow := by
    rw [(sees 4).kind, TokenStream.peekKind, TokenStream.peek, stream, items]
    rfl
  refine ⟨params, ?_, arrow, ?_⟩
  · exact (finds.some _ _ (Prod.ext params rfl)).1
  · exact ((sees 4).ok _ _ (Prod.ext arrow rfl)).1.sequence

end TokenBuffer

end ExprLang
