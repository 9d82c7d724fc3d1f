import ExprLang.Proofs.Syntax.Front
import ExprLang.Proofs.Syntax.TokensKept.Combinators
import Mathlib.Data.List.Basic

/-!
# Heads of lambdas

A lambda begins with a name or with a list of names in parentheses, and an arrow behind it
(`LambdaHead`, `LambdaStart`). A stream finds just these: **key theorems** `lambdaHeader?_iff`, and
`lambdaHeader?_error_iff`, by which it meets an error only where the tokens before it could go on to
be one (`BreaksOff`).
-/

namespace ExprLang

/-- There are tokens of every kind. -/
theorem Token.exists_kind (kind : TokenKind) : ∃ t : Token, t.kind = kind :=
  ⟨⟨kind, "", .start⟩, rfl⟩

/-! ### The grammar -/

/-- Names with commas between them, up to the parenthesis that closes them. -/
inductive ParameterNames : List Token → List String → Prop
  | last {x close : Token} : x.kind = .identifier → close.kind = .closeParen →
      ParameterNames [x, close] [x.lexeme]
  | more {x comma : Token} {ts : List Token} {params : List String} : x.kind = .identifier →
      comma.kind = .comma → ParameterNames ts params →
      ParameterNames (x :: comma :: ts) (x.lexeme :: params)

/-- What stands behind the parenthesis that opens a parameter list: the parenthesis that closes it,
or names up to it. -/
inductive ParameterList : List Token → List String → Prop
  | empty {close : Token} : close.kind = .closeParen → ParameterList [close] []
  | names {ts : List Token} {params : List String} : ParameterNames ts params →
      ParameterList ts params

/-- The beginning of a lambda up to its arrow: `x`, `()` or `(x, y, ...)`. -/
inductive LambdaHead : List Token → List String → Prop
  | name {x : Token} : x.kind = .identifier → LambdaHead [x] [x.lexeme]
  | list {start : Token} {ts : List Token} {params : List String} : start.kind = .openParen →
      ParameterList ts params → LambdaHead (start :: ts) params

/-- The beginning of a lambda with its arrow. -/
def LambdaStart (ts : List Token) (params : List String) : Prop :=
  ∃ head arrow, LambdaHead head params ∧ arrow.kind = .arrow ∧ ts = head ++ [arrow]

/-- The items break off with an error where the tokens before it could go on as the grammar has
it. -/
def BreaksOff (grammar : List Token → List String → Prop) (e : ParseError)
    (items : List (Except ParseError Token)) : Prop :=
  ∃ ts more params rest, grammar (ts ++ more) params ∧ more ≠ [] ∧
    items = ts.map .ok ++ .error e :: rest

theorem ParameterNames.exists_name {ts : List Token} {params : List String}
    (h : ParameterNames ts params) : ∃ x us, ts = x :: us ∧ x.kind = .identifier := by
  cases h with
  | last isName => exact ⟨_, _, rfl, isName⟩
  | more isName => exact ⟨_, _, rfl, isName⟩

theorem ParameterList.exists_first {ts : List Token} {params : List String}
    (h : ParameterList ts params) : ∃ x us, ts = x :: us ∧ x.kind ≠ .endOfText := by
  cases h with
  | empty close => exact ⟨_, _, rfl, by simp [close]⟩
  | names names =>
    obtain ⟨x, us, same, isName⟩ := names.exists_name
    exact ⟨x, us, same, by simp [isName]⟩

theorem ParameterNames.ne_endOfText {ts : List Token} {params : List String}
    (h : ParameterNames ts params) : ∀ t ∈ ts, t.kind ≠ .endOfText := by
  induction h with
  | last isName close => simp [isName, close]
  | more isName comma _ ih => simpa [isName, comma] using ih

theorem LambdaHead.ne_endOfText {ts : List Token} {params : List String}
    (h : LambdaHead ts params) : ∀ t ∈ ts, t.kind ≠ .endOfText := by
  cases h with
  | name isName => simp [isName]
  | list start list =>
    cases list with
    | empty close => simp [start, close]
    | names names => simpa [start] using names.ne_endOfText

theorem LambdaStart.ne_endOfText {ts : List Token} {params : List String}
    (h : LambdaStart ts params) : ∀ t ∈ ts, t.kind ≠ .endOfText := by
  obtain ⟨head, arrow, isHead, isArrow, rfl⟩ := h
  intro t mem
  rcases List.mem_append.mp mem with inHead | last
  · exact isHead.ne_endOfText t inHead
  · simp [List.mem_singleton.mp last, isArrow]

namespace TokenStream

variable {items rest : List (Except ParseError Token)} {params : List String} {e : ParseError}

/-! ### Parameter lists -/

theorem names?_iff :
    parameters?.names? items = .ok (some (params, rest)) ↔
      ∃ ts, ParameterNames ts params ∧ items = ts.map .ok ++ rest := by
  constructor
  · intro found
    -- on the names, each of which takes two items
    induction params generalizing items with
    | nil =>
      obtain ⟨name, t, behind, -, -, ⟨-, same, -⟩ | ⟨-, more, same, -⟩⟩ := names?_cases found
      · cases same
      · cases same
    | cons first more ih =>
      obtain ⟨name, t, behind, rfl, isName, last⟩ := names?_cases found
      rcases last with ⟨close, same, rfl⟩ | ⟨comma, more, same, found⟩
      · obtain ⟨rfl, rfl⟩ := List.cons.inj same
        exact ⟨_, .last isName close, rfl⟩
      · obtain ⟨rfl, rfl⟩ := List.cons.inj same
        obtain ⟨ts, names, rfl⟩ := ih found
        exact ⟨_, .more isName comma names, rfl⟩
  · intro list
    obtain ⟨ts, names, same⟩ := list
    subst same
    induction names with
    | last isName close => simp [parameters?.names?, isName, close]
    | more isName comma names ih => simp [parameters?.names?, isName, comma, ih, Except.map]

theorem names?_error_iff :
    parameters?.names? items = .error e ↔ BreaksOff ParameterNames e items := by
  constructor
  · intro failed
    -- what would complete the list behind the error
    obtain ⟨x, isName⟩ := Token.exists_kind .identifier
    obtain ⟨y, close⟩ := Token.exists_kind .closeParen
    induction items using parameters?.names?.induct with
    | case1 e' rest =>
      cases failed
      exact ⟨[], [x, y], _, rest, .last isName close, by simp, rfl⟩
    | case2 name isName e' rest =>
      simp only [parameters?.names?, isName, if_true] at failed
      cases failed
      exact ⟨[name], [y], _, rest, .last isName close, by simp, rfl⟩
    | case3 name isName t rest close => simp [parameters?.names?, isName, close] at failed
    | case4 name isName t rest notClose comma ih =>
      have later : parameters?.names? rest = .error e := by
        simp only [parameters?.names?, isName, comma, if_true] at failed
        cases found : parameters?.names? rest with
        | error e' =>
          rw [found] at failed
          cases failed
          rfl
        | ok result =>
          rw [found] at failed
          cases failed
      obtain ⟨ts, more, params, behind, names, further, same⟩ := ih later
      exact ⟨name :: t :: ts, more, _, behind, .more isName comma names, further, by simp [same]⟩
    | case5 name isName t rest notClose notComma =>
      simp [parameters?.names?, isName, notClose, notComma] at failed
    | case6 name isName => simp [parameters?.names?, isName] at failed
    | case7 name rest notName =>
      unfold parameters?.names? at failed
      rw [if_neg notName] at failed
      cases failed
    | case8 => cases failed
  · intro breaks
    obtain ⟨ts, more, params, rest, names, further, same⟩ := breaks
    subst same
    generalize whole : ts ++ more = us at names
    induction names generalizing ts with
    | last isName close =>
      rcases ts with _ | ⟨name, _ | ⟨u, ts⟩⟩
      · rfl
      · cases whole
        simp [parameters?.names?, isName]
      · obtain ⟨-, none⟩ := List.append_eq_nil_iff.mp (List.cons.inj (List.cons.inj whole).2).2
        exact absurd none further
    | more isName comma names ih =>
      rcases ts with _ | ⟨name, _ | ⟨u, ts⟩⟩
      · rfl
      · cases whole
        simp [parameters?.names?, isName]
      · cases whole
        simp [parameters?.names?, isName, comma, ih ts rfl, Except.map]

/-- What does not begin with the closing parenthesis is read as names. -/
theorem parameters?_eq_names? (other : ∀ t behind, items = .ok t :: behind → t.kind ≠ .closeParen) :
    parameters? items = parameters?.names? items := by
  unfold parameters?
  split
  · rfl
  · rw [if_neg (other _ _ rfl)]
  · rfl

theorem parameters?_iff :
    parameters? items = .ok (some (params, rest)) ↔
      ∃ ts, ParameterList ts params ∧ items = ts.map .ok ++ rest := by
  constructor
  · intro found
    unfold parameters? at found
    split at found
    · cases found
    · rename_i t behind
      by_cases close : t.kind = .closeParen
      · rw [if_pos close] at found
        cases found
        exact ⟨[t], .empty close, rfl⟩
      · rw [if_neg close] at found
        obtain ⟨ts, names, same⟩ := names?_iff.mp found
        exact ⟨ts, .names names, same⟩
    · cases found
  · intro begins
    obtain ⟨ts, list, same⟩ := begins
    cases list with
    | empty close => simp [same, parameters?, close]
    | names names =>
      have found := names?_iff.mpr ⟨ts, names, same⟩
      obtain ⟨x, us, rfl, isName⟩ := names.exists_name
      rw [← found, parameters?_eq_names?]
      intro t behind begins
      rw [same] at begins
      cases begins
      simp [isName]

theorem parameters?_error_iff :
    parameters? items = .error e ↔ BreaksOff ParameterList e items := by
  constructor
  · intro failed
    unfold parameters? at failed
    split at failed
    · cases failed
      obtain ⟨y, close⟩ := Token.exists_kind .closeParen
      exact ⟨[], [y], _, _, .empty close, by simp, rfl⟩
    · rename_i t behind
      by_cases close : t.kind = .closeParen
      · rw [if_pos close] at failed
        cases failed
      · rw [if_neg close] at failed
        obtain ⟨ts, more, params, rest, names, further, same⟩ := names?_error_iff.mp failed
        exact ⟨ts, more, params, rest, .names names, further, same⟩
    · cases failed
  · intro breaks
    obtain ⟨ts, more, params, rest, list, further, same⟩ := breaks
    cases ts with
    | nil => rw [same]; rfl
    | cons t ts =>
      generalize whole : t :: ts ++ more = us at list
      cases list with
      | empty close =>
        obtain ⟨-, none⟩ := List.append_eq_nil_iff.mp (List.cons.inj whole).2
        exact absurd none further
      | names names =>
        rw [← whole] at names
        have failed := names?_error_iff.mpr ⟨_, _, _, _, names, further, same⟩
        obtain ⟨x, vs, first, isName⟩ := names.exists_name
        rw [← failed, parameters?_eq_names?]
        intro u behind begins
        rw [same] at begins
        cases begins
        cases first
        simp [isName]

/-! ### Heads -/

theorem lambdaHeader?_iff {s onArrow : TokenStream} :
    s.lambdaHeader? = .ok (some (params, onArrow)) ↔
      onArrow.current.kind = .arrow ∧
        ∃ ts, LambdaHead ts params ∧ s.items = ts.map .ok ++ onArrow.items := by
  constructor
  · intro found
    obtain ⟨arrow, ⟨kind, rfl, ahead⟩ | ⟨kind, found⟩⟩ := lambdaHeader?_cases found
    · exact ⟨arrow, [s.current], .name kind, by rw [items, ahead]; rfl⟩
    · obtain ⟨ts, list, ahead⟩ := parameters?_iff.mp found
      exact ⟨arrow, s.current :: ts, .list kind list, by rw [items, ahead]; rfl⟩
  · intro begins
    obtain ⟨arrow, ts, head, same⟩ := begins
    cases head with
    | name isName =>
      obtain ⟨first, ahead⟩ := List.cons.inj same
      cases first
      rw [lambdaHeader?_of_name isName ahead, if_pos arrow]
    | list start list =>
      obtain ⟨first, ahead⟩ := List.cons.inj same
      cases first
      have found := parameters?_iff.mpr ⟨_, list, ahead⟩
      rw [lambdaHeader?_of_parameters start found, if_pos arrow]

theorem onArrow?_error_iff :
    onArrow? params items = .error e ↔ ∃ rest, items = .error e :: rest := by
  constructor
  · intro failed
    unfold onArrow? at failed
    split at failed
    · cases failed
      exact ⟨_, rfl⟩
    · cases failed
    · cases failed
  · intro begins
    obtain ⟨rest, same⟩ := begins
    rw [same]
    rfl

theorem lambdaHeader?_error_of_name {s : TokenStream} (kind : s.current.kind = .identifier) :
    s.lambdaHeader? = .error e ↔ ∃ rest, s.ahead = .error e :: rest := by
  simp only [lambdaHeader?, kind, onArrow?_error_iff]

/-- The error is in the list of parameters, or behind it. -/
theorem lambdaHeader?_error_of_open {s : TokenStream} (kind : s.current.kind = .openParen) :
    s.lambdaHeader? = .error e ↔
      parameters? s.ahead = .error e ∨
        ∃ params rest, parameters? s.ahead = .ok (some (params, .error e :: rest)) := by
  simp only [lambdaHeader?, kind]
  cases found : parameters? s.ahead with
  | error e' => simp [bind, Except.bind]
  | ok result =>
    cases result with
    | none => simp [bind, Except.bind, pure, Except.pure]
    | some result =>
      obtain ⟨params, rest⟩ := result
      simp only [bind, Except.bind]
      rw [onArrow?_error_iff]
      simp

theorem lambdaHeader?_error_iff {s : TokenStream} :
    s.lambdaHeader? = .error e ↔ BreaksOff LambdaStart e s.items := by
  constructor
  · intro failed
    obtain ⟨x, isArrow⟩ := Token.exists_kind .arrow
    by_cases name : s.current.kind = .identifier
    · obtain ⟨rest, ahead⟩ := (lambdaHeader?_error_of_name name).mp failed
      exact ⟨[s.current], [x], _, rest, ⟨_, x, .name name, isArrow, rfl⟩, by simp,
        by rw [items, ahead]; rfl⟩
    · by_cases start : s.current.kind = .openParen
      · rcases (lambdaHeader?_error_of_open start).mp failed with inList | ⟨params, rest, found⟩
        · obtain ⟨ts, more, params, rest, list, further, ahead⟩ := parameters?_error_iff.mp inList
          refine ⟨s.current :: ts, more ++ [x], params, rest, ?_, by simp, ?_⟩
          · exact ⟨_, x, .list start list, isArrow, by simp⟩
          · rw [items, ahead]
            rfl
        · obtain ⟨ts, list, ahead⟩ := parameters?_iff.mp found
          refine ⟨s.current :: ts, [x], params, rest, ?_, by simp, ?_⟩
          · exact ⟨_, x, .list start list, isArrow, rfl⟩
          · rw [items, ahead]
            rfl
      · rw [lambdaHeader?_of_other name start] at failed
        cases failed
  · intro breaks
    obtain ⟨ts, more, params, rest, ⟨head, arrow, isHead, isArrow, whole⟩, further, same⟩ := breaks
    cases ts with
    | nil => cases same
    | cons first ts =>
      obtain ⟨current, ahead⟩ := List.cons.inj same
      cases current
      cases isHead with
      | name isName =>
        obtain ⟨rfl, behind⟩ := List.cons.inj whole
        cases ts with
        | nil => exact (lambdaHeader?_error_of_name isName).mpr ⟨rest, ahead⟩
        | cons u us =>
          obtain ⟨-, none⟩ := List.append_eq_nil_iff.mp (List.cons.inj behind).2
          exact absurd none further
      | @list _ us _ start list =>
        obtain ⟨rfl, behind⟩ := List.cons.inj whole
        rw [lambdaHeader?_error_of_open start]
        -- the tokens before the error are a part of the list, or all of it
        obtain ⟨more, last, rfl⟩ := (List.eq_nil_or_concat' more).resolve_left further
        have split : (ts ++ more) ++ [last] = us ++ [arrow] := by simpa using behind
        obtain ⟨rfl, -⟩ := List.append_inj' split rfl
        by_cases all : more = []
        · subst all
          rw [List.append_nil] at list
          exact .inr ⟨params, rest, parameters?_iff.mpr ⟨ts, list, ahead⟩⟩
        · exact .inl (parameters?_error_iff.mpr ⟨ts, more, params, rest, list, all, ahead⟩)

end TokenStream

end ExprLang
