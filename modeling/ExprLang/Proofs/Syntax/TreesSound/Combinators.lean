import ExprLang.Proofs.Syntax.Names
import ExprLang.Proofs.Syntax.ReadsPrinted.Combinators

/-!
# Parsers on streams that name their tokens

A reserved word becomes an identifier only as a qualifier, in front of a colon and a function name.
Where the parser takes it for anything else it is left standing at that colon, and no production but
the one for qualified names gets past it (`TokenStream.Stuck`). So a parser that ends elsewhere has
taken names only. `Gives P Q p` says this of a parser `p` from streams that satisfy `P`, with `Q`
for what it gives; the lemmas follow the combinators of the grammar.
-/

namespace ExprLang

namespace TokenStream

/-- The stream names its tokens. -/
def Named (s : TokenStream) : Prop :=
  ExprLang.Named (.ok s.current :: s.ahead)

/-- The stream stands at the name of a function, or at the colon before it. -/
def Stuck (s : TokenStream) : Prop :=
  s.current.kind = .functionSuffix ∨ BeforeSuffix (.ok s.current :: s.ahead)

variable {s s' : TokenStream}

theorem Named.advance (h : s.Named) (moved : s.advance = .ok s') : s'.Named := by
  unfold TokenStream.advance at moved
  split at moved
  · cases moved
    exact h
  · cases moved
  · rename_i ahead
    cases moved
    rw [TokenStream.Named, ahead] at h
    exact h.tail

/-- A stream moves on from the colon to the name only. -/
theorem Stuck.advance (h : s.Stuck) (notSuffix : s.current.kind ≠ .functionSuffix)
    (moved : s.advance = .ok s') : s'.Stuck := by
  rcases h with suffix | ⟨colon, name, rest, items, -, suffix⟩
  · exact absurd suffix notSuffix
  · obtain ⟨-, ahead⟩ := List.cons.inj items
    simp only [TokenStream.advance, ahead] at moved
    cases moved
    exact .inl suffix

theorem not_stuck {k : TokenKind} (kind : s.current.kind = k) (notColon : k ≠ .colon)
    (notSuffix : k ≠ .functionSuffix) : ¬s.Stuck := by
  rintro (suffix | ⟨colon, name, rest, items, colonKind, -⟩)
  · exact notSuffix (kind.symm.trans suffix)
  · obtain ⟨same, -⟩ := List.cons.inj items
    cases same
    exact notColon (kind.symm.trans colonKind)

end TokenStream

/-! ### The head of a lambda -/

/-- An identifier is a name if no colon follows it. -/
theorem Named.isName {t next : Token} {behind : List (Except ParseError Token)}
    (h : ExprLang.Named (.ok t :: .ok next :: behind)) (kind : t.kind = .identifier)
    (notColon : next.kind ≠ .colon) : IsName t.lexeme := by
  refine ⟨h.head.word kind, ?_⟩
  rcases h.head.free kind with free | ⟨colon, suffix, rest, items, colonKind, -⟩
  · exact free
  · obtain ⟨same, -⟩ := List.cons.inj items
    cases same
    exact absurd colonKind notColon

namespace TokenStream

/-- What a list of parameters looks like: a name with a parenthesis or a comma behind it. -/
theorem names?_cases {items behind : List (Except ParseError Token)} {params : List String}
    (found : parameters?.names? items = .ok (some (params, behind))) :
    ∃ name t rest, items = .ok name :: .ok t :: rest ∧ name.kind = .identifier ∧
      (t.kind = .closeParen ∧ params = [name.lexeme] ∧ behind = rest ∨
        t.kind = .comma ∧ ∃ more, params = name.lexeme :: more ∧
          parameters?.names? rest = .ok (some (more, behind))) := by
  unfold parameters?.names? at found
  split at found
  · cases found
  · rename_i name rest
    by_cases isName : name.kind = .identifier
    · rw [if_pos isName] at found
      split at found
      · cases found
      · rename_i t rest
        by_cases close : t.kind = .closeParen
        · rw [if_pos close] at found
          cases found
          exact ⟨name, t, _, rfl, isName, .inl ⟨close, rfl, rfl⟩⟩
        · rw [if_neg close] at found
          by_cases comma : t.kind = .comma
          · rw [if_pos comma] at found
            refine ⟨name, t, rest, rfl, isName, .inr ⟨comma, ?_⟩⟩
            cases later : parameters?.names? rest with
            | error e =>
              rw [later] at found
              cases found
            | ok result =>
              rw [later] at found
              cases result with
              | none => cases found
              | some more =>
                cases found
                exact ⟨more.1, rfl, rfl⟩
          · rw [if_neg comma] at found
            cases found
      · cases found
    · rw [if_neg isName] at found
      cases found
  · cases found

theorem names?_named {items behind : List (Except ParseError Token)} {params : List String}
    (named : ExprLang.Named items)
    (found : parameters?.names? items = .ok (some (params, behind))) :
    (∀ p ∈ params, IsName p) ∧ ExprLang.Named behind := by
  -- on the names, each of which takes two items
  induction params generalizing items with
  | nil =>
    obtain ⟨name, t, rest, -, -, ⟨-, same, -⟩ | ⟨-, more, same, -⟩⟩ := names?_cases found
    · cases same
    · cases same
  | cons first more ih =>
    obtain ⟨name, t, rest, rfl, isName, last⟩ := names?_cases found
    have named' : ExprLang.Named rest := named.tail.tail
    rcases last with ⟨close, same, rfl⟩ | ⟨comma, more, same, found⟩
    · obtain ⟨rfl, rfl⟩ := List.cons.inj same
      have name := Named.isName named isName (by simp [close])
      exact ⟨by simpa using name, named'⟩
    · obtain ⟨rfl, rfl⟩ := List.cons.inj same
      have name := Named.isName named isName (by simp [comma])
      obtain ⟨names, behind⟩ := ih named' found
      exact ⟨List.forall_mem_cons.mpr ⟨name, names⟩, behind⟩

theorem parameters?_named {items behind : List (Except ParseError Token)} {params : List String}
    (named : ExprLang.Named items) (found : parameters? items = .ok (some (params, behind))) :
    (∀ p ∈ params, IsName p) ∧ ExprLang.Named behind := by
  unfold parameters? at found
  split at found
  · cases found
  · split at found
    · cases found
      exact ⟨by simp, named.tail⟩
    · exact names?_named named found
  · cases found

/-- The first of the items after the parameters is the arrow. -/
theorem onArrow?_cases {names params : List String} {items : List (Except ParseError Token)}
    {onArrow : TokenStream} (found : onArrow? names items = .ok (some (params, onArrow))) :
    onArrow.current.kind = .arrow ∧ names = params ∧
      items = .ok onArrow.current :: onArrow.ahead := by
  unfold onArrow? at found
  split at found
  · cases found
  · split at found
    · rename_i arrow
      cases found
      exact ⟨arrow, rfl, rfl⟩
    · cases found
  · cases found

/-- The head of a lambda is a name or a parameter list with an arrow behind it. -/
theorem lambdaHeader?_cases {s onArrow : TokenStream} {params : List String}
    (found : s.lambdaHeader? = .ok (some (params, onArrow))) :
    onArrow.current.kind = .arrow ∧
      (s.current.kind = .identifier ∧ params = [s.current.lexeme] ∧
          s.ahead = .ok onArrow.current :: onArrow.ahead ∨
        s.current.kind = .openParen ∧ parameters? s.ahead =
          .ok (some (params, .ok onArrow.current :: onArrow.ahead))) := by
  unfold lambdaHeader? at found
  split at found
  · rename_i kind
    obtain ⟨arrow, names, ahead⟩ := onArrow?_cases found
    exact ⟨arrow, .inl ⟨kind, names.symm, ahead⟩⟩
  · rename_i kind
    cases list : parameters? s.ahead with
    | error e =>
      rw [list] at found
      cases found
    | ok result =>
      rw [list] at found
      cases result with
      | none => cases found
      | some r =>
        obtain ⟨arrow, rfl, items⟩ := onArrow?_cases found
        exact ⟨arrow, .inr ⟨kind, by rw [← items]⟩⟩
  · cases found

/-- The parameters of a lambda are names, and no head of a lambda begins at a suffix. -/
theorem lambdaHeader?_named {s onArrow : TokenStream} {params : List String} (named : s.Named)
    (found : s.lambdaHeader? = .ok (some (params, onArrow))) :
    (∀ p ∈ params, IsName p) ∧ onArrow.Named ∧ ¬s.Stuck := by
  obtain ⟨arrow, ⟨kind, rfl, ahead⟩ | ⟨kind, list⟩⟩ := lambdaHeader?_cases found
  · rw [TokenStream.Named, ahead] at named
    have notColon : onArrow.current.kind ≠ .colon := by simp [arrow]
    refine ⟨?_, named.tail, not_stuck kind (by decide) (by decide)⟩
    simpa using named.isName kind notColon
  · obtain ⟨names, behind⟩ := parameters?_named named.tail list
    exact ⟨names, behind, not_stuck kind (by decide) (by decide)⟩

end TokenStream

/-- From a stream with `P`, what the parser gives is `Q` unless it ends up stuck. -/
def Gives {α : Type} (P : TokenStream → Prop) (Q : α → Prop) (p : Parser α) : Prop :=
  ∀ s a s', P s → s.Named → p s = .ok (a, s') →
    s'.Named ∧ (s.Stuck → s'.Stuck) ∧ (¬s'.Stuck → Q a)

/-- Any stream. -/
abbrev Anywhere (_ : TokenStream) : Prop :=
  True

/-- A look that succeeds gives what was seen and does not move. -/
theorem Parser.of_look {α : Type} {f : TokenStream → Except ParseError α} {s s' : TokenStream}
    {a : α} (ran : Parser.look f s = .ok (a, s')) : f s = .ok a ∧ s' = s := by
  replace ran : ((f s).mapError Halt.error >>= fun a => .ok (a, s)) = .ok (a, s') := ran
  cases looked : f s with
  | error e =>
    rw [looked] at ran
    cases ran
  | ok b =>
    rw [looked] at ran
    cases ran
    exact ⟨rfl, rfl⟩

/-- The parts of a run. -/
theorem Parser.of_bind {α β : Type} {p : Parser α} {f : α → Parser β} {s s' : TokenStream} {b : β}
    (ran : (p >>= f) s = .ok (b, s')) :
    ∃ a between, p s = .ok (a, between) ∧ f a between = .ok (b, s') := by
  replace ran : (p s >>= fun r => f r.1 r.2) = .ok (b, s') := ran
  cases first : p s with
  | error e =>
    rw [first] at ran
    cases ran
  | ok r =>
    rw [first] at ran
    exact ⟨r.1, r.2, rfl, ran⟩

theorem Parser.of_advance {s s' : TokenStream} {u : Unit} (ran : Parser.advance s = .ok (u, s')) :
    s.advance = .ok s' := by
  obtain ⟨next, between, looked, set⟩ := Parser.of_bind ran
  obtain ⟨moved, rfl⟩ := Parser.of_look looked
  cases set
  exact moved

theorem Parser.of_identifier {s s' : TokenStream} {name : String}
    (ran : Parser.identifier s = .ok (name, s')) :
    s.current.kind = .identifier ∧ name = s.current.lexeme ∧ s.advance = .ok s' := by
  replace ran : (if s.current.kind = .identifier then
      Parser.advance >>= fun _ => (Pure.pure s.current.lexeme : Parser String)
    else Parser.unexpected .identifier) s = .ok (name, s') := ran
  by_cases kind : s.current.kind = .identifier
  · rw [if_pos kind] at ran
    obtain ⟨u, between, first, second⟩ := Parser.of_bind ran
    cases second
    exact ⟨kind, rfl, Parser.of_advance first⟩
  · rw [if_neg kind] at ran
    cases ran

theorem Parser.of_expect {s s' : TokenStream} {kind : TokenKind} {u : Unit}
    (ran : Parser.expect kind s = .ok (u, s')) : s.current.kind = kind ∧ s.advance = .ok s' := by
  replace ran : (if (s.current.kind == kind) = true then Parser.advance
    else Parser.unexpected (.token kind)) s = .ok (u, s') := ran
  by_cases same : s.current.kind = kind
  · rw [if_pos (by simpa using same)] at ran
    exact ⟨same, Parser.of_advance ran⟩
  · rw [if_neg (by simpa using same)] at ran
    cases ran

namespace Gives

variable {α β : Type} {P : TokenStream → Prop} {Q Q' : α → Prop} {R : β → Prop} {p : Parser α}

theorem weaken (h : Gives Anywhere Q p) : Gives P Q p :=
  fun s a s' _ => h s a s' trivial

theorem mono (h : Gives P Q p) (le : ∀ a, Q a → Q' a) : Gives P Q' p := by
  intro s a s' start named ran
  obtain ⟨named, stuck, gives⟩ := h s a s' start named ran
  exact ⟨named, stuck, fun free => le a (gives free)⟩

theorem pure {a : α} (h : Q a) : Gives P Q (Pure.pure a) := by
  intro s b s' _ named ran
  cases ran
  exact ⟨named, id, fun _ => h⟩

theorem fail (e : ParseError) : Gives P Q (Parser.fail e) := by
  intro s a s' _ _ ran
  cases ran

theorem exhausted : Gives P Q Parser.exhausted := by
  intro s a s' _ _ ran
  cases ran

theorem unexpected (expected : Expectation) : Gives P Q (Parser.unexpected expected) := by
  intro s a s' _ _ ran
  cases ran

/-- The second parser may be judged by what the first one gives. -/
theorem bind {f : α → Parser β} (hp : Gives P Q p)
    (hf : ∀ a, Gives Anywhere (fun b => Q a → R b) (f a)) : Gives P R (p >>= f) := by
  intro s b s' start named ran
  obtain ⟨a, between, first, second⟩ := Parser.of_bind ran
  -- a second parser that ends elsewhere did not start stuck
  obtain ⟨named, stuck, gives⟩ := hp s a between start named first
  obtain ⟨named', stuck', gives'⟩ := hf a between b s' trivial named second
  refine ⟨named', fun h => stuck' (stuck h), fun free => gives' free (gives ?_)⟩
  exact fun h => free (stuck' h)

/-- A parser is judged by each token it may stand at. -/
theorem current {f : Token → Parser β} (h : ∀ t, Gives (fun s => s.current = t) R (f t)) :
    Gives P R (Parser.current >>= f) :=
  fun s b s' _ => h s.current s b s' rfl

theorem at? {kind : TokenKind} {f : Bool → Parser β}
    (there : Gives (fun s => s.current.kind = kind) R (f true))
    (other : Gives Anywhere R (f false)) : Gives P R (Parser.at? kind >>= f) := by
  intro s b s' _ named ran
  replace ran : f (s.current.kind == kind) s = .ok (b, s') := ran
  by_cases same : s.current.kind = kind
  · rw [same, beq_self_eq_true] at ran
    exact there s b s' same named ran
  · rw [beq_eq_false_iff_ne.mpr same] at ran
    exact other s b s' trivial named ran

/-- A look at the stream, which does not move it. -/
theorem look {f : TokenStream → Except ParseError α} {g : α → Parser β}
    (h : ∀ a, Gives (fun s => P s ∧ f s = .ok a) R (g a)) : Gives P R (Parser.look f >>= g) := by
  intro s b s' start named ran
  obtain ⟨a, between, first, second⟩ := Parser.of_bind ran
  obtain ⟨looked, rfl⟩ := Parser.of_look first
  exact h a between b s' ⟨start, looked⟩ named second

/-- Every token but the name of a function may be passed. -/
theorem advance (notSuffix : ∀ s, P s → s.current.kind ≠ .functionSuffix) :
    Gives P (fun _ => True) Parser.advance := by
  intro s a s' start named ran
  have moved := Parser.of_advance ran
  exact ⟨named.advance moved, fun h => h.advance (notSuffix s start) moved, fun _ => trivial⟩

theorem expect {kind : TokenKind} (notSuffix : kind ≠ .functionSuffix) :
    Gives P (fun _ => True) (Parser.expect kind) := by
  refine at? (.advance fun s same => ?_) (.unexpected _)
  rwa [same]

theorem expect_bind {kind : TokenKind} {f : Unit → Parser β} (notSuffix : kind ≠ .functionSuffix)
    (h : Gives Anywhere R (f ())) : Gives P R (Parser.expect kind >>= f) :=
  bind (expect notSuffix) fun _ => h.mono fun _ r _ => r

/-- The current token is passed, whatever comes then. -/
theorem advance_bind {f : Unit → Parser β} (notSuffix : ∀ s, P s → s.current.kind ≠ .functionSuffix)
    (h : Gives Anywhere R (f ())) : Gives P R (Parser.advance >>= f) :=
  bind (advance notSuffix) fun _ => h.mono fun _ r _ => r

/-- A token that is known is passed. -/
theorem advance_at {t : Token} {f : Unit → Parser β} (notSuffix : t.kind ≠ .functionSuffix)
    (h : Gives Anywhere R (f ())) : Gives (fun s => s.current = t) R (Parser.advance >>= f) :=
  advance_bind (fun _ same => same ▸ notSuffix) h

theorem advance_kind {kind : TokenKind} {f : Unit → Parser β} (notSuffix : kind ≠ .functionSuffix)
    (h : Gives Anywhere R (f ())) :
    Gives (fun s => s.current.kind = kind) R (Parser.advance >>= f) :=
  advance_bind (fun _ same => same ▸ notSuffix) h

/-- An identifier that the parser gets past is a name. -/
theorem identifier : Gives P IsName Parser.identifier := by
  intro s name s' _ named ran
  obtain ⟨kind, rfl, moved⟩ := Parser.of_identifier ran
  have notSuffix : s.current.kind ≠ .functionSuffix := by simp [kind]
  refine ⟨named.advance moved, fun h => h.advance notSuffix moved, fun free => ?_⟩
  have head := EachToken.head named
  rcases head.free kind with notReserved | ⟨colon, suffix, rest, ahead, kinds⟩
  · exact ⟨head.word kind, notReserved⟩
  · -- the parser would be left at the colon
    simp only [TokenStream.advance, ahead] at moved
    cases moved
    exact absurd (.inr ⟨colon, suffix, rest, rfl, kinds⟩) free

end Gives

end ExprLang
