import ExprLang.Proofs.Syntax.RestIrrelevant.Alignment

/-!
# Parsers on streams that differ behind the place where a run ends

`Mirrors N k p q` says that a run of `p` that does not get past its place is a run of `q` on an
aligned stream, with the same result and at least `k` tokens fewer in front of the places, provided
that there were at most `N` of them. So nothing that comes behind the place matters, and neither do
budgets that are large enough for `N` tokens. The lemmas follow the combinators of the grammar.
-/

namespace ExprLang

/-- A run of the first parser that does not pass the place `z`, with at most `N` tokens in front of
it, is a run of the second one, and takes at least `k` of these tokens. -/
structure Mirrors (z z' : TokenStream) (P : TokenStream → Prop) (N : Int) (k : Nat) {α : Type}
    (p q : Parser α) : Prop where
  forward : ∀ s a s', p s = .ok (a, s') → s'.items <:+ s.items
  follows : ∀ (n : Nat) s u a s', P s → (n : Int) ≤ N → Aligned z z' n s u → p s = .ok (a, s') →
    z.items <:+ s'.items → ∃ m u', m + k ≤ n ∧ q u = .ok (a, u') ∧ Aligned z z' m s' u'

namespace Mirrors

variable {z z' : TokenStream} {P : TokenStream → Prop} {N : Int} {k : Nat} {α β : Type}
  {p q : Parser α}

theorem restrict {Q : TokenStream → Prop} (h : Mirrors z z' Q N k p q) (le : ∀ s, P s → Q s) :
    Mirrors z z' P N k p q :=
  ⟨h.forward, fun n s u a s' start => h.follows n s u a s' (le s start)⟩

theorem weaken (h : Mirrors z z' Anywhere N k p q) : Mirrors z z' P N k p q :=
  h.restrict fun _ _ => trivial

theorem mono {M : Int} (h : Mirrors z z' P N k p q) (less : M ≤ N) : Mirrors z z' P M k p q :=
  ⟨h.forward, fun n s u a s' start le => h.follows n s u a s' start (Int.le_trans le less)⟩

theorem any (h : Mirrors z z' P N k p q) : Mirrors z z' P N 0 p q := by
  refine ⟨h.forward, fun n s u a s' start le aligned ran stays => ?_⟩
  obtain ⟨m, u', taken, ran', aligned'⟩ := h.follows n s u a s' start le aligned ran stays
  exact ⟨m, u', by omega, ran', aligned'⟩

/-- A budget that is not enough for a single step has to be enough for nothing only. -/
theorem budget (run : Nat → Parser α) {b : Nat} (spent : b = 0 → N < 0)
    (step : ∀ c, b ≤ c + 1 → Mirrors z z' P N k p (run (c + 1))) :
    Mirrors z z' P N k p (run b) := by
  cases b with
  | zero =>
    refine ⟨(step 0 (by omega)).forward, fun n s u a s' start le aligned ran stays => ?_⟩
    have := spent rfl
    omega
  | succ c => exact step c (Nat.le_refl _)

/-! ### Combinators -/

theorem pure (a : α) : Mirrors z z' P N 0 (Pure.pure a) (Pure.pure a) := by
  constructor
  · intro s b s' ran
    cases ran
    exact List.suffix_refl _
  · intro n s u b s' _ _ aligned ran _
    cases ran
    exact ⟨n, u, by omega, rfl, aligned⟩

/-- A parser that only fails is mirrored by every other one. -/
theorem of_error (fails : ∀ s, ∃ e, p s = .error e) : Mirrors z z' P N k p q := by
  constructor
  · intro s a s' ran
    obtain ⟨e, error⟩ := fails s
    rw [error] at ran
    cases ran
  · intro n s u a s' _ _ _ ran
    obtain ⟨e, error⟩ := fails s
    rw [error] at ran
    cases ran

theorem fail (e : ParseError) : Mirrors z z' P N k (Parser.fail e) q :=
  of_error fun _ => ⟨_, rfl⟩

theorem exhausted : Mirrors z z' P N k Parser.exhausted q :=
  of_error fun _ => ⟨_, rfl⟩

theorem unexpected (expected : Expectation) : Mirrors z z' P N k (Parser.unexpected expected) q :=
  of_error fun _ => ⟨_, rfl⟩

/-- The second parser starts where the first one lands. What it takes does not count. -/
theorem bind_at {R : α → TokenStream → Prop} {f g : α → Parser β} (hp : Mirrors z z' P N k p q)
    (lands : ∀ s a s', P s → p s = .ok (a, s') → R a s')
    (hf : ∀ a, Mirrors z z' (R a) (N - k) 0 (f a) (g a)) :
    Mirrors z z' P N k (p >>= f) (q >>= g) := by
  constructor
  · intro s b s' ran
    obtain ⟨a, between, first, second⟩ := Parser.of_bind ran
    exact ((hf a).forward _ _ _ second).trans (hp.forward _ _ _ first)
  · intro n s u b s' start le aligned ran stays
    obtain ⟨a, between, first, second⟩ := Parser.of_bind ran
    -- the place is still ahead when the second parser begins
    have ahead := stays.trans ((hf a).forward _ _ _ second)
    obtain ⟨m, u₁, taken, first', aligned⟩ :=
      hp.follows n s u a between start le aligned first ahead
    have lands := lands s a between start first
    obtain ⟨m', u₂, taken', second', aligned⟩ :=
      (hf a).follows m between u₁ b s' lands (by omega) aligned second stays
    exact ⟨m', u₂, by omega, (Parser.bind_ok first').trans second', aligned⟩

theorem bind {f g : α → Parser β} (hp : Mirrors z z' P N k p q)
    (hf : ∀ a, Mirrors z z' Anywhere (N - k) 0 (f a) (g a)) :
    Mirrors z z' P N k (p >>= f) (q >>= g) :=
  bind_at hp (fun _ _ _ _ _ => trivial) hf

/-- A look that shows the same on both streams. -/
theorem look {f : TokenStream → Except ParseError α} {g g' : α → Parser β}
    (same : ∀ n s u, P s → Aligned z z' n s u → ∃ a, f s = .ok a ∧ f u = .ok a)
    (h : ∀ a, Mirrors z z' (fun s => P s ∧ f s = .ok a) N k (g a) (g' a)) :
    Mirrors z z' P N k (Parser.look f >>= g) (Parser.look f >>= g') := by
  constructor
  · intro s b s' ran
    obtain ⟨a, between, looked, rest⟩ := Parser.of_bind ran
    obtain ⟨-, rfl⟩ := Parser.of_look looked
    exact (h a).forward between b s' rest
  · intro n s u b s' start le aligned ran stays
    obtain ⟨a, between, looked, rest⟩ := Parser.of_bind ran
    obtain ⟨looked, rfl⟩ := Parser.of_look looked
    obtain ⟨a', seen, seen'⟩ := same n between u start aligned
    cases looked.symm.trans seen
    obtain ⟨m, u', taken, ran', aligned⟩ :=
      (h a).follows n between u b s' ⟨start, looked⟩ le aligned rest stays
    exact ⟨m, u', taken, (Parser.bind_ok (Parser.look_ok seen')).trans ran', aligned⟩

/-- Whether the current token is of a kind is the same on both sides, except at the places. -/
theorem at?_of_last {kind : TokenKind} {f g : Bool → Parser β}
    (there : Mirrors z z' (fun s => s.current.kind = kind) N k (f true) (g true))
    (other : Mirrors z z' Anywhere N k (f false) (g false))
    (last : ∀ b s', (0 : Int) ≤ N → f (z.current.kind == kind) z = .ok (b, s') →
      z.items <:+ s'.items →
      ∃ u', k = 0 ∧ g (z'.current.kind == kind) z' = .ok (b, u') ∧ Aligned z z' 0 s' u') :
    Mirrors z z' P N k (Parser.at? kind >>= f) (Parser.at? kind >>= g) := by
  constructor
  · intro s b s' ran
    replace ran : f (s.current.kind == kind) s = .ok (b, s') := ran
    cases same : s.current.kind == kind with
    | true => exact there.forward s b s' (same ▸ ran)
    | false => exact other.forward s b s' (same ▸ ran)
  · intro n s u b s' _ le aligned ran stays
    replace ran : f (s.current.kind == kind) s = .ok (b, s') := ran
    show ∃ m u', m + k ≤ n ∧ g (u.current.kind == kind) u = .ok (b, u') ∧ Aligned z z' m s' u'
    cases aligned with
    | last =>
      obtain ⟨u', rfl, ran', aligned⟩ := last b s' le ran stays
      exact ⟨0, u', Nat.le_refl _, ran', aligned⟩
    | more same ahead ahead' rest =>
      have kinds : s.current.kind = u.current.kind := congrArg Prod.fst same
      rw [← kinds]
      have aligned := Aligned.more same ahead ahead' rest
      cases here : s.current.kind == kind with
      | true => exact there.follows _ s u b s' (by simpa using here) le aligned (here ▸ ran) stays
      | false => exact other.follows _ s u b s' trivial le aligned (here ▸ ran) stays

/-- Where something is taken in any case, there is nothing to say of the places. -/
theorem at?_taking {kind : TokenKind} {f g : Bool → Parser β}
    (there : Mirrors z z' (fun s => s.current.kind = kind) N (k + 1) (f true) (g true))
    (other : Mirrors z z' Anywhere N (k + 1) (f false) (g false)) :
    Mirrors z z' P N (k + 1) (Parser.at? kind >>= f) (Parser.at? kind >>= g) := by
  refine at?_of_last there other fun b s' le ran stays => ?_
  cases here : z.current.kind == kind with
  | true =>
    rw [here] at ran
    obtain ⟨m, _, taken, -⟩ := there.follows 0 z z' b s' (by simpa using here) le .last ran stays
    omega
  | false =>
    rw [here] at ran
    obtain ⟨m, _, taken, -⟩ := other.follows 0 z z' b s' trivial le .last ran stays
    omega

section Places

variable (places : Places z z')
include places

/-- A parser is judged by each token it may stand at: one that both streams show, or the places. -/
theorem current {f g : Token → Parser β}
    (shown : ∀ kind lexeme at_ at', Mirrors z z' (fun s => s.current = ⟨kind, lexeme, at_⟩) N k
      (f ⟨kind, lexeme, at_⟩) (g ⟨kind, lexeme, at'⟩))
    (closing : ∀ t t' : Token, t.kind.isClosing = true → t'.kind.isClosing = true →
      Mirrors z z' Anywhere N k (f t) (g t')) :
    Mirrors z z' P N k (Parser.current >>= f) (Parser.current >>= g) := by
  constructor
  · intro s b s' ran
    have mirrors := shown s.current.kind s.current.lexeme s.current.position s.current.position
    exact mirrors.forward s b s' ran
  · intro n s u b s' _ le aligned ran stays
    cases aligned with
    | last =>
      exact (closing _ _ places.left places.right).follows 0 z z' b s' trivial le .last ran stays
    | more same ahead ahead' rest =>
      have same' : u.current = ⟨s.current.kind, s.current.lexeme, u.current.position⟩ := by
        simp only [Token.shown, Prod.mk.injEq] at same
        rw [same.1, same.2]
      have mirrors := shown s.current.kind s.current.lexeme s.current.position u.current.position
      rw [← same'] at mirrors
      exact mirrors.follows _ s u b s' rfl le (.more same ahead ahead' rest) ran stays

/-- The current token is passed. At its place the first stream passes the place. -/
theorem advance (notEnd : ∀ s, P s → s.current.kind ≠ .endOfText) :
    Mirrors z z' P N 1 Parser.advance Parser.advance := by
  constructor
  · intro s a s' ran
    exact TokenStream.suffix_of_advance (Parser.of_advance ran)
  · intro n s u a s' start _ aligned ran stays
    have moved := Parser.of_advance ran
    cases aligned with
    | last =>
      have more := places.behind (notEnd _ start)
      exact absurd stays (TokenStream.not_suffix_of_advance more moved)
    | more same ahead ahead' rest =>
      cases moved.symm.trans (TokenStream.advance_of_ahead ahead)
      exact ⟨_, _, Nat.le_refl _, Parser.advance_ok (TokenStream.advance_of_ahead ahead'), rest⟩

theorem advance_at {t : Token} {f g : Unit → Parser β} (notEnd : t.kind ≠ .endOfText)
    (h : Mirrors z z' Anywhere (N - 1) 0 (f ()) (g ())) :
    Mirrors z z' (fun s => s.current = t) N 1 (Parser.advance >>= f) (Parser.advance >>= g) :=
  bind (advance places fun _ same => same ▸ notEnd) fun _ => h

theorem advance_kind {kind : TokenKind} {f g : Unit → Parser β} (notEnd : kind ≠ .endOfText)
    (h : Mirrors z z' Anywhere (N - 1) 0 (f ()) (g ())) :
    Mirrors z z' (fun s => s.current.kind = kind) N 1 (Parser.advance >>= f)
      (Parser.advance >>= g) :=
  bind (advance places fun _ same => same ▸ notEnd) fun _ => h

/-- A token of a known kind is passed, and its lexeme is used. -/
theorem lexeme_bind {kind : TokenKind} {f g : String → Parser β}
    (notClosing : kind.isClosing = false)
    (h : ∀ lexeme, Mirrors z z' Anywhere (N - 1) 0 (f lexeme) (g lexeme)) :
    Mirrors z z' (fun s => s.current.kind = kind) N 1
      (Parser.current >>= fun t => Parser.advance >>= fun _ => f t.lexeme)
      (Parser.current >>= fun t => Parser.advance >>= fun _ => g t.lexeme) := by
  have notEnd : kind ≠ .endOfText := (TokenKind.ne_of_isClosing rfl notClosing).symm
  have passed (lexeme : String) : Mirrors z z' (fun s => s.current.kind = kind) N 1
      (Parser.advance >>= fun _ => f lexeme) (Parser.advance >>= fun _ => g lexeme) :=
    advance_kind places notEnd (h lexeme)
  refine ⟨fun s b s' ran => (passed s.current.lexeme).forward s b s' ran, ?_⟩
  intro n s u b s' start le aligned ran stays
  have here : s.current.kind.isClosing = false :=
    (congrArg TokenKind.isClosing start).trans notClosing
  obtain ⟨-, -, -, -, same, -⟩ := aligned.of_notClosing places here
  have lexemes : u.current.lexeme = s.current.lexeme := (congrArg Prod.snd same).symm
  show ∃ m u', m + 1 ≤ n ∧ (Parser.advance >>= fun _ => g u.current.lexeme) u = _ ∧ _
  rw [lexemes]
  exact (passed s.current.lexeme).follows n s u b s' start le aligned ran stays

/-- No place is of a kind that does not close. -/
theorem at? {kind : TokenKind} {f g : Bool → Parser β} (notClosing : kind.isClosing = false)
    (there : Mirrors z z' (fun s => s.current.kind = kind) N k (f true) (g true))
    (other : Mirrors z z' Anywhere N k (f false) (g false)) :
    Mirrors z z' P N k (Parser.at? kind >>= f) (Parser.at? kind >>= g) := by
  have differs {t : Token} (closing : t.kind.isClosing = true) : (t.kind == kind) = false :=
    beq_eq_false_iff_ne.mpr (TokenKind.ne_of_isClosing closing notClosing)
  refine at?_of_last there other fun b s' le ran stays => ?_
  rw [differs places.left] at ran
  rw [differs places.right]
  obtain ⟨m, u', taken, ran', aligned⟩ := other.follows 0 z z' b s' trivial le .last ran stays
  obtain ⟨rfl, rfl⟩ : m = 0 ∧ k = 0 := by omega
  exact ⟨u', rfl, ran', aligned⟩

theorem expect {kind : TokenKind} (notEnd : kind ≠ .endOfText) :
    Mirrors z z' P N 1 (Parser.expect kind) (Parser.expect kind) :=
  at?_taking (advance places fun _ same => same ▸ notEnd) (unexpected _)

theorem expect_bind {kind : TokenKind} {f g : Unit → Parser β} (notEnd : kind ≠ .endOfText)
    (h : Mirrors z z' Anywhere (N - 1) 0 (f ()) (g ())) :
    Mirrors z z' P N 1 (Parser.expect kind >>= f) (Parser.expect kind >>= g) :=
  bind (expect places notEnd) fun _ => h

theorem identifier : Mirrors z z' P N 1 Parser.identifier Parser.identifier := by
  refine current places (fun kind lexeme at_ at' => ?_) fun t t' closing closing' => ?_
  · by_cases name : kind = .identifier
    · simp only [if_pos name]
      have notEnd : kind ≠ .endOfText := by simp [name]
      refine advance_at places (t := ⟨kind, lexeme, at_⟩) notEnd ?_
      exact pure lexeme
    · simp only [if_neg name]
      exact unexpected _
  · have notName : t.kind ≠ .identifier := TokenKind.ne_of_isClosing closing rfl
    simp only [if_neg notName]
    exact unexpected _

end Places

end Mirrors

end ExprLang
