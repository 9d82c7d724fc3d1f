import ExprLang.Proofs.Syntax.TreesSound.Productions
import ExprLang.Proofs.Syntax.TokensKept.Combinators

/-!
# No token is lost

Every production passes just the tokens whose atoms its tree has, and punctuation, in which every
brace that it opens is closed. **Key theorem**: `tokens_of_parse`, for the tokens of a whole text.
-/

namespace ExprLang

namespace Tallies

variable {α : Type} {P : TokenStream → Prop} {y : Tally}

/-! ### Lists -/

theorem itemsUntil {close : TokenKind} {item : Parser Expr} (h : TalliesTree item)
    (mark : close.isMark = true) (budget : Nat) :
    Tallies P y (Parser.itemsUntil close item budget) fun es after =>
      after = y.plus (Expr.atomsOfAll es) := by
  induction budget generalizing P y with
  | zero => exact exhausted
  | succ budget ih =>
    have others (first : Expr) : Tallies Anywhere (y.plus first.atoms)
        (Parser.itemsUntil close item budget >>= fun es => Pure.pure (first :: es))
        fun es after => after = y.plus (Expr.atomsOfAll es) := by
      refine bind ih ?_
      rintro es _ rfl
      exact pure (by simp [Expr.atomsOfAll])
    refine at? (at_mark mark (pure (by simp [Expr.atomsOfAll]))) (bind (h y) ?_)
    rintro first _ rfl
    exact at? (others first).weaken (mark_bind rfl (others first))

/-- Items that each follow a separator, where `as` gives the atoms of all of them. -/
theorem itemsAfter {separator : TokenKind} {item : Parser α} {a : α → List Atom}
    (as : List α → List Atom) {Q : α → Prop} (mark : separator.isMark = true)
    (h : ∀ y, Tallies Anywhere y item fun b after => Q b ∧ after = y.plus (a b))
    (nil : as [] = []) (cons : ∀ b bs, as (b :: bs) = a b ++ as bs) (budget : Nat) :
    Tallies P y (Parser.itemsAfter separator item budget) fun bs after =>
      (∀ b ∈ bs, Q b) ∧ after = y.plus (as bs) := by
  induction budget generalizing P y with
  | zero => exact exhausted
  | succ budget ih =>
    refine at? (at_mark mark (bind (h y) ?_)) (pure ⟨by simp, by simp [nil]⟩)
    rintro first _ ⟨q, rfl⟩
    refine bind ih ?_
    rintro more _ ⟨qs, rfl⟩
    exact pure ⟨List.forall_mem_cons.mpr ⟨q, qs⟩, by simp [cons]⟩

/-- Trees that each follow a separator. -/
theorem treesAfter {separator : TokenKind} {item : Parser Expr} (h : TalliesTree item)
    (mark : separator.isMark = true) (budget : Nat) :
    Tallies P y (Parser.itemsAfter separator item budget) fun es after =>
      after = y.plus (Expr.atomsOfAll es) := by
  have trees := itemsAfter (P := P) (y := y) (Q := fun _ => True) Expr.atomsOfAll mark
    (fun y => (h y).mono fun _ _ same => ⟨trivial, same⟩) rfl
    (fun e es => by simp [Expr.atomsOfAll]) budget
  exact trees.mono fun _ _ same => same.2

theorem arguments {item : Parser Expr} (h : TalliesTree item) (budget : Nat) :
    Tallies P y (Parser.arguments budget item) fun es after =>
      after = y.plus (Expr.atomsOfAll es) :=
  mark_bind rfl (itemsUntil h rfl budget)

/-- The names of a type are the parts of its name. -/
theorem typeName (budget : Nat) :
    Tallies P y (Parser.typeName budget) fun name after =>
      after = y.plus ((Printer.namesOf name.toList).map .name) := by
  refine bind identifier ?_
  rintro first _ ⟨word, rfl⟩
  refine bind (itemsAfter (List.map .name) rfl (fun _ => identifier) rfl (fun _ _ => rfl)
    budget) ?_
  rintro more _ ⟨words, rfl⟩
  have names : Printer.namesOf (".".intercalate (first :: more)).toList = first :: more :=
    Printer.namesOf_intercalate (by simp) (List.forall_mem_cons.mpr ⟨word, words⟩)
  exact pure (by rw [names, Tally.plus_plus]; rfl)

/-! ### Levels without a loop -/

section Levels

variable {p q : Parser Expr}

theorem sequence (h : TalliesTree p) (budget : Nat) : TalliesTree (Parser.sequence budget p) := by
  intro y
  refine bind (h y) ?_
  rintro first _ rfl
  refine bind (treesAfter h rfl budget) ?_
  rintro more _ rfl
  refine pure ?_
  cases more with
  | nil => simp [Expr.atomsOfAll]
  | cons second more => simp [Expr.atoms, Expr.atomsOfAll]

theorem assignment (hp : TalliesTree p) (hq : TalliesTree q) :
    TalliesTree (Parser.assignment p q) := by
  intro y
  refine bind (hp y) ?_
  rintro left _ rfl
  refine current fun t => ?_
  split
  · rename_i assign
    split
    · refine advance_mark (by simp [assign]; rfl) (bind (hq _) ?_)
      rintro value _ rfl
      exact pure (by simp [Expr.atoms])
    · exact fail _
  · exact pure rfl

theorem conditional (hp : TalliesTree p) (hq : TalliesTree q) :
    TalliesTree (Parser.conditional p q) := by
  intro y
  refine bind (hp y) ?_
  rintro test _ rfl
  refine at? (at_mark rfl (bind (hq _) ?_)) (pure rfl)
  rintro yes _ rfl
  refine mark_bind rfl (bind (hq _) ?_)
  rintro no _ rfl
  exact pure (by simp [Expr.atoms])

/-- The token of an operator stands for it, in either spelling. -/
theorem atom_of_ofToken? {t : Token} {op : UnaryOp} (found : UnaryOp.ofToken? t.kind = some op) :
    t.kind.isStructural = false ∧ t.atom = .operator op.kind := by
  unfold UnaryOp.ofToken? at found
  split at found <;> cases found <;> rename_i kind <;> simp [Token.atom, kind] <;> exact ⟨rfl, rfl⟩

theorem unary (hp : TalliesTree p) (hq : TalliesTree q) : TalliesTree (Parser.unary p q) := by
  intro y
  refine current fun t => ?_
  split
  · exact (hq y).weaken
  · rename_i op found
    obtain ⟨content, atom⟩ := atom_of_ofToken? found
    refine advance_atom content (bind (hp _) ?_)
    rintro operand _ rfl
    exact pure (by simp [Expr.atoms, atom])

/-- The names of a parameter list, and the marks between and behind them. -/
theorem names?_passed {items behind : List (Except ParseError Token)} {params : List String}
    (found : TokenStream.parameters?.names? items = .ok (some (params, behind))) (y : Tally) :
    ∃ ts : List Token, items = ts.map .ok ++ behind ∧
      y.passAll ts = some (y.plus (params.map .name)) := by
  induction params generalizing items y with
  | nil =>
    obtain ⟨name, t, rest, -, -, ⟨-, same, -⟩ | ⟨-, more, same, -⟩⟩ :=
      TokenStream.names?_cases found
    · cases same
    · cases same
  | cons first more ih =>
    obtain ⟨name, t, rest, rfl, isName, last⟩ := TokenStream.names?_cases found
    have atom : y.pass name = some (y.plus [.name name.lexeme]) := by
      rw [Tally.pass_atom (by simp [isName]; rfl), Token.atom, isName]
    rcases last with ⟨close, same, rfl⟩ | ⟨comma, more, same, found⟩
    · obtain ⟨rfl, rfl⟩ := List.cons.inj same
      have mark (z : Tally) : z.pass t = some z := Tally.pass_mark (by simp [close]; rfl) z
      exact ⟨[name, t], rfl, by simp [Tally.passAll, atom, mark]⟩
    · obtain ⟨rfl, rfl⟩ := List.cons.inj same
      have mark (z : Tally) : z.pass t = some z := Tally.pass_mark (by simp [comma]; rfl) z
      obtain ⟨ts, rfl, passed⟩ := ih found (y.plus [.name name.lexeme])
      exact ⟨name :: t :: ts, rfl, by simp [Tally.passAll, atom, mark, passed]⟩

/-- The tokens in front of the arrow of a lambda. -/
theorem lambdaHeader?_passed {s onArrow : TokenStream} {params : List String}
    (found : s.lambdaHeader? = .ok (some (params, onArrow))) (y : Tally) :
    ∃ ts : List Token, s.items = ts.map .ok ++ onArrow.items ∧
      y.passAll ts = some (y.plus (params.map .name)) := by
  obtain ⟨-, ⟨kind, rfl, ahead⟩ | ⟨kind, list⟩⟩ := TokenStream.lambdaHeader?_cases found
  · refine ⟨[s.current], by rw [TokenStream.items, ahead]; rfl, ?_⟩
    have atom : s.current.atom = .name s.current.lexeme := by rw [Token.atom, kind]
    simp [Tally.passAll, Tally.pass_atom (t := s.current) (by simp [kind]; rfl), atom]
  · have mark (z : Tally) : z.pass s.current = some z := Tally.pass_mark (by simp [kind]; rfl) z
    unfold TokenStream.parameters? at list
    split at list
    · cases list
    · rename_i t rest ahead
      split at list
      · rename_i close
        cases list
        have mark' : y.pass t = some y := Tally.pass_mark (by simp [close]; rfl) y
        exact ⟨[s.current, t], by rw [TokenStream.items, ahead]; rfl,
          by simp [Tally.passAll, mark, mark']⟩
      · obtain ⟨ts, items, passed⟩ := names?_passed list y
        exact ⟨s.current :: ts, by rw [TokenStream.items, ahead, items]; rfl,
          by simp [Tally.passAll, mark, passed]⟩
    · cases list

theorem lambda (hp : TalliesTree p) (hq : TalliesTree q) : TalliesTree (Parser.lambda p q) := by
  intro y s e s' _ whole ran
  obtain ⟨found, between, looked, ran⟩ := Parser.of_bind ran
  obtain ⟨looked, rfl⟩ := Parser.of_look looked
  cases found with
  | none => exact hq y between e s' trivial whole ran
  | some found =>
    obtain ⟨params, onArrow⟩ := found
    obtain ⟨ts, items, passed⟩ := lambdaHeader?_passed looked y
    obtain ⟨u, _, first, second⟩ := Parser.of_bind ran
    cases first
    have after : Tallies Anywhere (y.plus (params.map .name)) (Parser.expect .arrow >>= fun _ =>
        p >>= fun body => Pure.pure (Expr.lambda params body))
        fun e after => after = y.plus e.atoms := by
      refine mark_bind rfl (bind (hp _) ?_)
      rintro body _ rfl
      exact pure (by simp [Expr.atoms])
    have there : onArrow.items <:+ between.items := ⟨_, items.symm⟩
    obtain ⟨whole', us, z, items', passed', same⟩ :=
      after onArrow e s' trivial (whole.suffix there) second
    refine ⟨whole', ts ++ us, z, ?_, ?_, same⟩
    · rw [items, items', List.map_append, List.append_assoc]
    · rw [Tally.passAll_append, passed]
      exact passed'

end Levels

/-! ### Levels with a loop -/

theorem atom_of_operator? {level : Level} {t : Token} {op : BinaryOp}
    (found : level.operator? t.kind = some op) :
    t.kind.isStructural = false ∧ t.atom = .operator op.kind := by
  unfold Level.operator? at found
  split at found <;> cases found <;> rename_i kind <;> simp [Token.atom, kind] <;> exact ⟨rfl, rfl⟩

theorem operators {operand : Parser Expr} (h : TalliesTree operand) (level : Level) (budget : Nat)
    (left : Expr) :
    Tallies Anywhere (y.plus left.atoms) (Parser.operators level operand budget left)
      fun e after => after = y.plus e.atoms := by
  induction budget generalizing left with
  | zero => exact exhausted
  | succ budget ih =>
    refine current fun t => ?_
    split
    · rename_i instance'
      have atom : t.atom = .operator .instanceOf := by rw [Token.atom, instance'.2]
      refine advance_atom (by simp [instance'.2]; rfl) (bind (typeName budget) ?_)
      rintro name _ rfl
      have tree := ih (.instanceOf left name)
      simpa [Expr.atoms, atom] using tree
    · split
      · exact pure rfl
      · rename_i op found
        obtain ⟨content, atom⟩ := atom_of_operator? found
        refine advance_atom content (bind (h _) ?_)
        rintro right _ rfl
        have tree := ih (.binary op left right)
        simpa [Expr.atoms, atom] using tree

theorem accesses {whole item : Parser Expr} (hw : TalliesTree whole) (hi : TalliesTree item)
    (budget : Nat) (object : Expr) :
    Tallies Anywhere (y.plus object.atoms) (Parser.accesses whole item budget object)
      fun e after => after = y.plus e.atoms := by
  induction budget generalizing object with
  | zero => exact exhausted
  | succ budget ih =>
    refine current fun t => ?_
    split
    · rename_i dot
      refine advance_mark (by simp [dot]; rfl) (bind identifier ?_)
      rintro name _ ⟨-, rfl⟩
      refine at? (weaken (bind (arguments hi budget) ?_)) ?_
      · rintro args _ rfl
        have tree := ih (.method object name args)
        simpa [Expr.atoms] using tree
      · have tree := ih (.access object (.key name))
        simpa [Expr.atoms] using tree
    · rename_i bracket
      refine advance_mark (by simp [bracket]; rfl) (bind (hw _) ?_)
      rintro key _ rfl
      refine mark_bind rfl ?_
      have tree := ih (.access object key)
      simpa [Expr.atoms] using tree
    · refine weaken (bind (arguments hi budget) ?_)
      rintro args _ rfl
      have tree := ih (.call object args)
      simpa [Expr.atoms] using tree
    · exact pure rfl

/-! ### Primary expressions -/

section Primary

variable {whole item : Parser Expr}

/-- A name without a qualifier. -/
theorem unqualified (hi : TalliesTree item) (budget : Nat) :
    Tallies P y (Parser.unqualified budget item) fun e after => after = y.plus e.atoms := by
  refine bind identifier ?_
  rintro first _ ⟨-, rfl⟩
  refine at? (weaken (bind (arguments hi budget) ?_)) (pure rfl)
  rintro args _ rfl
  exact pure (by simp [Expr.atoms])

theorem name (hi : TalliesTree item) (budget : Nat) :
    Tallies (fun s => s.current.kind = .identifier) y (Parser.name budget item)
      fun e after => after = y.plus e.atoms := by
  intro s e s' kind whole ran
  obtain rest | ⟨colon, suffix, more, s₁, ahead, colonKind, suffixKind, moved, rest⟩ :=
    Parser.of_name kind ran
  · exact unqualified (P := Anywhere) hi budget s e s' trivial whole rest
  · have items : s.items = .ok s.current :: .ok colon :: .ok suffix :: more := by
      rw [TokenStream.items, ahead]
    have behind : TokenStream.Whole ⟨suffix, more⟩ := whole.suffix (by
      rw [items]
      exact (List.suffix_cons _ _).trans (List.suffix_cons _ _))
    have items₁ := behind.advance (by simp [suffixKind]) moved
    have call : Tallies Anywhere (y.plus [.name s.current.lexeme, .name suffix.lexeme])
        (Parser.qualifiedCall s.current.lexeme suffix.lexeme budget item)
        fun e after => after = y.plus e.atoms := by
      refine bind (arguments hi budget) ?_
      rintro args _ rfl
      exact pure (by simp [Expr.atoms])
    obtain ⟨whole', ts, z, items₂, passed, same⟩ :=
      call s₁ e s' trivial (behind.suffix (items₁ ▸ List.suffix_cons _ _)) rest
    have atom : y.pass s.current = some (y.plus [.name s.current.lexeme]) := by
      rw [Tally.pass_atom (by simp [kind]; rfl), Token.atom, kind]
    have mark (z : Tally) : z.pass colon = some z := Tally.pass_mark (by simp [colonKind]; rfl) z
    have atom' (z : Tally) : z.pass suffix = some (z.plus [.name suffix.lexeme]) := by
      rw [Tally.pass_atom (by simp [suffixKind]; rfl), Token.atom, suffixKind]
    refine ⟨whole', s.current :: colon :: suffix :: ts, z, ?_, ?_, same⟩
    · have rest : .ok suffix :: more = .ok suffix :: s₁.items := items₁
      rw [items, rest, items₂]
      rfl
    · simp [Tally.passAll, atom, mark, atom', passed]

theorem mapAfterKey (hi : TalliesTree item) (budget : Nat) (key : Expr) {opened : Nat}
    {before : List Atom} :
    Tallies P ⟨before ++ key.atoms, opened + 1⟩ (Parser.mapAfterKey budget item key)
      fun e after => after = ⟨before ++ e.atoms, opened⟩ := by
  have entry (y : Tally) : Tallies Anywhere y
      (item >>= fun k => Parser.expect .colon >>= fun _ => item >>= fun v => Pure.pure (k, v))
      fun e after => True ∧ after = y.plus (Expr.atomsOfEntry e) := by
    refine bind (hi y) ?_
    rintro k _ rfl
    refine mark_bind rfl (bind (hi _) ?_)
    rintro v _ rfl
    exact pure ⟨trivial, by simp [Expr.atomsOfEntry]⟩
  refine mark_bind rfl (bind (hi _) ?_)
  rintro value _ rfl
  refine bind (itemsAfter Expr.atomsOfEntries rfl entry (by simp [Expr.atomsOfEntries])
    (fun e es => by simp [Expr.atomsOfEntries]) budget) ?_
  rintro more _ ⟨-, rfl⟩
  refine expect_bind (by decide) (fun t same => Tally.pass_closeBrace same _ _) (pure ?_)
  simp [Tally.plus, Expr.atoms, Expr.atomsOfEntries, Expr.atomsOfEntry]

theorem braces (hi : TalliesTree item) (budget : Nat) {opened : Nat} {before : List Atom} :
    Tallies P ⟨before, opened + 1⟩ (Parser.braces budget item)
      fun e after => after = ⟨before ++ e.atoms, opened⟩ := by
  refine at? (advance_kind (by decide) (fun t same => Tally.pass_closeBrace same _ _) (pure ?_)) ?_
  · simp [Expr.atoms, Expr.atomsOfAll]
  · refine bind (hi _) ?_
    rintro first _ rfl
    refine at? (mapAfterKey hi budget first) (bind (treesAfter hi rfl budget) ?_)
    rintro more _ rfl
    refine expect_bind (by decide) (fun t same => Tally.pass_closeBrace same _ _) (pure ?_)
    simp [Tally.plus, Expr.atoms, Expr.atomsOfAll]

theorem primary (hw : TalliesTree whole) (hi : TalliesTree item) (budget : Nat) :
    TalliesTree (Parser.primary budget whole item) := by
  intro y
  refine current fun t => ?_
  split
  · rename_i kind
    exact advance_atom (by simp [kind]; rfl) (pure (by simp [Expr.atoms, Token.atom, kind]))
  · rename_i kind
    refine advance_atom (by simp [kind]; rfl) ?_
    split
    · rename_i e literal
      exact pure (by simp [Expr.atoms_floatLiteral? literal, Token.atom, kind])
    · exact fail _
  · rename_i kind
    exact advance_atom (by simp [kind]; rfl) (pure (by simp [Expr.atoms, Token.atom, kind]))
  · rename_i kind
    exact advance_atom (by simp [kind]; rfl) (pure (by simp [Expr.atoms, Token.atom, kind]))
  · rename_i kind
    exact advance_atom (by simp [kind]; rfl) (pure (by simp [Expr.atoms, Token.atom, kind]))
  · rename_i kind
    intro s e s' same
    refine name hi budget s e s' ?_
    show s.current.kind = .identifier
    rw [same, kind]
  · rename_i kind
    refine advance_mark (by simp [kind]; rfl) (bind identifier ?_)
    rintro name _ ⟨-, rfl⟩
    exact pure (by simp [Expr.atoms])
  · rename_i kind
    refine advance_mark (by simp [kind]; rfl) (bind (hw y) ?_)
    rintro e _ rfl
    exact mark_bind rfl (pure rfl)
  · rename_i kind
    refine advance_mark (by simp [kind]; rfl) (bind (itemsUntil hi rfl budget) ?_)
    rintro es _ rfl
    exact pure (by simp [Expr.atoms])
  · rename_i kind
    exact advance_at (by simp [kind]) (Tally.pass_openBrace kind y) (braces hi budget)
  · exact unexpected _

end Primary

/-! ### The grammar -/

/-- At every level the tokens that are passed are those of the tree. -/
theorem expr (budget : Nat) (level : Level) : TalliesTree (Parser.expr budget level) := by
  induction budget generalizing level with
  | zero => exact fun _ => exhausted
  | succ budget ih =>
    have loop (level operand : Level) : TalliesTree (Parser.expr budget operand >>=
        fun left => Parser.operators level (Parser.expr budget operand) budget left) := by
      intro y
      refine bind (ih operand y) ?_
      rintro left _ rfl
      exact operators (ih operand) level budget left
    cases level with
    | sequence => exact sequence (ih _) budget
    | assignment => exact assignment (ih _) (ih _)
    | lambda => exact lambda (ih _) (ih _)
    | conditional => exact conditional (ih _) (ih _)
    | unary => exact unary (ih _) (ih _)
    | access =>
      intro y
      refine bind (ih _ y) ?_
      rintro object _ rfl
      exact accesses (ih _) (ih _) budget object
    | primary => exact primary (ih _) (ih _) budget
    | _ => exact loop _ _

end Tallies

/-! ### Whole texts -/

/-- What the parser passes in reading an expression from a stream. -/
theorem tokens_of_expr {s s' : TokenStream} {budget : Nat} {level : Level} {e : Expr}
    (whole : s.Whole) (read : Parser.expr budget level s = .ok (e, s')) :
    s'.Whole ∧ ∃ ts : List Token, s.items = ts.map .ok ++ s'.items ∧
      Tally.start.passAll ts = some (Tally.start.plus e.atoms) := by
  obtain ⟨whole', ts, after, items, passed, rfl⟩ :=
    Tallies.expr budget level Tally.start s e s' trivial whole read
  exact ⟨whole', ts, items, passed⟩

theorem Parser.standalone_iff {s : TokenStream} {e : Expr} :
    (∃ s', Parser.standalone s = .ok (e, s')) ↔
      ∃ s₁ s₂, Parser.expr (Parser.budgetFor s) .sequence s = .ok (e, s₁) ∧
        s₁.current.kind = .endOfText ∧ s₁.advance = .ok s₂ := by
  rw [Parser.standalone_eq]
  constructor
  · rintro ⟨s', ran⟩
    obtain ⟨e', s₁, read, ran⟩ := Parser.of_bind ran
    obtain ⟨_, _, behind, ran⟩ := Parser.of_bind ran
    cases ran
    exact ⟨s₁, _, read, Parser.of_expect behind⟩
  · rintro ⟨s₁, s₂, read, final, moved⟩
    exact ⟨s₂, (Parser.bind_ok read).trans (Parser.bind_ok (Parser.expect_ok final moved))⟩

/-- The run of the parser over a text that is an expression, up to a stream `z` at the end. -/
theorem run_of_parse {source : String} {e : Expr} (parsed : Expr.parse source = .ok e) :
    ∃ (s z : TokenStream) (ts : List Token),
      Parser.expr (Parser.budgetFor s) .sequence s = .ok (e, z) ∧ z.current.kind = .endOfText ∧
      s.items = ts.map .ok ++ z.items ∧
      (Lexer.ofExpression source).items = (ts ++ [z.current]).map .ok ∧
      Tally.start.passAll ts = some (Tally.start.plus e.atoms) := by
  obtain ⟨s, s', stream, ran⟩ := stream_of_parseAll parsed
  obtain ⟨whole, items⟩ := TokenStream.whole_ofLexer rfl stream
  obtain ⟨z, -, read, final, -⟩ := Parser.standalone_iff.mp ⟨s', ran⟩
  obtain ⟨whole', ts, own, passed⟩ := tokens_of_expr whole read
  have last : z.items = [.ok z.current] := by
    rw [TokenStream.items, whole'.ended.head.mp final]
  refine ⟨s, z, ts, read, final, own, ?_, passed⟩
  rw [← items, own, last, List.map_append]
  rfl

/-- A text that is parsed as an expression is read to its end without an error, and without the
punctuation its tokens are, one by one, the literals, names and operators of the expression. -/
theorem tokens_of_parse {source : String} {e : Expr} (parsed : Expr.parse source = .ok e) :
    ∃ (ts : List Token) (last : Token),
      (Lexer.ofExpression source).items = (ts ++ [last]).map .ok ∧ last.kind = .endOfText ∧
      (ts ++ [last]).filterMap Token.atom? = e.atoms := by
  obtain ⟨s, z, ts, -, final, -, items, passed⟩ := run_of_parse parsed
  have structural : z.current.atom? = none := by simp [Token.atom?, final, TokenKind.isStructural]
  have atoms : e.atoms = ts.filterMap Token.atom? := Tally.atoms_passAll passed
  refine ⟨ts, z.current, items, final, ?_⟩
  rw [atoms, List.filterMap_append, List.filterMap_cons_none structural]
  exact List.append_nil _

/-- The tokens of a text in which most of the punctuation occurs. -/
theorem tokens_of_parse_nested :
    let source := "x -> x . f ( - 1 ) [ a - b - ( c - d ) ] ; " ++
      "z = ( g ) ( 'it\\'s' , \x7b p instanceof m . n : fn:true ( ) \x7d )"
    Expr.parse source = .ok Expr.nested ∧ ∃ (ts : List Token) (last : Token),
      (Lexer.ofExpression source).items = (ts ++ [last]).map .ok ∧ last.kind = .endOfText ∧
      (ts ++ [last]).filterMap Token.atom? =
        [.name "x", .name "x", .name "f", .operator .minus, .integer 1, .name "a", .operator .minus,
          .name "b", .operator .minus, .name "c", .operator .minus, .name "d", .name "z", .name "g",
          .string "it's", .name "p", .operator .instanceOf, .name "m", .name "n", .name "fn",
          .name "true"] := by
  intro source
  have text : Expr.nested.print true = source := by
    decide
  have parsed : Expr.parse source = .ok Expr.nested := by
    rw [← text]
    exact Expr.wellFormed_nested.parse_print true
  obtain ⟨ts, last, items, final, atoms⟩ := tokens_of_parse parsed
  exact ⟨parsed, ts, last, items, final, atoms.trans (by decide)⟩

end ExprLang
