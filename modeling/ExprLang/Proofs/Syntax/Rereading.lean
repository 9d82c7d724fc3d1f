import ExprLang.Proofs.Syntax.Closing
import ExprLang.Proofs.Syntax.Places

/-!
# Reading a token again

A token is read again from its own characters, if a gap follows them in place of what followed before
(`reread_fresh`). A number takes no more and no less than its parts, a symbol is not made longer by a
gap, and a word is a qualifier again if the name of a function still follows it. A string can be
written in quotes of either kind.
-/

namespace ExprLang

open Text

/-- A token as it can be written: strings in quotes, and all other tokens by their lexemes. -/
def Token.written (quote : Char) (t : Token) : List Char :=
  if t.kind = .string then quote :: (Lexeme.escape t.lexeme.toList ++ [quote]) else t.lexeme.toList

theorem Token.written_of_plain {quote : Char} {t : Token}
    (plain : t.kind ∉ [.literalText, .string]) : t.written quote = t.lexeme.toList :=
  if_neg fun string => plain (by simp [string])

theorem Token.written_of_shown {quote : Char} {t : Token} {kind : TokenKind} {lexeme : String}
    (shown : t.shown = (kind, lexeme)) (plain : kind ∉ [.literalText, .string]) :
    t.written quote = lexeme.toList := by
  cases shown
  exact written_of_plain plain

namespace Lexer

/-! ### Numbers -/

/-- A point and digits, or nothing. -/
inductive IsFraction : List Char → Prop where
  | none : IsFraction []
  | point {digits : List Char} : (∀ d ∈ digits, isDigit d = true) → IsFraction ('.' :: digits)

/-- A mark, perhaps a sign, and digits, or nothing. -/
inductive IsExponent : List Char → Prop where
  | none : IsExponent []
  | mark {c : Char} {sign digits : List Char} : c = 'e' ∨ c = 'E' →
      sign = [] ∨ sign = ['+'] ∨ sign = ['-'] → digits ≠ [] → (∀ d ∈ digits, isDigit d = true) →
      IsExponent (c :: (sign ++ digits))

/-- The number at the front of a text, with its parts and what is left. -/
structure NumberAt (cs whole point power behind : List Char) : Prop where
  text : cs = whole ++ (point ++ (power ++ behind))
  whole : cs.takeWhile isDigit = whole
  point : fraction (point ++ (power ++ behind)) = point
  power : exponent (power ++ behind) = power

theorem forall_mem_takeWhile (cs : List Char) : ∀ d ∈ cs.takeWhile isDigit, isDigit d = true :=
  List.all_eq_true.mp List.all_takeWhile

theorem isFraction_fraction (cs : List Char) : IsFraction (fraction cs) := by
  unfold fraction
  split
  · exact .point (forall_mem_takeWhile _)
  · exact .none

theorem isExponent_exponent (cs : List Char) : IsExponent (exponent cs) := by
  have signs (cs : List Char) : sign cs = [] ∨ sign cs = ['+'] ∨ sign cs = ['-'] := by
    unfold sign
    split <;> simp
  cases cs with
  | nil => exact .none
  | cons c cs =>
    rw [exponent]
    split
    · rename_i complete
      simp only [Bool.and_eq_true, Bool.or_eq_true, beq_iff_eq, Bool.not_eq_true',
        List.isEmpty_eq_false_iff] at complete
      exact .mark complete.1 (signs cs) complete.2 (forall_mem_takeWhile _)
    · exact .none

theorem exists_numberAt (cs : List Char) :
    ∃ whole point power behind, NumberAt cs whole point power behind := by
  have text : cs = cs.takeWhile isDigit ++ cs.dropWhile isDigit :=
    List.takeWhile_append_dropWhile.symm
  obtain ⟨rest, fractionText⟩ := fraction_isPrefix (cs.dropWhile isDigit)
  obtain ⟨behind, exponentText⟩ := exponent_isPrefix rest
  refine ⟨cs.takeWhile isDigit, fraction (cs.dropWhile isDigit), exponent rest, behind, ?_, rfl, ?_, ?_⟩
  · rw [exponentText, fractionText]
    exact text
  · rw [exponentText, fractionText]
  · rw [exponentText]

theorem NumberAt.nextNumber {l : Lexer} {whole point power behind : List Char}
    (h : NumberAt l.rest whole point power behind) :
    l.nextNumber =
      (⟨if point.isEmpty && power.isEmpty then .integer else .float,
        String.ofList (whole ++ (point ++ power)), l.position⟩,
        l.skip (whole ++ (point ++ power)).length) := by
  have behindWhole : l.rest.drop whole.length = point ++ (power ++ behind) := by
    rw [h.text, List.drop_left]
  have behindPoint : l.rest.drop (whole.length + point.length) = power ++ behind := by
    rw [← List.drop_drop, behindWhole, List.drop_left]
  have taken : l.rest.take (whole.length + point.length + power.length) =
      whole ++ (point ++ power) := by
    have text : l.rest = (whole ++ (point ++ power)) ++ behind := by
      rw [h.text]
      simp
    rw [text, List.take_left' (by simp [Nat.add_assoc])]
  unfold Lexer.nextNumber
  simp only [h.whole, behindWhole, h.point, behindPoint, h.power, taken]
  simp [Nat.add_assoc]

/-- What comes behind a number is no part of one. -/
theorem IsExponent.takeWhile_append {power tail : List Char} (h : IsExponent power)
    (gap : AtGap tail) : (power ++ tail).takeWhile isDigit = [] := by
  cases h with
  | none => exact takeWhile_gap (by decide) gap
  | mark mark =>
    rcases mark with rfl | rfl <;> rfl

/-- A complete exponent is read again. -/
theorem IsExponent.again {power tail : List Char} (h : IsExponent power) (gap : AtGap tail) :
    exponent (power ++ tail) = power := by
  cases h with
  | none => obtain rfl | ⟨cs, rfl⟩ := gap.eq_nil_or_cons <;> rfl
  | @mark c signs digits mark oneSign some all =>
    have noSign : sign (digits ++ tail) = [] := by
      obtain ⟨d, ds, rfl⟩ := List.exists_cons_of_ne_nil some
      have digit : isDigit d = true := all d List.mem_cons_self
      unfold sign
      split
      · rename_i same
        cases same
        cases digit
      · rename_i same
        cases same
        cases digit
      · rfl
    have signed : sign (signs ++ (digits ++ tail)) = signs := by
      rcases oneSign with rfl | rfl | rfl
      · exact noSign
      · rfl
      · rfl
    have taken : (digits ++ tail).takeWhile isDigit = digits :=
      takeWhile_append_atGap all (by decide) gap
    rw [List.cons_append, List.append_assoc, exponent, signed, List.drop_left, taken]
    have complete : ((c == 'e' || c == 'E') && !digits.isEmpty) = true := by
      rcases mark with rfl | rfl <;> simpa using some
    exact if_pos complete

theorem IsFraction.again {point behind : List Char} (h : IsFraction point)
    (stop : behind.takeWhile isDigit = []) (noPoint : ∀ cs, behind ≠ '.' :: cs) :
    fraction (point ++ behind) = point := by
  cases h with
  | none =>
    rw [List.nil_append, fraction]
    exact noPoint
  | @point digits all =>
    rw [List.cons_append, fraction, List.takeWhile_append_of_pos all, stop, List.append_nil]

/-- A number with a gap behind it has the same parts as before. -/
theorem NumberAt.again {cs whole point power behind tail : List Char}
    (h : NumberAt cs whole point power behind) (gap : AtGap tail) :
    NumberAt (whole ++ (point ++ (power ++ tail))) whole point power tail := by
  have isPower : IsExponent power := h.power ▸ isExponent_exponent _
  have isPoint : IsFraction point := h.point ▸ isFraction_fraction _
  have stop : (power ++ tail).takeWhile isDigit = [] := isPower.takeWhile_append gap
  have digits : ∀ d ∈ whole, isDigit d = true := h.whole ▸ forall_mem_takeWhile cs
  refine ⟨rfl, ?_, ?_, isPower.again gap⟩
  · rw [List.takeWhile_append_of_pos digits]
    cases isPoint with
    | none => rw [List.nil_append, stop, List.append_nil]
    | point => exact List.append_nil whole
  · refine isPoint.again stop fun cs same => ?_
    cases isPower with
    | none =>
      obtain rfl | ⟨ds, rfl⟩ := gap.eq_nil_or_cons <;> cases same
    | mark mark =>
      rcases mark with rfl | rfl <;> cases same

/-! ### One token of each class -/

/-- In an expression there is no literal text, and only one class has strings. -/
theorem plain_of_mem_kinds {cls : TokenClass} {kind : TokenKind} (mem : kind ∈ cls.kinds)
    (notString : cls ≠ .string) : kind ∉ [.literalText, .string] := by
  revert kind
  cases cls with
  | string => exact absurd rfl notString
  | _ => decide

theorem plain_or_string_of_mem_kinds {cls : TokenClass} {kind : TokenKind}
    (mem : kind ∈ cls.kinds) : kind ∉ [.literalText, .string] ∨ kind = .string := by
  cases cls with
  | string => exact .inr (List.mem_singleton.mp mem)
  | _ => exact .inl (plain_of_mem_kinds mem (by simp))

/-- The lexer reads a token that shows the same, with `tail` left, and with a suffix pending or not. -/
def Rereads (m : Lexer) (t : Token) (tail : List Char) (pending : Bool) : Prop :=
  ∃ (t' : Token) (m' : Lexer), m.nextToken = (.ok t', m') ∧ t'.shown = t.shown ∧ m'.rest = tail ∧
    m'.suffixPending = pending

theorem classOf_number_iff {c : Char} {next : Option Char} :
    classOf c next = .number ↔ isDigit c = true ∨ c = '.' ∧ next.any isDigit = true := by
  constructor
  · intro number
    cases Begins.of_classOf number with
    | number digit => exact digit
  · rintro (digit | ⟨rfl, digit⟩)
    · have notBrace : c ≠ '{' ∧ c ≠ '}' :=
        ⟨ne_of_test digit (by decide), ne_of_test digit (by decide)⟩
      have notQuote : c ≠ '\'' ∧ c ≠ '"' :=
        ⟨ne_of_test digit (by decide), ne_of_test digit (by decide)⟩
      simp [classOf, notBrace, notQuote, digit]
    · simp [classOf, digit]

/-- The characters of a number begin one, whatever comes behind them. -/
theorem NumberAt.starts {c : Char} {cs whole point power behind : List Char}
    (h : NumberAt (c :: cs) whole point power behind) (number : classOf c cs.head? = .number)
    (tail : List Char) :
    ∃ ds, whole ++ (point ++ (power ++ tail)) = c :: ds ∧ classOf c ds.head? = .number := by
  rw [classOf_number_iff] at number
  rcases number with digit | ⟨rfl, digit⟩
  · have first : c :: cs.takeWhile isDigit = whole := by
      rw [← h.whole, List.takeWhile_cons_of_pos digit]
    exact ⟨_, congrArg (· ++ _) first.symm, classOf_number_iff.mpr (.inl digit)⟩
  · obtain ⟨d, digits, rfl⟩ : ∃ d digits, cs = d :: digits := by
      cases cs with
      | nil => cases digit
      | cons d digits => exact ⟨d, digits, rfl⟩
    have isDigit' : isDigit d = true := digit
    have none : whole = [] := h.whole.symm
    have first : '.' :: d :: digits.takeWhile isDigit = point := by
      have text : '.' :: d :: digits = point ++ (power ++ behind) := by
        rw [h.text, none, List.nil_append]
      rw [← h.point, ← text, fraction, List.takeWhile_cons_of_pos isDigit']
    refine ⟨d :: (digits.takeWhile isDigit ++ (power ++ tail)), ?_,
      classOf_number_iff.mpr (.inr ⟨rfl, digit⟩)⟩
    rw [none, ← first]
    rfl

/-- A symbol is one character long, whether a space or nothing follows, or two. -/
theorem symbolAt_cases (c : Char) (next : Option Char) :
    (symbolAt c next).2 = 1 ∧ symbolAt c none = symbolAt c next ∧
        symbolAt c (some ' ') = symbolAt c next ∨
      (symbolAt c next).2 = 2 ∧ ∃ d, next = some d := by
  generalize read : symbolAt c next = symbol
  unfold symbolAt at read
  split at read
  -- a character that begins no symbol in front of one character begins none in front of another
  case h_28 =>
    subst read
    refine .inl ⟨rfl, ?_, ?_⟩ <;> unfold symbolAt <;> split <;> simp_all
  all_goals
    subst read
    first
    | exact .inl ⟨rfl, rfl, rfl⟩
    | exact .inr ⟨rfl, _, rfl⟩

/-- What begins a symbol begins one in front of everything but a digit. -/
theorem classOf_symbol {c : Char} {next next' : Option Char} (symbol : classOf c next = .symbol)
    (noDigit : next'.any isDigit = false) : classOf c next' = .symbol := by
  cases Begins.of_classOf symbol with
  | symbol start =>
    simp only [isSymbolStart, Bool.and_eq_true, bne_iff_ne, Bool.not_eq_true'] at start
    simp [classOf, start, noDigit]

section Again

variable {l m : Lexer} {c : Char} {cs tail : List Char}

/-- A symbol is read again if it is taken to be as long as before. -/
theorem reread_symbol_of_same {ds : List Char} (rest' : m.rest = c :: ds)
    (symbol : classOf c ds.head? = .symbol) (same : symbolAt c ds.head? = symbolAt c cs.head?)
    (taken : m.rest = l.rest.take (symbolAt c cs.head?).2 ++ tail)
    (long : (symbolAt c cs.head?).2 ≤ l.rest.length) :
    Rereads m (l.nextSymbol c cs).1 tail m.suffixPending := by
  have read : m.nextToken = (.ok (m.nextSymbol c ds).1, (m.nextSymbol c ds).2) := by
    rw [nextToken_eq rest', symbol]
    rfl
  have width : (l.rest.take (symbolAt c cs.head?).2).length = (symbolAt c cs.head?).2 :=
    List.length_take_of_le long
  refine ⟨_, _, read, ?_, ?_, rfl⟩
  · have chars : m.rest.take (symbolAt c cs.head?).2 = l.rest.take (symbolAt c cs.head?).2 := by
      rw [taken, List.take_left' width]
    simp only [nextSymbol, Token.shown, same, chars]
  · simp only [nextSymbol, same, rest_skip, taken, List.drop_left' width]

variable (rest : l.rest = c :: cs)
include rest

theorem reread_number (number : classOf c cs.head? = .number)
    (text : m.rest = l.nextNumber.1.lexeme.toList ++ tail) (gap : AtGap tail) :
    Rereads m l.nextNumber.1 tail m.suffixPending := by
  obtain ⟨whole, point, power, behind, parts⟩ := exists_numberAt l.rest
  rw [parts.nextNumber] at text ⊢
  rw [String.toList_ofList] at text
  have again : NumberAt m.rest whole point power tail := by
    rw [text, List.append_assoc, List.append_assoc]
    exact parts.again gap
  obtain ⟨ds, start, number'⟩ := (rest ▸ parts).starts number tail
  have rest' : m.rest = c :: ds := again.text.trans start
  have read : m.nextToken = (.ok m.nextNumber.1, m.nextNumber.2) := by
    rw [nextToken_eq rest', number']
    rfl
  rw [again.nextNumber] at read
  refine ⟨_, _, read, rfl, ?_, rfl⟩
  rw [rest_skip, text, List.drop_left]

theorem reread_symbol (symbol : classOf c cs.head? = .symbol)
    (text : m.rest = (l.nextSymbol c cs).1.lexeme.toList ++ tail) (gap : AtGap tail) :
    Rereads m (l.nextSymbol c cs).1 tail m.suffixPending := by
  unfold nextSymbol at text
  dsimp only at text
  rw [String.toList_ofList] at text
  have long : (symbolAt c cs.head?).2 ≤ l.rest.length := by
    rw [rest]
    exact symbolAt_width_le cs c
  obtain ⟨width, atEnd, atSpace⟩ | ⟨width, d, next⟩ := symbolAt_cases c cs.head?
  · have rest' : m.rest = c :: tail := by
      rw [text, width, rest]
      rfl
    obtain rfl | ⟨ds, rfl⟩ := gap.eq_nil_or_cons
    · exact reread_symbol_of_same rest' (classOf_symbol symbol rfl) atEnd text long
    · exact reread_symbol_of_same rest' (classOf_symbol symbol rfl) atSpace text long
  · obtain ⟨ds, rfl⟩ := List.head?_eq_some_iff.mp next
    have rest' : m.rest = c :: d :: tail := by
      rw [text, width, rest]
      rfl
    exact reread_symbol_of_same rest' symbol rfl text long

/-- A word is reserved again, or a name, or a qualifier if the name of a function follows it as
before. -/
theorem reread_word (word : classOf c cs.head? = .word) (fresh : l.suffixPending = false)
    (fresh' : m.suffixPending = false) (text : m.rest = l.nextWord.1.lexeme.toList ++ tail)
    (gap : l.nextWord.2.suffixPending = false → AtGap tail)
    (suffix : l.nextWord.2.suffixPending = true → startsSuffix tail = true) :
    Rereads m l.nextWord.1 tail l.nextWord.2.suffixPending := by
  have isWord : IsWord (String.ofList (l.rest.takeWhile isWordPart)) := by
    rw [rest]
    exact isWord_takeWhile (isWordStart_of_classOf word)
  unfold nextWord at text gap suffix ⊢
  rw [fresh] at text gap suffix ⊢
  dsimp only at text gap suffix ⊢
  rw [if_neg Bool.false_ne_true] at text gap suffix ⊢
  split at text
  · rename_i starts
    rw [if_pos starts] at suffix ⊢
    refine ⟨_, _, nextToken_qualifier isWord text (suffix rfl) fresh', rfl, ?_, rfl⟩
    simp [text]
  · rename_i starts
    rw [if_neg starts] at gap ⊢
    refine ⟨_, _, nextToken_word_atGap isWord text (gap fresh) fresh', rfl, ?_, ?_⟩
    · simp [text]
    · exact fresh'.trans fresh.symm

/-- A token is read again from its characters, with a gap or the name of a function behind it. -/
theorem reread_fresh {t : Token} {quote : Char} (isQuote : quote = '\'' ∨ quote = '"')
    (fresh : l.suffixPending = false) (fresh' : m.suffixPending = false)
    (read : l.nextToken.1 = .ok t) (text : m.rest = t.written quote ++ tail)
    (gap : l.nextToken.2.suffixPending = false → AtGap tail)
    (suffix : l.nextToken.2.suffixPending = true → startsSuffix tail = true) :
    Rereads m t tail l.nextToken.2.suffixPending := by
  rw [nextToken_eq rest] at read gap suffix ⊢
  cases kind : classOf c cs.head? with
  | openBrace =>
    rw [kind] at read
    cases read
    have text' : m.rest = '{' :: tail := by
      rw [text, Token.written_of_plain (by simp)]
      simp [TokenKind.image]
    refine ⟨_, _, nextToken_openBrace text', rfl, ?_, fresh'.trans fresh.symm⟩
    rw [rest_push, rest_skip, text']
    rfl
  | closeBrace =>
    rw [kind] at read
    cases read
    have text' : m.rest = '}' :: tail := by
      rw [text, Token.written_of_plain (by simp)]
      simp [TokenKind.image]
    refine ⟨_, _, nextToken_closeBrace text', rfl, ?_, fresh'.trans fresh.symm⟩
    rw [rest_pop, rest_skip, text']
    rfl
  | string =>
    rw [kind] at read
    unfold nextOf nextString at read ⊢
    dsimp only at read ⊢
    split at read
    · cases read
      rw [Token.written, if_pos rfl, List.cons_append, List.append_assoc] at text
      refine ⟨_, _, nextToken_string isQuote text, rfl, ?_, fresh'.trans fresh.symm⟩
      simp [text]
    · cases read
    · cases read
  | number =>
    rw [kind] at read gap
    cases read
    rw [Token.written_of_plain (plain_of_mem_kinds (kind_nextNumber l) (by simp))] at text
    have again := reread_number rest kind text (gap fresh)
    rwa [fresh'.trans fresh.symm] at again
  | word =>
    rw [kind] at read gap suffix
    cases read
    rw [Token.written_of_plain (plain_of_mem_kinds (kind_nextWord l) (by simp))] at text
    exact reread_word rest kind fresh fresh' text gap suffix
  | symbol =>
    rw [kind] at read gap
    cases read
    rw [Token.written_of_plain (plain_of_mem_kinds (kind_symbolAt c cs.head?) (by simp))] at text
    have again := reread_symbol rest kind text (gap fresh)
    rwa [fresh'.trans fresh.symm] at again

end Again

/-- What has to come behind the characters of a token, by the lexer behind it: a gap, or what is left
of a qualified name. -/
structure Suits (next : Lexer) (tail : List Char) : Prop where
  gap : next.suffixPending = false → AtGap tail
  colon : next.AtColon → startsSuffix tail = true
  suffix : next.AtSuffix → ∃ c cs, tail = c :: cs ∧ isWordStart c = true

/-- A token is read again wherever it stands. -/
theorem reread {l m : Lexer} {t : Token} {quote : Char} {tail : List Char}
    (isQuote : quote = '\'' ∨ quote = '"') (awaits : l.Awaits) (inside : l.mode ≠ .text)
    (pending : m.suffixPending = l.suffixPending) (read : l.next.1 = .ok t)
    (notEnd : t.kind ≠ .endOfText) (text : m.rest = t.written quote ++ tail)
    (suits : l.next.2.Suits tail) : Rereads m t tail l.next.2.suffixPending := by
  have fresh (fresh : l.suffixPending = false)
      (suffix : l.next.2.suffixPending = true → l.next.2.AtColon) :
      Rereads m t tail l.next.2.suffixPending := by
    have more : l.skipGap.rest ≠ [] := mt (skipGap_eq_nil_iff inside read).mp notEnd
    obtain ⟨c, cs, rest⟩ := List.exists_cons_of_ne_nil more
    rw [next_inside inside] at read suffix suits ⊢
    exact reread_fresh rest isQuote fresh (pending.trans fresh) read text suits.gap
      fun starts => suits.colon (suffix starts)
  cases follows_next awaits read with
  | other here behind => exact fresh here fun starts => by simp [behind] at starts
  | name here behind => exact fresh here fun starts => by simp [behind] at starts
  | qualifier here behind => exact fresh here fun _ => behind
  | colon here behind shown =>
    obtain ⟨c, cs, rfl, start⟩ := suits.suffix behind
    have text' : m.rest = ':' :: c :: cs := by
      rw [text, Token.written_of_shown shown (by simp)]
      simp [TokenKind.image]
    refine ⟨_, _, nextToken_colon text' start, shown.symm, ?_, ?_⟩
    · rw [rest_skip, text']
      rfl
    · exact (pending.trans here.pending).trans behind.pending.symm
  | suffix here behind kind word =>
    rw [Token.written_of_plain (by simp [kind])] at text
    have pending' : m.suffixPending = true := pending.trans here.pending
    refine ⟨_, _, nextToken_suffix word text (suits.gap behind) pending', ?_, ?_, behind.symm⟩
    · exact congrArg (·, t.lexeme) kind.symm
    · simp [text]

/-- What is written of a token does not begin with a gap. -/
theorem written_starts {l : Lexer} {t : Token} {quote : Char} (isQuote : quote = '\'' ∨ quote = '"')
    (inside : l.mode ≠ .text) (read : l.next.1 = .ok t) (notEnd : t.kind ≠ .endOfText) :
    ∃ c cs, t.written quote = c :: cs ∧ isGap c = false := by
  have more : l.skipGap.rest ≠ [] := mt (skipGap_eq_nil_iff inside read).mp notEnd
  obtain ⟨c, cs, rest⟩ := List.exists_cons_of_ne_nil more
  have noGap : isGap c = false := by
    have head := List.head?_dropWhile_not isGap l.rest
    rw [← rest_skipGap_eq_dropWhile, rest] at head
    simpa using head
  have same := next_skipGap inside
  have shorter := length_next_lt ((congrArg Prod.fst same).trans read) notEnd
  rw [same, next_inside inside] at shorter
  rw [next_inside inside] at read
  have mem := kind_of_nextOf l.skipGap c ((congrArg Prod.fst (nextToken_eq rest)).symm.trans read)
  rcases plain_or_string_of_mem_kinds mem with plain | string
  · obtain ⟨span, reads⟩ := exists_readsFrom_nextToken read
    have text := reads.passes.rest
    rw [Token.written_of_plain plain, reads.lexeme plain]
    cases span with
    | nil =>
      rw [text, List.nil_append] at shorter
      exact absurd shorter (Nat.lt_irrefl _)
    | cons d span =>
      rw [rest] at text
      cases text
      exact ⟨c, span, rfl, noGap⟩
  · refine ⟨quote, _, by rw [Token.written, if_pos string], ?_⟩
    rcases isQuote with rfl | rfl <;> rfl

end Lexer

end ExprLang
