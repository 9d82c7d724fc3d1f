import ExprLang.Proofs.Syntax.Places

/-!
# String literals

The text behind an opening quote begins with a part that may stand between quotes (`StringBody`), and
goes on in one of four ways that no such part can begin with (`StringStop`). The way it goes on is what
the literal comes to. **Key theorem**: `strings_read_exactly`.
-/

namespace ExprLang

/-- The characters that may stand behind a backslash. -/
def escapable : List Char :=
  ['\\', '\'', '"']

/-- What may stand between two quotes, and the text that it means. A character other than the quote and
the backslash means itself, and so does one of the escapable characters behind a backslash. -/
inductive StringBody (quote : Char) : List Char → List Char → Prop where
  | nil : StringBody quote [] []
  | plain {c : Char} {us cs : List Char} : c ≠ quote → c ≠ '\\' →
      StringBody quote us cs → StringBody quote (c :: us) (c :: cs)
  | escape {c : Char} {us cs : List Char} : c ∈ escapable →
      StringBody quote us cs → StringBody quote ('\\' :: c :: us) (c :: cs)

namespace Lexer

theorem isEscapable_iff {c : Char} : isEscapable c = true ↔ c ∈ escapable := by
  simp [isEscapable, escapable, or_assoc]

/-- How a text goes on where no more of it may stand between the quotes, and what is read there. -/
inductive StringStop (quote : Char) : List Char → StringScan → Prop where
  | closes (behind : List Char) : StringStop quote (quote :: behind) (.closed [] 1)
  | escapes {c : Char} (behind : List Char) : c ∉ escapable →
      StringStop quote ('\\' :: c :: behind) (.badEscape c 1)
  | ends : StringStop quote [] (.unterminated 0)
  | endsInEscape : StringStop quote ['\\'] (.unterminated 1)

/-- The outcome when `n` more characters, which mean `cs`, come first. -/
def StringScan.behind (cs : List Char) (n : Nat) : StringScan → StringScan
  | closed text width => closed (cs ++ text) (n + width)
  | badEscape ch width => badEscape ch (n + width)
  | unterminated width => unterminated (n + width)

section Scan

variable {quote : Char} (isQuote : quote = '\'' ∨ quote = '"')
include isQuote

theorem ne_backslash_of_quote : '\\' ≠ quote := by
  rcases isQuote with rfl | rfl <;> decide

/-- Where a body comes first, what is behind it decides. -/
theorem scanString_body {us cs : List Char} (body : StringBody quote us cs) (tail : List Char) :
    scanString quote (us ++ tail) = (scanString quote tail).behind cs us.length := by
  induction body with
  | nil =>
    rw [List.nil_append]
    cases scanString quote tail <;> simp [StringScan.behind]
  | plain notQuote notBackslash _ ih =>
    rw [List.cons_append, scanString_plain _ notQuote notBackslash, ih]
    cases scanString quote tail <;>
      simp [StringScan.behind, StringScan.after, Nat.add_right_comm]
  | escape allowed _ ih =>
    have notQuote := ne_backslash_of_quote isQuote
    rw [List.cons_append, List.cons_append,
      scanString_escaped _ notQuote (isEscapable_iff.mpr allowed), ih]
    cases scanString quote tail <;>
      simp [StringScan.behind, StringScan.after, Nat.add_right_comm]

theorem scanString_stop {tail : List Char} {scan : StringScan} (stop : StringStop quote tail scan) :
    scanString quote tail = scan := by
  have notQuote := ne_backslash_of_quote isQuote
  cases stop with
  | closes behind => exact scanString_quote behind
  | @escapes c behind refused =>
    have other : isEscapable c = false := by simpa using mt isEscapable_iff.mp refused
    simp [scanString, notQuote, other]
  | ends => rfl
  | endsInEscape => simp [scanString, notQuote]

omit isQuote in
/-- Every text is a body and one of the ways to go on behind it. -/
theorem exists_body (quote : Char) (w : List Char) :
    ∃ us cs tail scan, w = us ++ tail ∧ StringBody quote us cs ∧ StringStop quote tail scan := by
  induction w using scanString.induct quote with
  | case1 => exact ⟨[], [], _, _, rfl, .nil, .ends⟩
  | case2 behind => exact ⟨[], [], _, _, rfl, .nil, .closes behind⟩
  | case3 => exact ⟨[], [], _, _, rfl, .nil, .endsInEscape⟩
  | case4 c w allowed _ ih =>
    obtain ⟨us, cs, tail, scan, rfl, body, stop⟩ := ih
    exact ⟨_, _, tail, scan, rfl, .escape (isEscapable_iff.mp allowed) body, stop⟩
  | case5 c w refused _ =>
    have refused : c ∉ escapable := mt isEscapable_iff.mpr refused
    exact ⟨[], [], _, _, rfl, .nil, .escapes w refused⟩
  | case6 c w notQuote notBackslash ih =>
    obtain ⟨us, cs, tail, scan, rfl, body, stop⟩ := ih
    exact ⟨_, _, tail, scan, rfl, .plain notQuote notBackslash body, stop⟩

variable (w : List Char)

theorem scanString_eq_closed_iff {text : List Char} {n : Nat} :
    scanString quote w = .closed text n ↔
      ∃ us behind, StringBody quote us text ∧ w = us ++ quote :: behind ∧ n = us.length + 1 := by
  constructor
  · intro closed
    obtain ⟨us, cs, tail, scan, rfl, body, stop⟩ := exists_body quote w
    rw [scanString_body isQuote body, scanString_stop isQuote stop] at closed
    cases stop with
    | closes behind =>
      cases closed
      exact ⟨us, behind, by simpa using body, rfl, rfl⟩
    | _ => cases closed
  · rintro ⟨us, behind, body, rfl, rfl⟩
    rw [scanString_body isQuote body, scanString_quote]
    simp [StringScan.behind]

/-- The characters up to the closing quote are a body and that quote. -/
theorem scanString_closed_of_isPrefix_iff {text p : List Char} (there : p <+: w) :
    scanString quote w = .closed text p.length ↔ ∃ us, StringBody quote us text ∧ p = us ++ [quote] := by
  rw [scanString_eq_closed_iff isQuote]
  constructor
  · rintro ⟨us, behind, body, rfl, length⟩
    have closed : us ++ [quote] <+: us ++ quote :: behind := ⟨behind, by simp⟩
    have same : p.length = (us ++ [quote]).length := by simp [length]
    exact ⟨us, body, (List.prefix_of_prefix_length_le there closed (Nat.le_of_eq same)).eq_of_length same⟩
  · rintro ⟨us, body, rfl⟩
    obtain ⟨behind, rfl⟩ := there
    exact ⟨us, behind, body, by simp, by simp⟩

theorem scanString_eq_badEscape_iff {c : Char} {n : Nat} :
    scanString quote w = .badEscape c n ↔
      ∃ us cs behind, StringBody quote us cs ∧ w = us ++ '\\' :: c :: behind ∧ c ∉ escapable ∧
        n = us.length + 1 := by
  constructor
  · intro refuses
    obtain ⟨us, cs, tail, scan, rfl, body, stop⟩ := exists_body quote w
    rw [scanString_body isQuote body, scanString_stop isQuote stop] at refuses
    cases stop with
    | escapes behind refused =>
      cases refuses
      exact ⟨us, cs, behind, body, rfl, refused, rfl⟩
    | _ => cases refuses
  · rintro ⟨us, cs, behind, body, rfl, refused, rfl⟩
    rw [scanString_body isQuote body, scanString_stop isQuote (.escapes behind refused)]
    rfl

theorem exists_scanString_eq_unterminated_iff :
    (∃ n, scanString quote w = .unterminated n) ↔
      ∃ us cs, StringBody quote us cs ∧ (w = us ∨ w = us ++ ['\\']) := by
  constructor
  · rintro ⟨n, unclosed⟩
    obtain ⟨us, cs, tail, scan, rfl, body, stop⟩ := exists_body quote w
    rw [scanString_body isQuote body, scanString_stop isQuote stop] at unclosed
    cases stop with
    | ends => exact ⟨us, cs, body, .inl (List.append_nil us)⟩
    | endsInEscape => exact ⟨us, cs, body, .inr rfl⟩
    | _ => cases unclosed
  · rintro ⟨us, cs, body, rfl | rfl⟩
    · have scan := scanString_body isQuote body []
      rw [List.append_nil, scanString_stop isQuote .ends] at scan
      exact ⟨_, scan⟩
    · exact ⟨_, by rw [scanString_body isQuote body, scanString_stop isQuote .endsInEscape]; rfl⟩

end Scan

/-! ### The token of a string -/

theorem skip_skip (l : Lexer) (m n : Nat) : (l.skip m).skip n = l.skip (m + n) := by
  have position : (l.position.advanceOver (l.rest.take m)).advanceOver ((l.rest.drop m).take n) =
      l.position.advanceOver (l.rest.take (m + n)) := by
    rw [← Position.advanceOver_append, List.take_add]
  simp only [skip, List.drop_drop, position]

/-- As long as there are characters left, it can be seen how many were skipped. -/
theorem skip_injective {l : Lexer} {m n : Nat} (hm : m ≤ l.rest.length) (hn : n ≤ l.rest.length)
    (same : l.skip m = l.skip n) : m = n := by
  have lengths := congrArg (fun l : Lexer => l.rest.length) same
  simp only [rest_skip, List.length_drop] at lengths
  omega

section Token

variable {m : Lexer} {quote : Char} {w : List Char} (isQuote : quote = '\'' ∨ quote = '"')
  (rest : m.rest = quote :: w)

include rest in
theorem nextString_eq_ok_iff {s : String} {p : List Char} (there : p <+: w) :
    m.nextString quote w = (.ok ⟨.string, s, m.position⟩, m.skip (p.length + 1)) ↔
      scanString quote w = .closed s.toList p.length := by
  unfold nextString
  constructor
  · intro read
    cases scan : scanString quote w with
    | closed text width =>
      have short : width ≤ w.length := (scanString_append scan []).2
      have shorter := there.length_le
      have bound (n : Nat) (le : n ≤ w.length) : n + 1 ≤ m.rest.length := by
        rw [rest]
        exact Nat.succ_le_succ le
      simp only [scan, Prod.mk.injEq, Except.ok.injEq, Token.mk.injEq, true_and, and_true] at read
      obtain rfl : width = p.length :=
        Nat.succ.inj (skip_injective (bound _ short) (bound _ shorter) read.2)
      rw [← read.1, String.toList_ofList]
    | badEscape ch width => simp [scan] at read
    | unterminated width => simp [scan] at read
  · intro scan
    simp only [scan, String.ofList_toList]

include isQuote rest

/-- A string is what is behind its opening quote up to the first quote that is not escaped. -/
theorem nextString_yields_iff {s : String} {p : List Char} (there : p <+: w) :
    m.nextString quote w = (.ok ⟨.string, s, m.position⟩, m.skip (p.length + 1)) ↔
      ∃ us, StringBody quote us s.toList ∧ p = us ++ [quote] := by
  rw [nextString_eq_ok_iff rest there, scanString_closed_of_isPrefix_iff isQuote w there]

/-- The lexer stops in front of a character that must not follow a backslash. -/
theorem nextString_invalidEscape_iff {c : Char} {place : Position} :
    (m.nextString quote w).1 = .error (.invalidEscape c place) ↔
      ∃ us cs behind, StringBody quote us cs ∧ w = us ++ '\\' :: c :: behind ∧ c ∉ escapable ∧
        place = m.position.advanceOver (quote :: us ++ ['\\']) := by
  have stopped (us behind : List Char) (split : w = us ++ '\\' :: c :: behind) :
      (m.skip (us.length + 1 + 1)).position = m.position.advanceOver (quote :: us ++ ['\\']) := by
    show m.position.advanceOver (m.rest.take _) = _
    rw [rest, List.take_succ_cons, split, List.take_append, List.take_of_length_le (by simp)]
    simp
  have found : (m.nextString quote w).1 = .error (.invalidEscape c place) ↔
      ∃ n, scanString quote w = .badEscape c n ∧ place = (m.skip (n + 1)).position := by
    unfold nextString
    cases scan : scanString quote w <;> simp [eq_comm]
  rw [found]
  simp only [scanString_eq_badEscape_iff isQuote]
  constructor
  · rintro ⟨n, ⟨us, cs, behind, body, split, refused, rfl⟩, rfl⟩
    exact ⟨us, cs, behind, body, split, refused, stopped us behind split⟩
  · rintro ⟨us, cs, behind, body, split, refused, rfl⟩
    exact ⟨_, ⟨us, cs, behind, body, split, refused, rfl⟩, (stopped us behind split).symm⟩

omit rest in
/-- A string that the text does not close is found where it begins. -/
theorem nextString_unterminated_iff {place : Position} :
    (m.nextString quote w).1 = .error (.unterminatedString place) ↔
      place = m.position ∧ ∃ us cs, StringBody quote us cs ∧ (w = us ∨ w = us ++ ['\\']) := by
  rw [← exists_scanString_eq_unterminated_iff isQuote]
  unfold nextString
  cases scan : scanString quote w <;> simp [eq_comm]

/-- A string comes to a token or to one of two errors. -/
theorem nextString_cases :
    (∃ s p, p <+: w ∧
      m.nextString quote w = (.ok ⟨.string, s, m.position⟩, m.skip (p.length + 1))) ∨
    (∃ c place, (m.nextString quote w).1 = .error (.invalidEscape c place)) ∨
    ∃ place, (m.nextString quote w).1 = .error (.unterminatedString place) := by
  obtain ⟨us, cs, tail, scan, split, body, stop⟩ := exists_body quote w
  cases stop with
  | closes behind =>
    have there : us ++ [quote] <+: w := ⟨behind, by simp [split]⟩
    have means : StringBody quote us (String.ofList cs).toList := by rwa [String.toList_ofList]
    exact .inl ⟨_, _, there, (nextString_yields_iff isQuote rest there).mpr ⟨us, means, rfl⟩⟩
  | escapes behind refused =>
    exact .inr (.inl ⟨_, _, (nextString_invalidEscape_iff isQuote rest).mpr
      ⟨us, cs, behind, body, split, refused, rfl⟩⟩)
  | ends =>
    rw [List.append_nil] at split
    exact .inr (.inr ⟨_, (nextString_unterminated_iff isQuote).mpr ⟨rfl, us, cs, body, .inl split⟩⟩)
  | endsInEscape =>
    exact .inr (.inr ⟨_, (nextString_unterminated_iff isQuote).mpr ⟨rfl, us, cs, body, .inr split⟩⟩)

end Token

/-- What is written for a string between its quotes means the string. -/
theorem stringBody_escape {quote : Char} (isQuote : quote = '\'' ∨ quote = '"') (cs : List Char) :
    StringBody quote (Lexeme.escape cs) cs := by
  have closed : scanString quote (Lexeme.escape cs ++ [quote]) =
      .closed cs (Lexeme.escape cs ++ [quote]).length := by
    rw [scanString_escape isQuote, List.length_append]
    rfl
  obtain ⟨us, body, same⟩ :=
    (scanString_closed_of_isPrefix_iff isQuote _ (List.prefix_refl _)).mp closed
  rwa [List.append_cancel_right same]

/-- Behind a gap a string is read where its opening quote stands. -/
theorem next_string {l : Lexer} {gap w : List Char} {quote : Char} (inside : l.mode ≠ .text)
    (blank : ∀ c ∈ gap, isGap c = true) (isQuote : quote = '\'' ∨ quote = '"')
    (text : l.rest = gap ++ quote :: w) : l.next = (l.skip gap.length).nextString quote w := by
  have noGap : isGap quote = false := by
    rcases isQuote with rfl | rfl <;> rfl
  have notBrace : quote ≠ '{' ∧ quote ≠ '}' := by
    rcases isQuote with rfl | rfl <;> decide
  have gapTaken : l.rest.takeWhile isGap = gap := by
    rw [text, List.takeWhile_append_of_pos blank, List.takeWhile_cons_of_neg (by simp [noGap]),
      List.append_nil]
  have rest : (l.skip gap.length).rest = quote :: w := by
    rw [rest_skip, text, List.drop_left]
  have string : classOf quote w.head? = .string := by
    simp [classOf, notBrace, isQuote]
  rw [next_inside inside, skipGap, gapTaken, nextToken_eq rest, string, nextOf]

end Lexer

/-- Inside an expression, where the text goes on with an opening quote and `w`, perhaps behind a gap,
the lexer comes to one of three outcomes.

* It yields a string with the text `s` and consumes a prefix `p` of `w` exactly if `p` is a body that
  means `s` and a closing quote.
* It fails at a character behind a backslash exactly if that character is not escapable and what
  stands before the backslash is a body.
* It fails at the opening quote exactly if all of `w` is a body, with a backslash behind it or without.

So every string that is escaped and quoted is read back unchanged. -/
theorem strings_read_exactly (l : Lexer) (gap w : List Char) (quote : Char)
    (inside : l.mode ≠ .text) (blank : ∀ c ∈ gap, Lexer.isGap c = true)
    (isQuote : quote = '\'' ∨ quote = '"') (text : l.rest = gap ++ quote :: w) :
    let start := l.position.advanceOver gap
    let yields (s : String) (p : List Char) : Prop :=
      l.next = (.ok ⟨.string, s, start⟩, l.skip (gap ++ quote :: p).length)
    (∀ s p, p <+: w → (yields s p ↔ ∃ us, StringBody quote us s.toList ∧ p = us ++ [quote])) ∧
    (∀ c place, l.next.1 = .error (.invalidEscape c place) ↔
      ∃ us cs behind, StringBody quote us cs ∧ w = us ++ '\\' :: c :: behind ∧ c ∉ escapable ∧
        place = start.advanceOver (quote :: us ++ ['\\'])) ∧
    (∀ place, l.next.1 = .error (.unterminatedString place) ↔
      place = start ∧ ∃ us cs, StringBody quote us cs ∧ (w = us ∨ w = us ++ ['\\'])) ∧
    ((∃ s p, p <+: w ∧ yields s p) ∨ (∃ c place, l.next.1 = .error (.invalidEscape c place)) ∨
      ∃ place, l.next.1 = .error (.unterminatedString place)) ∧
    ∀ s behind, w = Lexeme.escape s.toList ++ quote :: behind →
      yields s (Lexeme.escape s.toList ++ [quote]) := by
  intro start yields
  let m := l.skip gap.length
  have next : l.next = m.nextString quote w := Lexer.next_string inside blank isQuote text
  have place : m.position = start := by
    show l.position.advanceOver (l.rest.take gap.length) = start
    rw [text, List.take_left]
  have rest : m.rest = quote :: w := by
    show l.rest.drop gap.length = _
    rw [text, List.drop_left]
  have yields_iff (s : String) (p : List Char) : yields s p ↔
      m.nextString quote w = (.ok ⟨.string, s, m.position⟩, m.skip (p.length + 1)) := by
    have width : (gap ++ quote :: p).length = gap.length + (p.length + 1) := by simp
    rw [Lexer.skip_skip, place, ← next, ← width]
  refine ⟨?_, ?_, ?_, ?_, ?_⟩
  · intro s p there
    rw [yields_iff, Lexer.nextString_yields_iff isQuote rest there]
  · intro c place'
    rw [next, Lexer.nextString_invalidEscape_iff isQuote rest, place]
  · intro place'
    rw [next, Lexer.nextString_unterminated_iff isQuote, place]
  · simp only [yields_iff, next]
    exact Lexer.nextString_cases isQuote rest
  · rintro s behind rfl
    rw [yields_iff, Lexer.nextString_yields_iff isQuote rest ⟨behind, by simp⟩]
    exact ⟨_, Lexer.stringBody_escape isQuote s.toList, rfl⟩

/-- A quote of the other kind, an escaped one of its own, and an escaped backslash in front of the
closing quote. -/
theorem strings_read_exactly_escapes :
    let l := Lexer.ofExpression "\n'\"\\'\\\\'+b"
    l.mode ≠ .text ∧ l.next = (.ok ⟨.string, "\"'\\", ⟨1, 2, 1⟩⟩, l.skip 8) := by
  intro l
  have body : StringBody '\'' ['"', '\\', '\'', '\\', '\\'] ['"', '\'', '\\'] :=
    .plain (by decide) (by decide) (.escape (by decide) (.escape (by decide) .nil))
  obtain ⟨yields, -⟩ := strings_read_exactly l ['\n']
    ['"', '\\', '\'', '\\', '\\', '\'', '+', 'b'] '\'' (by decide) (by simp [Lexer.isGap])
    (.inl rfl) (by decide)
  have there : ['"', '\\', '\'', '\\', '\\', '\''] <+:
      ['"', '\\', '\'', '\\', '\\', '\'', '+', 'b'] := ⟨['+', 'b'], rfl⟩
  exact ⟨by decide, (yields "\"'\\" _ there).mpr ⟨_, body, rfl⟩⟩

end ExprLang
