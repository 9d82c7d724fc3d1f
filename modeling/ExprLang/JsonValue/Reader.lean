import ExprLang.JsonValue

/-!
# JSON values from text

A reader takes the beginning of a text and proves that the rest is shorter, so that lists of items
end; how deep values may be nested is limited.
-/

namespace ExprLang.JsonValue

open Number (Double)

/-- What the beginning of `cs` was read as, and the rest of `cs`; or `none`. -/
abbrev Reading (α : Type) (cs : List Char) :=
  Option (α × { rest : List Char // rest.length < cs.length })

/-- Whether a character may stand between tokens. -/
def isBlank (c : Char) : Bool :=
  c == ' ' || c == '\n' || c == '\t' || c == '\r'

/-- The text without the blanks in front. -/
def dropBlanks (cs : List Char) : List Char :=
  cs.dropWhile isBlank

theorem length_dropBlanks_le (cs : List Char) : (dropBlanks cs).length ≤ cs.length :=
  (List.dropWhile_suffix isBlank).length_le

/-! ### Texts -/

/-- The value of a hexadecimal digit. -/
def hexValue? (c : Char) : Option Nat :=
  if '0' ≤ c ∧ c ≤ '9' then some (c.toNat - '0'.toNat)
  else if 'a' ≤ c ∧ c ≤ 'f' then some (c.toNat - 'a'.toNat + 10)
  else if 'A' ≤ c ∧ c ≤ 'F' then some (c.toNat - 'A'.toNat + 10)
  else none

/-- Reads a code unit of 16 bits in four hexadecimal digits. -/
def codeUnit (cs : List Char) : Reading Nat cs :=
  match cs with
  | a :: b :: c :: d :: rest => do
    let n := [← hexValue? a, ← hexValue? b, ← hexValue? c, ← hexValue? d].foldl (16 * · + ·) 0
    return (n, ⟨rest, by simp only [List.length_cons]; omega⟩)
  | _ => none

/-- Whether a code unit is the first of a pair. -/
def isHighSurrogate (n : Nat) : Bool :=
  0xD800 ≤ n && n < 0xDC00

/-- Whether a code unit is the second of a pair. -/
def isLowSurrogate (n : Nat) : Bool :=
  0xDC00 ≤ n && n < 0xE000

/-- The character of a pair of code units. -/
def ofPair (high low : Nat) : Char :=
  .ofNat (0x10000 + (high - 0xD800) * 0x400 + (low - 0xDC00))

/-- Reads what follows `\u`: one code unit, or a pair of them with `\u` in between. Half a pair
is refused. -/
def unicodeEscape (cs : List Char) : Reading Char cs := do
  let (unit, ⟨rest, h⟩) ← codeUnit cs
  if isHighSurrogate unit then
    match rest, h with
    | '\\' :: 'u' :: after, h =>
      let (low, ⟨rest, h'⟩) ← codeUnit after
      if isLowSurrogate low then return (ofPair unit low, ⟨rest, by simp at h; omega⟩) else none
    | _, _ => none
  else if isLowSurrogate unit then none
  else return (.ofNat unit, ⟨rest, h⟩)

/-- The character that is written by a backslash and another character. -/
def escaped? : Char → Option Char
  | '"' => some '"'
  | '\\' => some '\\'
  | '/' => some '/'
  | 'b' => some '\x08'
  | 'f' => some '\x0c'
  | 'n' => some '\n'
  | 'r' => some '\r'
  | 't' => some '\t'
  | _ => none

/-- Reads a character within quotes. Control characters have to be escaped. -/
def character (cs : List Char) : Reading Char cs :=
  match cs with
  | '\\' :: 'u' :: rest => do
    let (c, ⟨after, h⟩) ← unicodeEscape rest
    return (c, ⟨after, by simp only [List.length_cons]; omega⟩)
  | '\\' :: c :: rest =>
    (escaped? c).map fun c => (c, ⟨rest, by simp only [List.length_cons]; omega⟩)
  | ['\\'] => none
  | c :: rest => if c.toNat < 32 then none else some (c, ⟨rest, by simp⟩)
  | [] => none

/-- Reads the rest of a text after its opening quote. -/
def quotedRest (cs : List Char) : Reading (List Char) cs :=
  match cs with
  | '"' :: rest => some ([], ⟨rest, by simp⟩)
  | cs => do
    let (c, ⟨rest, h⟩) ← character cs
    let (more, ⟨after, h'⟩) ← quotedRest rest
    return (c :: more, ⟨after, by omega⟩)
termination_by cs.length

/-! ### Numbers -/

/-- The greatest significand. -/
def maxSignificand : Nat := Nat.pow 2 64 - 1

/-- Appends digits to a significand as long as it fits 64 bits, and counts them. -/
def appendDigits (n : Nat) : List Char → Nat × Nat
  | [] => (n, 0)
  | c :: cs =>
    let next := 10 * n + Number.valueOf [c]
    if next ≤ maxSignificand then
      let (total, count) := appendDigits next cs
      (total, count + 1)
    else (n, 0)

/-- The greatest power of ten among the doubles. -/
def maxPower : Nat := 308

/-- A power of ten as a double. -/
def powerOfTen (k : Nat) : Double :=
  .ofInt (Nat.pow 10 k)

/-- A double divided by a power of ten, in steps of the greatest power of ten. -/
def divideByPower (x : Double) (k : Nat) : Double :=
  if k ≤ maxPower then x.div (powerOfTen k)
  else if x = .ofInt 0 then x
  else divideByPower (x.div (powerOfTen maxPower)) (k - maxPower)
termination_by k
decreasing_by simp_all [maxPower]; omega

/-- A significand times a power of ten, in the arithmetic of doubles; `none` if it is too
large. -/
def scaled? (significand : Nat) (k : Int) : Option Double :=
  let x := Double.ofInt significand
  if k < 0 then some (divideByPower x k.natAbs)
  else if k ≤ maxPower then some (x.mul (powerOfTen k.toNat)) |>.filter Double.isFinite
  else if significand = 0 then some x
  else none

/-- A number in writing, taken apart. -/
structure Numeral where
  negative : Bool
  whole : List Char
  /-- The digits after the point; none if there is no point. -/
  places : List Char
  /-- What follows the exponent's mark; `none` if there is no exponent. -/
  exponent : Option Int
deriving Repr

namespace Numeral

/-- The value of a numeral. The digits that fit 64 bits count, those after them only by their
number. -/
def value? (n : Numeral) : Option JsonValue :=
  let (whole, taken) := appendDigits 0 n.whole
  let dropped := n.whole.length - taken
  if n.places.isEmpty ∧ n.exponent.isNone ∧ dropped = 0 then
    if !n.negative then some (.integer whole)
    else if 0 < whole ∧ -(whole : Int) ≥ minInteger then some (.integer (-whole))
    else some (.double (Double.ofInt whole).neg)
  else
    let (significand, places) := appendDigits whole n.places
    (scaled? significand (dropped - places + n.exponent.getD 0)).map fun x =>
      .double (if n.negative then x.neg else x)

end Numeral

/-- The digits in front, and the rest. -/
def spanDigits (cs : List Char) : List Char × List Char :=
  cs.span Text.isDigit

/-- The exponent that begins a text, and the rest. Without its mark there is none; with it there
have to be digits. -/
def exponent? (cs : List Char) : Option (Option Int × List Char) :=
  match cs with
  | [] => some (none, [])
  | c :: rest =>
    if c = 'e' ∨ c = 'E' then
      let (negative, body) := Number.splitSign rest
      let (ds, after) := spanDigits body
      if ds.isEmpty then none
      else some (some (Number.signed negative (Number.valueOf ds)), after)
    else some (none, cs)

/-- The digits after a point that begins a text, and the rest. Without a point there are none;
with it there have to be some. -/
def places? (cs : List Char) : Option (List Char × List Char) :=
  match cs with
  | '.' :: rest =>
    let (ds, after) := spanDigits rest
    if ds.isEmpty then none else some (ds, after)
  | cs => some ([], cs)

/-- Whether digits may stand in front of the point: at least one, and no zero in front of
others. -/
def isWhole (ds : List Char) : Bool :=
  match ds with
  | [] => false
  | ['0'] => true
  | d :: _ => d != '0'

/-- The numeral that begins a text, and the rest. -/
def numeral? (cs : List Char) : Option (Numeral × List Char) := do
  let (negative, body) := match cs with
    | '-' :: rest => (true, rest)
    | cs => (false, cs)
  let (whole, rest) := spanDigits body
  guard (isWhole whole)
  let (places, rest) ← places? rest
  let (exponent, rest) ← exponent? rest
  return (⟨negative, whole, places, exponent⟩, rest)

/-- Reads a number. -/
def number (cs : List Char) : Reading JsonValue cs := do
  let (n, rest) ← numeral? cs
  let v ← n.value?
  if h : rest.length < cs.length then return (v, ⟨rest, h⟩) else none

/-! ### Values -/

/-- Reads a given word as a value. -/
def word (w : List Char) (v : JsonValue) (cs : List Char) : Reading JsonValue cs :=
  if h : 0 < w.length ∧ w.length ≤ cs.length ∧ w.isPrefixOf cs then
    some (v, ⟨cs.drop w.length, by simp only [List.length_drop]; omega⟩)
  else none

/-- Reads items with commas between them up to a closing bracket; there has to be an item. -/
def separated {α : Type} (item : (cs : List Char) → Reading α cs) (close : Char)
    (cs : List Char) : Reading (List α) cs := do
  let (a, ⟨rest, h⟩) ← item cs
  match hb : dropBlanks rest with
  | [] => none
  | c :: after =>
    have : after.length < cs.length := by
      have := length_dropBlanks_le rest
      simp only [hb, List.length_cons] at this
      omega
    if c = close then return ([a], ⟨after, this⟩)
    else if c = ',' then
      let (more, ⟨rest, h'⟩) ← separated item close after
      return (a :: more, ⟨rest, by omega⟩)
    else none
termination_by cs.length

/-- Reads items up to a closing bracket, perhaps none. -/
def bracketed {α : Type} (item : (cs : List Char) → Reading α cs) (close : Char)
    (cs : List Char) : Reading (List α) cs :=
  match h : dropBlanks cs with
  | [] => none
  | c :: rest =>
    if c = close then
      some ([], ⟨rest, by
        have := length_dropBlanks_le cs
        simp only [h, List.length_cons] at this
        omega⟩)
    else separated item close cs

/-- Reads a member of an object. -/
def member (value : (cs : List Char) → Reading JsonValue cs) (cs : List Char) :
    Reading (String × JsonValue) cs :=
  match hq : dropBlanks cs with
  | '"' :: body => do
    let (name, ⟨rest, h⟩) ← quotedRest body
    match hc : dropBlanks rest with
    | ':' :: after =>
      let (v, ⟨final, h'⟩) ← value after
      return ((String.ofList name, v), ⟨final, by
        have hcs := length_dropBlanks_le cs
        have hrest := length_dropBlanks_le rest
        simp only [hq, hc, List.length_cons] at hcs hrest
        omega⟩)
    | _ => none
  | _ => none

/-- Reads a value that does not begin with a blank. Lists and objects may be nested as deep as
`depth` allows, where `nested` reads what is within them. -/
def valueAt (nested : Option ((cs : List Char) → Reading JsonValue cs)) (cs : List Char) :
    Reading JsonValue cs :=
  match cs with
  | [] => none
  | '"' :: rest => do
    let (s, ⟨after, h⟩) ← quotedRest rest
    return (.string (String.ofList s), ⟨after, by simp only [List.length_cons]; omega⟩)
  | '[' :: rest => do
    let (items, ⟨after, h⟩) ← bracketed (← nested) ']' rest
    return (.array items, ⟨after, by simp only [List.length_cons]; omega⟩)
  | '\x7b' :: rest => do
    let (members, ⟨after, h⟩) ← bracketed (member (← nested)) '\x7d' rest
    return (.ofMembers members, ⟨after, by simp only [List.length_cons]; omega⟩)
  | 'n' :: rest => word ['n', 'u', 'l', 'l'] .null ('n' :: rest)
  | 't' :: rest => word ['t', 'r', 'u', 'e'] (.boolean true) ('t' :: rest)
  | 'f' :: rest => word ['f', 'a', 'l', 's', 'e'] (.boolean false) ('f' :: rest)
  | c :: rest => number (c :: rest)

/-- Reads a value, perhaps after blanks, in which lists and objects are nested at most `depth`
deep. -/
def value : (depth : Nat) → (cs : List Char) → Reading JsonValue cs
  | 0, cs => skipBlanks (valueAt none) cs
  | depth + 1, cs => skipBlanks (valueAt (some (value depth))) cs
where
  /-- Applies a reader behind the blanks in front. -/
  skipBlanks (read : (cs : List Char) → Reading JsonValue cs) (cs : List Char) :
      Reading JsonValue cs := do
    let (v, ⟨rest, h⟩) ← read (dropBlanks cs)
    return (v, ⟨rest, Nat.lt_of_lt_of_le h (length_dropBlanks_le cs)⟩)

/-- How deep lists and objects may be nested. -/
def maxDepth : Nat := 127

/-- Reads a text as one value. -/
def read? (s : String) : Option JsonValue := do
  let (v, ⟨rest, _⟩) ← value maxDepth s.toList
  if (dropBlanks rest).isEmpty then return v else none

end ExprLang.JsonValue
