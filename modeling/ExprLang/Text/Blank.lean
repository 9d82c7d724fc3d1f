/-!
# White space

White space and trimming. `isBlank` is the Unicode property White_Space, a larger class than
`Char.isWhitespace`, which knows four ASCII characters.
-/

namespace ExprLang.Text

/-- The code points with the Unicode property White_Space. -/
def isBlankCode (code : Nat) : Bool :=
  (9 ≤ code && code ≤ 13) || code == 0x20 || code == 0x85 || code == 0xA0 || code == 0x1680 ||
    (0x2000 ≤ code && code ≤ 0x200A) || code == 0x2028 || code == 0x2029 || code == 0x202F ||
    code == 0x205F || code == 0x3000

/-- White space in the sense of Unicode. -/
def isBlank (c : Char) : Bool :=
  isBlankCode c.toNat

/-- The characters without those at the end that satisfy `p`. -/
def dropTrailing (p : Char → Bool) (cs : List Char) : List Char :=
  (cs.reverse.dropWhile p).reverse

/-- The characters without white space at either end. -/
def trimChars (cs : List Char) : List Char :=
  dropTrailing isBlank (cs.dropWhile isBlank)

/-- The text without white space at either end. -/
def trim (s : String) : String :=
  String.ofList (trimChars s.toList)

end ExprLang.Text
