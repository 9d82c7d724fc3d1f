import ExprLang.Number.Digits

/-!
# Integers

How integers are read from text, and cut down to a width in bits.
-/

namespace ExprLang.Number

/-- A sign in front of `cs`: whether it is a minus sign, and what follows it. Text without a sign
is positive. -/
def splitSign : List Char → Bool × List Char
  | '-' :: cs => (true, cs)
  | '+' :: cs => (false, cs)
  | cs => (false, cs)

/-- The number `n` or its negative. -/
def signed (negative : Bool) (n : Nat) : Int :=
  if negative then -n else n

/-- Reads an integer: perhaps a sign, then digits only. -/
def readInteger? (cs : List Char) : Option Int :=
  let (negative, ds) := splitSign cs
  (readDigits? ds).map (signed negative)

/-- Reads an integer of `width` bits in two's complement; one out of range is no such integer. -/
def readFixed? (width : Nat) (cs : List Char) : Option Int :=
  (readInteger? cs).filter fun n => -Nat.pow 2 (width - 1) ≤ n && n < Nat.pow 2 (width - 1)

/-- Reads an integer of any size: perhaps a sign, then a digit, then digits that may be grouped by
underscores. -/
def readGrouped? (cs : List Char) : Option Int :=
  let (negative, ds) := splitSign cs
  if ds.head?.any Text.isDigit then
    (readDigits? (ds.filter (· != '_'))).map (signed negative)
  else none

/-- The integer of `width` bits in two's complement that agrees with `n` modulo `2 ^ width`. -/
def wrap (width : Nat) (n : Int) : Int :=
  n.bmod (Nat.pow 2 width)

end ExprLang.Number
