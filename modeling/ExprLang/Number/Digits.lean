import ExprLang.Text.Alphabet

/-!
# Decimal digits

A number is a run of digits times a power of ten, written with a point (`positional`) or with one
digit before the point (`mantissa`).
-/

namespace ExprLang.Number

/-- The decimal digits of a number, without leading zeros. -/
def digits (n : Nat) : List Char :=
  Nat.toDigits 10 n

/-- The number of decimal digits of a number. -/
def digitCount (n : Nat) : Nat :=
  (digits n).length

/-- The number that a run of digits writes; the empty run writes zero. -/
def valueOf (cs : List Char) : Nat :=
  Nat.ofDigitChars 10 cs 0

/-- Reads a run of at least one digit. -/
def readDigits? (cs : List Char) : Option Nat :=
  if !cs.isEmpty && cs.all Text.isDigit then some (valueOf cs) else none

/-- A minus sign for negative numbers. -/
def minus (negative : Bool) : List Char :=
  if negative then ['-'] else []

/-- The digits `ds` times ten to the power `k`, in positional notation: zeros are filled in on
either side, and there is a point only if digits follow it. -/
def positional (ds : List Char) (k : Int) : List Char :=
  if 0 ≤ k then ds ++ List.replicate k.toNat '0'
  else
    let places := (-k).toNat
    if places < ds.length then
      ds.take (ds.length - places) ++ '.' :: ds.drop (ds.length - places)
    else '0' :: '.' :: (List.replicate (places - ds.length) '0' ++ ds)

/-- The digits `ds` with a point after the first of them, if others follow. -/
def mantissa : List Char → List Char
  | [] => []
  | [d] => [d]
  | d :: ds => d :: '.' :: ds

/-- The power of ten of the first digit of `ds` when the last one has the power `k`. -/
def leadingPower (ds : List Char) (k : Int) : Int :=
  ds.length - 1 + k

/-- An integer in decimal. -/
def integerChars (n : Int) : List Char :=
  minus (n < 0) ++ digits n.natAbs

/-- An integer in decimal. -/
def integerText (n : Int) : String :=
  String.ofList (integerChars n)

end ExprLang.Number
