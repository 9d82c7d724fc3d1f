import ExprLang.Number.Integer

/-!
# Decimal numbers

A decimal is an integer and the number of its places after the point. Decimals of one value may
differ in their scale: `1.5` and `1.50` are two decimals that compare as equal. Arithmetic is
exact, except that a quotient without end is rounded to a hundred digits.
-/

namespace ExprLang.Number

/-- The number `unscaled` times ten to the power `-scale`. -/
structure Decimal where
  unscaled : Int
  scale : Int
deriving DecidableEq, Repr, Inhabited

namespace Decimal

/-- An integer as a decimal without places. -/
def ofInt (n : Int) : Decimal :=
  ⟨n, 0⟩

/-- The decimal with at least `scale` places; the scale is never lowered. -/
def raise (d : Decimal) (scale : Int) : Decimal :=
  if d.scale < scale then ⟨d.unscaled * Nat.pow 10 (scale - d.scale).toNat, scale⟩ else d

/-- The sum, at the larger of the two scales. -/
def add (a b : Decimal) : Decimal :=
  ⟨(a.raise b.scale).unscaled + (b.raise a.scale).unscaled, max a.scale b.scale⟩

/-- The negative, at the same scale. -/
def neg (d : Decimal) : Decimal :=
  ⟨-d.unscaled, d.scale⟩

/-- The difference. Subtracting zero, or from zero, keeps the other operand's scale; otherwise
the scale is the larger one. -/
def sub (a b : Decimal) : Decimal :=
  if b.unscaled = 0 then a
  else if a.unscaled = 0 then b.neg
  else a.add b.neg

/-- Whether the decimal is written as a one with up to 38 zeros after the point. -/
def isOne (d : Decimal) : Bool :=
  0 ≤ d.scale && d.scale ≤ 38 && d.unscaled == Nat.pow 10 d.scale.toNat

/-- The product. A factor of one leaves the other as it is; otherwise the scales add up. -/
def mul (a b : Decimal) : Decimal :=
  if a.isOne then b
  else if b.isOne then a
  else ⟨a.unscaled * b.unscaled, a.scale + b.scale⟩

/-- The largest number of digits that a quotient without end has before it is rounded. -/
def quotientDigits : Nat := 100

/-- `num` times the least power of ten that makes it at least `den`, and that power. The first
argument bounds the power. -/
def scaleUp : Nat → Nat → Nat → Nat × Nat
  | 0, num, _ => (num, 0)
  | fuel + 1, num, den =>
    if num < den then
      let (n, k) := scaleUp fuel (num * 10) den
      (n, k + 1)
    else (num, 0)

/-- Long division: appends up to `places` digits to `quotient`, the digits of `rem / den` after
the point. Gives the quotient, the number of digits appended and the remainder. -/
def longDivide : Nat → Nat → Nat → Nat → Nat × Nat × Nat
  | 0, quotient, rem, _ => (quotient, 0, rem)
  | places + 1, quotient, rem, den =>
    if rem = 0 then (quotient, 0, 0)
    else
      let (q, k, r) := longDivide places (quotient * 10 + rem * 10 / den) (rem * 10 % den) den
      (q, k + 1, r)

/-- The quotient of two positive integers as an integer and a scale: all its digits if they end
within the limit, else as many as the limit allows, rounded half up. -/
def divideDigits (num den : Nat) : Nat × Nat :=
  let (n, k) := scaleUp (digitCount den) num den
  let whole := n / den
  let (q, places, rem) := longDivide (quotientDigits - digitCount whole) whole (n % den) den
  (if 5 ≤ rem * 10 / den then q + 1 else q, k + places)

/-- The quotient by a number other than zero. A dividend of zero and a divisor of one leave the
dividend as it is. -/
def div (a b : Decimal) : Decimal :=
  if a.unscaled = 0 || b.isOne then a
  else if a.unscaled = b.unscaled then ⟨1, a.scale - b.scale⟩
  else
    let (q, places) := divideDigits a.unscaled.natAbs b.unscaled.natAbs
    ⟨signed ((a.unscaled < 0) != (b.unscaled < 0)) q, a.scale - b.scale + places⟩

/-- The power of ten of the place before the first digit of a number other than zero. -/
def magnitude (d : Decimal) : Int :=
  digitCount d.unscaled.natAbs - d.scale

/-- The order of two decimals by value, for decimals of one sign other than zero. Decimals of
different magnitude are told apart without writing out their digits. -/
def compareSameSign (a b : Decimal) : Ordering :=
  if a.magnitude = b.magnitude then
    compare (a.raise b.scale).unscaled (b.raise a.scale).unscaled
  else if 0 < a.unscaled then compare a.magnitude b.magnitude
  else compare b.magnitude a.magnitude

/-- The order of two decimals by value. -/
def compareValue (a b : Decimal) : Ordering :=
  if a.unscaled.sign = b.unscaled.sign ∧ a.unscaled ≠ 0 then compareSameSign a b
  else compare a.unscaled.sign b.unscaled.sign

/-- Whether two decimals have the same value. -/
def sameValue (a b : Decimal) : Bool :=
  a.compareValue b == .eq

/-- The integral part: the places after the point are dropped. -/
def truncate (d : Decimal) : Int :=
  if 0 < d.scale then
    if digitCount d.unscaled.natAbs ≤ d.scale.toNat then 0
    else d.unscaled.tdiv (Nat.pow 10 d.scale.toNat)
  else d.unscaled * Nat.pow 10 (-d.scale).toNat

/-- Drops up to `fuel` zeros at the end of `n`, and counts them. -/
def dropZeros : Nat → Nat → Nat × Nat
  | 0, n => (n, 0)
  | fuel + 1, n =>
    if n % 10 = 0 then
      let (m, k) := dropZeros fuel (n / 10)
      (m, k + 1)
    else (n, 0)

/-- The decimal of the same value with the fewest digits. -/
def normalize (d : Decimal) : Decimal :=
  if d.unscaled = 0 then ⟨0, 0⟩
  else
    let (m, k) := dropZeros (digitCount d.unscaled.natAbs) d.unscaled.natAbs
    ⟨signed (d.unscaled < 0) m, d.scale - k⟩

/-! ### Text -/

/-- Splits at the first character that satisfies `p`, which belongs to neither part. -/
def splitFirst (p : Char → Bool) (cs : List Char) : List Char × Option (List Char) :=
  match cs.dropWhile (!p ·) with
  | [] => (cs, none)
  | _ :: after => (cs.takeWhile (!p ·), some after)

/-- The digits of a mantissa, its point taken out, and the number of places after the point. A
point at the very end counts for nothing, and neither does an underscore among the places. -/
def mantissaDigits (cs : List Char) : List Char × Nat :=
  match splitFirst (· == '.') cs with
  | (lead, none) => (lead, 0)
  | (lead, some trail) => (lead ++ trail, (trail.filter (· != '_')).length)

/-- Reads a decimal: digits with at most one point, perhaps an exponent of ten after `e` or `E`. -/
def read? (cs : List Char) : Option Decimal := do
  let (base, power) := splitFirst (fun c => c == 'e' || c == 'E') cs
  let exponent ← match power with
    | none => some 0
    | some ds => readFixed? 128 ds
  let (ds, places) := mantissaDigits base
  let scale := places - exponent
  guard (-Nat.pow 2 63 ≤ scale && scale < Nat.pow 2 63)
  let unscaled ← readGrouped? ds
  return ⟨unscaled, scale⟩

/-- A decimal with more zeros than this between the point and its digits is written with an
exponent. -/
def leadingZeros : Nat := 5

/-- An integer with more zeros than this at its end is written with an exponent. -/
def trailingZeros : Nat := 15

/-- A decimal in writing: positional, unless that takes too many zeros. -/
def text (d : Decimal) : String :=
  let ds := digits d.unscaled.natAbs
  let body :=
    if d.unscaled = 0 then ['0']
    else if (ds.length + leadingZeros : Int) < d.scale then
      mantissa ds ++ 'E' :: integerChars (leadingPower ds (-d.scale))
    else if d.scale < -(trailingZeros : Int) then
      ds ++ 'e' :: '+' :: digits (-d.scale).toNat
    else positional ds (-d.scale)
  String.ofList (minus (d.unscaled < 0) ++ body)

end Decimal

end ExprLang.Number
