import ExprLang.Number.Decimal

/-!
# Binary floating-point numbers

A format of binary floating-point numbers, the codes of its numbers as bit patterns, and rounding
to it. `Format.round` is the one place where precision is lost: it takes an exact ratio of
integers to the nearest number of the format, ties to the even one.
-/

namespace ExprLang.Number

/-- What a code stands for. A finite number is `significand` times two to the power `exponent`. A
NaN has a fraction of `width` bits, the first of which tells whether it is a quiet one. -/
inductive Binary where
  | finite (negative : Bool) (significand : Nat) (exponent : Int)
  | infinite (negative : Bool)
  | nan (negative : Bool) (fraction width : Nat)
deriving DecidableEq, Repr, Inhabited

/-- A binary format: a sign bit, `exponentBits` bits for the exponent, and one bit less than
`precision` for the significand, whose leading bit is implied. -/
structure Format where
  precision : Nat
  exponentBits : Nat
  /-- The exponent of the last place of the smallest numbers. -/
  minExponent : Int
deriving DecidableEq, Repr

namespace Format

/-- 64 bits. -/
def double : Format :=
  ⟨53, 11, -1074⟩

/-- 32 bits. -/
def single : Format :=
  ⟨24, 8, -149⟩

variable (f : Format)

/-- One more than the largest fraction. -/
def fractionSize : Nat :=
  Nat.pow 2 (f.precision - 1)

/-- The code of infinity, above that of every finite number. -/
def infinity : Nat :=
  (Nat.pow 2 f.exponentBits - 1) * f.fractionSize

/-- The value of the sign bit. -/
def signBit : Nat :=
  Nat.pow 2 f.exponentBits * f.fractionSize

/-- The first bit of a fraction, which is set in a quiet NaN. -/
def quietBit : Nat :=
  f.fractionSize / 2

/-- The code of a NaN. -/
def nanCode : Nat :=
  f.infinity + f.quietBit

/-- The code of a quiet NaN that agrees, after its first bit, with a fraction of `width` bits as far
as there is room for them. -/
def quietCode (fraction width : Nat) : Nat :=
  f.nanCode + fraction * f.fractionSize / Nat.pow 2 width % f.quietBit

/-- A code with a sign bit in front. -/
def withSign (negative : Bool) (code : Nat) : Nat :=
  if negative then f.signBit + code else code

/-- What a code stands for. -/
def decode (code : Nat) : Binary :=
  let negative := f.signBit ≤ code
  let magnitude := code % f.signBit
  let field := magnitude / f.fractionSize
  let fraction := magnitude % f.fractionSize
  if field = 0 then .finite negative fraction f.minExponent
  else if field < Nat.pow 2 f.exponentBits - 1 then
    .finite negative (f.fractionSize + fraction) (f.minExponent + (field - 1))
  else if fraction = 0 then .infinite negative
  else .nan negative fraction (f.precision - 1)

/-- The code of `significand` times two to the power `exponent`, for a significand in the range
of the format; a number that is too large is infinite. -/
def encode (significand : Nat) (exponent : Int) : Nat :=
  min ((exponent - f.minExponent).toNat * f.fractionSize + significand) f.infinity

/-- `num / den` divided by two to the power `exponent`, as a ratio. -/
def ratioAt (num den : Nat) (exponent : Int) : Nat × Nat :=
  (num * Nat.pow 2 (-exponent).toNat, den * Nat.pow 2 exponent.toNat)

/-- The integer nearest to `num / den`, the even one of two that are equally near. -/
def nearest (num den : Nat) : Nat :=
  let q := num / den
  let twice := 2 * (num % den)
  if den < twice ∨ (twice = den ∧ q % 2 = 1) then q + 1 else q

/-- The exponent at which `num / den` has as many bits as the format holds, or the least one. -/
def exponentFor (num den : Nat) : Int :=
  let low := max ((num.log2 : Int) - den.log2 - f.precision) f.minExponent
  let (n, d) := ratioAt num den low
  if n / d < Nat.pow 2 f.precision then low else low + 1

/-- The code of the number nearest to `num / den`, without a sign. -/
def round (num den : Nat) : Nat :=
  if num = 0 then 0
  else
    let exponent := f.exponentFor num den
    let (n, d) := ratioAt num den exponent
    f.encode (nearest n d) exponent

/-- The code of `significand` times ten to the power `exponent`, without a sign. Powers far out
of range are settled by the number of digits. -/
def roundDecimal (significand : Nat) (exponent : Int) : Nat :=
  let magnitude := digitCount significand + exponent
  if significand = 0 ∨ magnitude < -400 then 0
  else if 400 < magnitude then f.infinity
  else f.round (significand * Nat.pow 10 exponent.toNat) (Nat.pow 10 (-exponent).toNat)

/-- The code of the number nearest to a value of any format. A NaN becomes a quiet one. -/
def ofBinary : Binary → Nat
  | .finite negative m e =>
    f.withSign negative (f.round (m * Nat.pow 2 e.toNat) (Nat.pow 2 (-e).toNat))
  | .infinite negative => f.withSign negative f.infinity
  | .nan negative fraction width => f.withSign negative (f.quietCode fraction width)

/-- The code of the number nearest to an integer. -/
def ofInt (n : Int) : Nat :=
  f.withSign (n < 0) (f.round n.natAbs 1)

/-- Codes in the total order of all numbers: below the negative infinity and above the positive
one lie the NaNs, and the negative zero is less than the positive. -/
def orderKey (code : Nat) : Int :=
  if f.signBit ≤ code then -((code - f.signBit : Nat) : Int) - 1 else code

/-- Reads the digits of a number: digits with at most one point, perhaps an exponent of ten after
`e` or `E`. Gives the digits as an integer and the power of ten of the last one. -/
def readMagnitude? (cs : List Char) : Option (Nat × Int) := do
  let whole := cs.takeWhile Text.isDigit
  let (places, rest) := match cs.drop whole.length with
    | '.' :: after => (after.takeWhile Text.isDigit, after.dropWhile Text.isDigit)
    | other => ([], other)
  guard (!(whole ++ places).isEmpty)
  let exponent ← match rest with
    | [] => some 0
    | c :: after => if c = 'e' ∨ c = 'E' then readInteger? after else none
  return (valueOf (whole ++ places), exponent - places.length)

/-- Reads a number: perhaps a sign, then digits with point and exponent as they like, or the
words for infinity and NaN in any case. Gives the code of the number nearest to it. -/
def read? (cs : List Char) : Option Nat :=
  let (negative, body) := splitSign cs
  let word := String.ofList (body.map Char.toLower)
  if word = "inf" ∨ word = "infinity" then some (f.withSign negative f.infinity)
  else if word = "nan" then some (f.withSign negative f.nanCode)
  else (readMagnitude? body).map fun (m, k) => f.withSign negative (f.roundDecimal m k)

end Format

namespace Binary

/-- The integral part as an integer between `low` and `high`: what lies beyond either end becomes
that end, and a NaN becomes zero. -/
def truncate (low high : Int) : Binary → Int
  | finite negative m e =>
    max low (min high (signed negative (m * Nat.pow 2 e.toNat / Nat.pow 2 (-e).toNat)))
  | infinite negative => if negative then low else high
  | nan .. => 0

/-- The exact value of a finite number as a decimal with as few digits as it has. -/
def exactDecimal? : Binary → Option Decimal
  | finite negative m e =>
    some (Decimal.normalize
      ⟨signed negative (m * Nat.pow 2 e.toNat * Nat.pow 5 (-e).toNat), ((-e).toNat : Int)⟩)
  | _ => none

/-- The remainder of a division rounded toward zero. It has the sign of the dividend, and there
is none of an infinite dividend or by zero. -/
def remainder : Binary → Binary → Binary
  | finite negative m e, finite _ n k =>
    if n = 0 then nan false 0 0
    else
      let low := min e k
      finite negative
        (m * Nat.pow 2 (e - low).toNat % (n * Nat.pow 2 (k - low).toNat)) low
  | x@(finite ..), infinite _ => x
  | _, _ => nan false 0 0

end Binary

end ExprLang.Number
