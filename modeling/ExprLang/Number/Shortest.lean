import ExprLang.Number.Binary

/-!
# Shortest digits

The shortest decimal that reads back as a given binary number, and of several that short the one
nearest to the number. Which of two that are equally near is left to the caller.
-/

namespace ExprLang.Number

/-- Which of two equally near decimals is taken. -/
inductive Tie where
  | up
  | even
deriving DecidableEq, Repr

namespace Shortest

/-- A positive binary number between the two ends of the interval that rounds to it, as integers
over one denominator. The ends belong to it when the significand is even. -/
structure Interval where
  low : Nat
  value : Nat
  high : Nat
  den : Nat
  closed : Bool
deriving Repr

/-- The interval of the numbers that round to `m` times two to the power `e`. Below a power of
two the neighbour is only half as far away, save at the least exponent. -/
def Interval.of (f : Format) (m : Nat) (e : Int) : Interval :=
  let scale := Nat.pow 2 (e - 2).toNat
  let below := if m = f.fractionSize ∧ f.minExponent < e then 1 else 2
  ⟨(4 * m - below) * scale, 4 * m * scale, (4 * m + 2) * scale, Nat.pow 2 (2 - e).toNat, m % 2 == 0⟩

/-- The interval divided by ten to the power `k`. -/
def Interval.scaled (i : Interval) (k : Int) : Interval :=
  let up := Nat.pow 10 (-k).toNat
  ⟨i.low * up, i.value * up, i.high * up, i.den * Nat.pow 10 k.toNat, i.closed⟩

/-- Whether the interval holds the integer `c`. -/
def Interval.holds (i : Interval) (c : Nat) : Bool :=
  if i.closed then i.low ≤ c * i.den && c * i.den ≤ i.high
  else i.low < c * i.den && c * i.den < i.high

/-- The integer in the interval that is nearest to the value, if there is one. -/
def Interval.nearest? (i : Interval) (tie : Tie) : Option Nat :=
  let c := i.value / i.den
  match i.holds c, i.holds (c + 1) with
  | false, false => none
  | true, false => some c
  | false, true => some (c + 1)
  | true, true =>
    match compare (2 * i.value) ((2 * c + 1) * i.den) with
    | .lt => some c
    | .gt => some (c + 1)
    | .eq => some (if tie = .even ∧ c % 2 = 0 then c else c + 1)

/-- A power of ten above `m` times two to the power `e`, by at most two places. -/
def powerAbove (m : Nat) (e : Int) : Int :=
  (m.log2 + 1 + e) * 30103 / 100000 + 1

/-- The finest power of ten that has to be tried lies this many places below the first. -/
def places : Nat := 21

/-- The shortest digits of `m` times two to the power `e`, and the power of ten of the last. -/
def digits (f : Format) (tie : Tie) (m : Nat) (e : Int) : Nat × Int :=
  let interval := Interval.of f m e
  let top := powerAbove m e
  let found := (List.range places).findSome? fun (i : Nat) =>
    ((interval.scaled (top - i)).nearest? tie).map fun c => (c, top - i)
  match found with
  | none => (0, 0)
  | some (c, k) =>
    let (c, zeros) := Decimal.dropZeros (digitCount c) c
    (c, k + zeros)

end Shortest

end ExprLang.Number
