import ExprLang.Number.Shortest

/-!
# Doubles and singles

Floating-point numbers of 64 and 32 bits, held as their codes, so that equality of values is
equality of codes: a NaN equals itself, and the two zeros differ.
-/

namespace ExprLang.Number

/-- A floating-point number of 64 bits. -/
structure Double where
  bits : UInt64
deriving DecidableEq, Repr, Inhabited

/-- A floating-point number of 32 bits. -/
structure Single where
  bits : UInt32
deriving DecidableEq, Repr, Inhabited

namespace Double

/-- The number with a code. -/
def ofCode (code : Nat) : Double :=
  ⟨UInt64.ofNat code⟩

/-- What the number's code stands for. -/
def decode (x : Double) : Binary :=
  Format.double.decode x.bits.toNat

/-- The nearest double. -/
def ofBinary (b : Binary) : Double :=
  ofCode (Format.double.ofBinary b)

/-- The double nearest to an integer. -/
def ofInt (n : Int) : Double :=
  ofCode (Format.double.ofInt n)

/-- The double nearest to a number in writing. -/
def read? (cs : List Char) : Option Double :=
  (Format.double.read? cs).map ofCode

/-- Neither infinite nor a NaN. -/
def isFinite (x : Double) : Bool :=
  match x.decode with
  | .finite .. => true
  | _ => false

/-- The total order of doubles. -/
def compareTotal (x y : Double) : Ordering :=
  compare (Format.double.orderKey x.bits.toNat) (Format.double.orderKey y.bits.toNat)

/-- The number with the other sign. -/
def neg (x : Double) : Double :=
  ⟨x.bits ^^^ 0x8000000000000000⟩

/-- An operation of the floating-point unit. -/
def lift (op : Float → Float → Float) (x y : Double) : Double :=
  ⟨(op (Float.ofBits x.bits) (Float.ofBits y.bits)).toBits⟩

/-- The sum, rounded to the nearest double. -/
def add : Double → Double → Double :=
  lift (· + ·)

/-- The difference, rounded to the nearest double. -/
def sub : Double → Double → Double :=
  lift (· - ·)

/-- The product, rounded to the nearest double. -/
def mul : Double → Double → Double :=
  lift (· * ·)

/-- The quotient, rounded to the nearest double. -/
def div : Double → Double → Double :=
  lift (· / ·)

/-- The remainder of the division rounded toward zero; it is exact. -/
def rem (x y : Double) : Double :=
  ofBinary (x.decode.remainder y.decode)

/-- The integral part as an integer of `width` bits; numbers out of range become the nearest end
of the range. -/
def truncate (width : Nat) (x : Double) : Int :=
  x.decode.truncate (-Nat.pow 2 (width - 1)) (Nat.pow 2 (width - 1) - 1)

/-- The exact value of a finite double. -/
def exactDecimal? (x : Double) : Option Decimal :=
  x.decode.exactDecimal?

/-- The nearest single. -/
def toSingle (x : Double) : Single :=
  ⟨UInt32.ofNat (Format.single.ofBinary x.decode)⟩

/-- The shortest digits that read back as the number, and the power of ten of the last. Zero has
one digit. -/
def shortest (tie : Tie) (m : Nat) (e : Int) : List Char × Int :=
  if m = 0 then (['0'], 0)
  else
    let (c, k) := Shortest.digits .double tie m e
    (digits c, k)

/-- A way of writing doubles. -/
structure Style where
  /-- Which of two equally near shortest decimals is written. -/
  tie : Tie
  /-- The least power of ten of a first digit that is written without an exponent. -/
  plainFrom : Int
  /-- The least power of ten above that range. -/
  plainTo : Int
  /-- Whether digits in front of an exponent always have a point among them. -/
  pointed : Bool
  /-- What stands in front of an exponent that is not negative. -/
  mark : List Char
  /-- What stands in front of the magnitude of a negative exponent. -/
  negativeMark : List Char
deriving Repr

namespace Style

/-- The digits `ds` times ten to the power `k` in a style. -/
def render (style : Style) (ds : List Char) (k : Int) : List Char :=
  let power := leadingPower ds k
  if style.plainFrom ≤ power ∧ power < style.plainTo then
    positional ds k ++ (if 0 ≤ k then ['.', '0'] else [])
  else
    mantissa ds ++ (if style.pointed ∧ ds.length = 1 then ['.', '0'] else []) ++
      (if power < 0 then style.negativeMark else style.mark) ++ digits power.natAbs

end Style

/-- The shortest text of a finite double in a style; `none` for the others. -/
def finiteChars? (style : Style) (x : Double) : Option (List Char) :=
  match x.decode with
  | .finite negative m e =>
    let (ds, k) := shortest style.tie m e
    some (minus negative ++ style.render ds k)
  | _ => none

/-- The style of the language: a point is always there, and there is an exponent outside of the
range from a thousandth to ten million. -/
def plainStyle : Style :=
  ⟨.up, -3, 7, true, ['E'], ['E', '-']⟩

/-- A double in writing: the shortest digits that read back. -/
def text (x : Double) : String :=
  match x.decode with
  | .nan .. => "NaN"
  | .infinite negative => if negative then "-Infinity" else "Infinity"
  | .finite .. => String.ofList ((x.finiteChars? plainStyle).getD [])

end Double

namespace Single

/-- The single nearest to a number in writing. -/
def read? (cs : List Char) : Option Single :=
  (Format.single.read? cs).map fun code => ⟨UInt32.ofNat code⟩

/-- What the number's code stands for. -/
def decode (x : Single) : Binary :=
  Format.single.decode x.bits.toNat

/-- The same number in 64 bits; a NaN becomes a quiet one. -/
def toDouble (x : Single) : Double :=
  .ofBinary x.decode

/-- The number with the other sign. -/
def neg (x : Single) : Single :=
  ⟨x.bits ^^^ 0x80000000⟩

end Single

namespace Decimal

/-- An estimate, from the number of bits, of the number of decimal digits of an integer. -/
def estimatedDigits (n : Nat) : Nat :=
  (n.log2 + 1) * 30103 / 100000

/-- Digits are dropped in blocks of this many when there are many more than a double can hold. -/
def blockDigits : Nat := 19

/-- Digits that are never dropped. -/
def keptDigits : Nat := 25

/-- The double nearest to a decimal. Of an integer without a scale all digits count; of other
decimals whole blocks of digits are dropped at the end while enough remain, and a negative scale
is applied by a floating-point product. -/
def toDouble (d : Decimal) : Double :=
  let negative := decide (d.unscaled < 0)
  let n := d.unscaled.natAbs
  if n = 0 then .ofCode 0
  else if d.scale = 0 then .ofInt d.unscaled
  else
    let blocks := (estimatedDigits n - keptDigits) / blockDigits
    let kept := n / Nat.pow 10 (blockDigits * blocks)
    let scale := d.scale - (blockDigits * blocks : Nat)
    let f := Format.double
    if 0 < scale then .ofCode (f.withSign negative (f.roundDecimal kept (-scale)))
    else
      let whole := Double.ofCode (f.withSign negative (f.round kept 1))
      whole.mul (.ofCode (f.roundDecimal 1 (-scale)))

end Decimal

end ExprLang.Number
