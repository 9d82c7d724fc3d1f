/-!
# Stretches of code points

The tables of the general categories are made of stretches. The cases of a letter often alternate, so
that a stretch may hold every second code point only.
-/

namespace ExprLang.Text.Category

/-- The code points `first`, `first + step`, … up to `last`. -/
structure Stretch where
  first : Nat
  last : Nat
  step : Nat

/-- Whether the stretch holds a code point. -/
def Stretch.holds (s : Stretch) (code : Nat) : Bool :=
  s.first ≤ code && code ≤ s.last && (code - s.first) % s.step == 0

end ExprLang.Text.Category
