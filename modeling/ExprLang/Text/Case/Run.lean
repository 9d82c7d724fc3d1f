/-!
# Rows of case forms

The tables of upper-case and lower-case forms are made of rows, in which the forms stand at one distance
from their characters.
-/

namespace ExprLang.Text.Case

/-- The code points `first`, `first + step`, … up to `last`, each mapped to itself plus
`offset`. -/
structure Run where
  first : Nat
  last : Nat
  step : Nat
  offset : Int

/-- The code point that the row gives `code`, if the row holds it. -/
def Run.form? (r : Run) (code : Nat) : Option Nat :=
  if r.first ≤ code ∧ code ≤ r.last ∧ (code - r.first) % r.step = 0 then
    some (code + r.offset).toNat
  else
    none

/-- The code point to which the row gives the form `code`, if there is one. -/
def Run.source? (r : Run) (code : Nat) : Option Nat :=
  let source := (code - r.offset : Int).toNat
  if r.form? source = some code then some source else none

end ExprLang.Text.Case
