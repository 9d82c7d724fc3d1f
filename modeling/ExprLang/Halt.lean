/-!
# Bounded computations

Why a computation with a bound on its steps gave no result.
-/

namespace ExprLang

/-- The computation failed by itself, or it ran into its bound. -/
inductive Halt (ε : Type) where
  | error (e : ε)
  | exhausted
deriving DecidableEq, Repr, Inhabited

end ExprLang
