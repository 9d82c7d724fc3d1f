import ExprLang.Evaluation
import ExprLang.Template.Parser

/-!
# Compiled expressions

A text is read once, as a template or as a bare expression, and evaluated as often as needed.
-/

namespace ExprLang

/-- A text that has been read, with its template. -/
structure Expression where
  source : String
  template : Template
deriving Repr, Inhabited

namespace Expression

/-- Reads a template. -/
def compile (source : String) : Except (Halt ParseError) Expression :=
  return ⟨source, ← Template.parse source⟩

/-- Reads a bare expression. -/
def compileStandalone (source : String) : Except (Halt ParseError) Expression :=
  return ⟨source, .ofExpr (← Expr.parse source)⟩

variable {σ : Type}

/-- The value of the expression. -/
def evaluate (e : Expression) (host : Host σ) : EvalM σ Value :=
  e.template.eval host

/-- The value of the expression, converted to a type. -/
def evaluateAs (e : Expression) (host : Host σ) (t : ValueType) : EvalM σ Value := do
  let v ← e.evaluate host
  Eval.within fun ctx => Coercion.toType host ctx t v

end Expression

end ExprLang
