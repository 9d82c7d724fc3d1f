import ExprLang.Expr

/-!
# Templates

A template is literal text with expressions in it.
-/

namespace ExprLang

/-- How the expressions of a template are introduced. -/
inductive EvalMode where
  /-- `${…}`, evaluated at once. -/
  | dynamic
  /-- `#{…}`, left to the consumer. -/
  | deferred
deriving DecidableEq, Repr, Inhabited

/-- A piece of a template. -/
inductive TemplatePart where
  /-- Literal text, escapes resolved. -/
  | text (s : String)
  | expression (e : Expr)
deriving Repr, Inhabited, BEq

/-- A template. All its expressions are introduced in one way; `mode` is that way, or `none` if
there is no expression. -/
structure Template where
  parts : List TemplatePart
  mode : Option EvalMode
deriving Repr, Inhabited, BEq

namespace Template

/-- A bare expression as a template of its own. -/
def ofExpr (e : Expr) : Template :=
  ⟨[.expression e], some .dynamic⟩

/-- Whether the template is text only. -/
def isLiteralText (t : Template) : Bool :=
  t.mode.isNone

/-- Whether the expressions of the template are left to the consumer. -/
def isDeferred (t : Template) : Bool :=
  t.mode == some .deferred

/-- The expression of a template that is nothing else. -/
def singleExpression? (t : Template) : Option Expr :=
  match t.parts with
  | [.expression e] => some e
  | _ => none

end Template

end ExprLang
