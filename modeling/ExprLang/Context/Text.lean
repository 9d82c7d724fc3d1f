import ExprLang.Context

/-!
# Contexts as texts

Contexts and snapshots are written out for developers.
-/

namespace ExprLang

/-- Named values for developers. -/
def Bindings.debugText (b : Bindings Value) : String :=
  let entry := fun (e : String × Value) => Value.quoted e.1 ++ ": " ++ e.2.debugText
  "\x7b" ++ ", ".intercalate (b.map entry) ++ "\x7d"

/-- A truth value for developers. -/
def boolText (b : Bool) : String :=
  if b then "true" else "false"

/-- A decision that may be open, for developers. -/
def decisionText : Option Bool → String
  | some b => "Some(" ++ boolText b ++ ")"
  | none => "None"

/-- A context for developers, where `resolved` is the flag that lookups leave. -/
def Context.debugText (ctx : Context) (resolved : Bool) : String :=
  "EvalContext \x7b variables: " ++ ctx.bindings.debugText ++
    ", lambda_scopes: [" ++ ", ".intercalate (ctx.scopes.reverse.map Bindings.debugText) ++
    "], property_resolved: " ++ boolText resolved ++
    ", has_resolver: " ++ boolText ctx.environment.resolver.isSome ++
    ", coerce_to_zero: " ++ decisionText ctx.environment.coerceToZero ++ " \x7d"

/-- A snapshot for developers. -/
def SnapshotOf.debugText (s : Snapshot) : String :=
  "BoundContext \x7b variables: " ++ Bindings.debugText s.bindings ++
    ", arguments: " ++ Bindings.debugText s.arguments ++ " \x7d"

end ExprLang
