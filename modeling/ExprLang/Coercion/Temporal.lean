import ExprLang.Host
import ExprLang.Text.Blank

/-!
# Points in time

Times are points in time already, a clock is the one it shows, and a text is read as one.
-/

namespace ExprLang.Coercion

open Time (Instant OffsetInstant)

/-- A time, a clock or a text as a point in time, where `now` is what the system's clock shows. -/
def instantOf (now : Instant) : Value → Except EvalError Instant
  | .instant t => .ok t
  | .date t => .ok t
  | .temporal t => .ok t.instant
  | .clock c => .ok (c.reading.getD now)
  | .string s =>
    match OffsetInstant.read? (Text.trimChars s.toList) with
    | some t => .ok t.instant
    | none => .error (.conversion s "String" "Instant")
  | v => .error (.conversion v.text v.kindName "Instant")

/-- The same to the millisecond. -/
def dateOf (now : Instant) (v : Value) : Except EvalError Instant :=
  (instantOf now v).map Instant.truncateToMillis

end ExprLang.Coercion
