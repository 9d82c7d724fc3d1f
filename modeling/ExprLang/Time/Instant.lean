import ExprLang.Time.Calendar

/-!
# Instants and their offsets

An instant counts seconds from the start of 1970 and nanoseconds within the second; during a leap
second the nanoseconds go on beyond a billion.
-/

namespace ExprLang.Time

/-- A point in time. -/
structure Instant where
  seconds : Int
  nanos : Nat
deriving DecidableEq, Repr, Inhabited

/-- A point in time together with the offset, in seconds east of UTC, at which it is written. -/
structure OffsetInstant where
  instant : Instant
  offset : Int
deriving DecidableEq, Repr, Inhabited

/-- Nanoseconds in a second. -/
def nanosPerSecond : Nat := 1000000000

/-- Nanoseconds in a millisecond. -/
def nanosPerMilli : Nat := 1000000

/-- Seconds in a day. -/
def secondsPerDay : Int := 86400

namespace Instant

/-- The order of time; a leap second comes after the second it follows. -/
def compareTime (a b : Instant) : Ordering :=
  (compare a.seconds b.seconds).then (compare a.nanos b.nanos)

/-- Milliseconds since the start of 1970, rounded down. -/
def millis (t : Instant) : Int :=
  t.seconds * 1000 + (t.nanos / nanosPerMilli : Nat)

/-- The instant a number of milliseconds after the start of 1970. -/
def ofMillis (n : Int) : Instant :=
  ⟨n / 1000, (n % 1000).toNat * nanosPerMilli⟩

/-- The instant without what goes beyond its milliseconds. -/
def truncateToMillis (t : Instant) : Instant :=
  ofMillis t.millis

end Instant

end ExprLang.Time
