import ExprLang.Number.Integer
import ExprLang.Time.Instant

/-!
# Times in writing

Times are written after RFC 3339: `2024-03-01T12:00:00.5+02:00`.
-/

namespace ExprLang.Time

open Number (digits readDigits?)

/-! ### Writing -/

/-- A number with at least `width` digits. -/
def padded (width n : Nat) : List Char :=
  List.replicate (width - (digits n).length) '0' ++ digits n

/-- A year: four digits, with a sign in front if it is negative or needs more. -/
def yearChars (year : Int) : List Char :=
  if 0 ≤ year ∧ year ≤ 9999 then padded 4 year.toNat
  else (if year < 0 then '-' else '+') :: padded 4 year.natAbs

/-- How many places after the seconds are written. -/
inductive FractionStyle where
  /-- None, three, six or nine, the fewest that are exact. -/
  | shortest
  /-- Always three. -/
  | millis
deriving DecidableEq, Repr

/-- The places after the seconds, with their point. -/
def fractionChars (style : FractionStyle) (nanos : Nat) : List Char :=
  match style with
  | .millis => '.' :: padded 3 (nanos / 1000000)
  | .shortest =>
    if nanos = 0 then []
    else if nanos % 1000000 = 0 then '.' :: padded 3 (nanos / 1000000)
    else if nanos % 1000 = 0 then '.' :: padded 6 (nanos / 1000)
    else '.' :: padded 9 nanos

/-- An offset from UTC in hours and minutes. -/
def offsetChars (offset : Int) : List Char :=
  let minutes := offset.natAbs / 60
  (if offset < 0 then '-' else '+') :: (padded 2 (minutes / 60) ++ ':' :: padded 2 (minutes % 60))

/-- Date and time of day of an instant at an offset; the second 60 is a leap second. -/
def localChars (style : FractionStyle) (t : Instant) (offset : Int) : List Char :=
  let seconds := t.seconds + offset
  let date := CalendarDate.ofDay (seconds / secondsPerDay)
  let ofDay := (seconds % secondsPerDay).toNat
  let leap := t.nanos / nanosPerSecond
  yearChars date.year ++ '-' :: (padded 2 date.month ++ '-' :: (padded 2 date.day ++ 'T' ::
    (padded 2 (ofDay / 3600) ++ ':' :: (padded 2 (ofDay / 60 % 60) ++ ':' ::
      (padded 2 (ofDay % 60 + leap) ++ fractionChars style (t.nanos % nanosPerSecond))))))

/-- An instant in UTC. -/
def Instant.textWith (style : FractionStyle) (t : Instant) : String :=
  String.ofList (localChars style t 0 ++ ['Z'])

/-- An instant in UTC with the fewest places that are exact. -/
def Instant.text : Instant → String :=
  Instant.textWith .shortest

/-- An instant in UTC to the millisecond. -/
def Instant.milliText : Instant → String :=
  Instant.textWith .millis

/-- A time at its own offset. -/
def OffsetInstant.text (t : OffsetInstant) : String :=
  String.ofList (localChars .shortest t.instant t.offset ++ offsetChars t.offset)

/-! ### Reading -/

/-- Reads a number of exactly `width` digits. -/
def takeNumber? (width : Nat) (cs : List Char) : Option (Nat × List Char) := do
  guard (width ≤ cs.length)
  let n ← readDigits? (cs.take width)
  return (n, cs.drop width)

/-- Passes one of some characters. -/
def passOne? (p : Char → Bool) : List Char → Option (List Char)
  | c :: cs => if p c then some cs else none
  | [] => none

/-- Reads the places after the seconds, if there is a point; those past the ninth are dropped. -/
def takeFraction? : List Char → Option (Nat × List Char)
  | '.' :: cs => do
    let ds := cs.takeWhile Text.isDigit
    guard (!ds.isEmpty)
    let kept := ds.take 9
    return (Number.valueOf kept * Nat.pow 10 (9 - kept.length), cs.drop ds.length)
  | cs => some (0, cs)

/-- Reads an offset from UTC: `Z`, or a sign, hours, a colon and minutes. -/
def takeOffset? : List Char → Option (Int × List Char)
  | [] => none
  | c :: cs =>
    if c = 'Z' ∨ c = 'z' then some (0, cs)
    else do
      guard (c == '+' || c == '-' || c == '\u2212')
      let (hours, cs) ← takeNumber? 2 cs
      let cs ← passOne? (· == ':') cs
      let (minutes, cs) ← takeNumber? 2 cs
      guard (hours < 24 && minutes < 60)
      return (Number.signed (c != '+') (hours * 3600 + minutes * 60), cs)

/-- Reads a date and a time of day with its offset. A second of 60 is taken for a leap second. -/
def OffsetInstant.read? (cs : List Char) : Option OffsetInstant := do
  let (year, cs) ← takeNumber? 4 cs
  let cs ← passOne? (· == '-') cs
  let (month, cs) ← takeNumber? 2 cs
  let cs ← passOne? (· == '-') cs
  let (day, cs) ← takeNumber? 2 cs
  let cs ← passOne? (fun c => c == 'T' || c == 't' || c == ' ') cs
  let (hour, cs) ← takeNumber? 2 cs
  let cs ← passOne? (· == ':') cs
  let (minute, cs) ← takeNumber? 2 cs
  let cs ← passOne? (· == ':') cs
  let (second, cs) ← takeNumber? 2 cs
  let (nanos, cs) ← takeFraction? cs
  let (offset, cs) ← takeOffset? cs
  let date : CalendarDate := ⟨year, month, day⟩
  guard (cs.isEmpty && date.isValid && hour < 24 && minute < 60 && second ≤ 60)
  let leap := second / 60
  let ofDay : Nat := hour * 3600 + minute * 60 + (second - leap)
  return ⟨⟨date.toDay * secondsPerDay + ofDay - offset, nanos + leap * nanosPerSecond⟩, offset⟩

end ExprLang.Time
