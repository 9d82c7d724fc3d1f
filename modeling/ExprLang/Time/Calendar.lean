/-!
# The calendar

The Gregorian calendar, carried on in both directions, with days counted from the first of
January 1970.
-/

namespace ExprLang.Time

/-- A day of the calendar. -/
structure CalendarDate where
  year : Int
  month : Nat
  day : Nat
deriving DecidableEq, Repr, Inhabited

/-- Whether a year has a leap day. -/
def isLeapYear (year : Int) : Bool :=
  year % 4 == 0 && (year % 100 != 0 || year % 400 == 0)

/-- The number of days in a month. -/
def daysInMonth (year : Int) (month : Nat) : Nat :=
  match month with
  | 2 => if isLeapYear year then 29 else 28
  | 4 | 6 | 9 | 11 => 30
  | _ => 31

/-- Years that begin with March: a leap day is then the last day of its year, and the months
before any given one have the same number of days in every year. -/
def daysBeforeMonth (monthFromMarch : Int) : Int :=
  (153 * monthFromMarch + 2) / 5

/-- The days from the first of March of year 0 to the first of March of a year. -/
def daysBeforeYear (year : Int) : Int :=
  365 * year + year / 4 - year / 100 + year / 400

/-- The days from the first of March of year 0 to the first of January 1970. -/
def epochDay : Int := 719468

namespace CalendarDate

/-- Whether the month and the day exist. -/
def isValid (d : CalendarDate) : Bool :=
  1 ≤ d.month && d.month ≤ 12 && 1 ≤ d.day && d.day ≤ daysInMonth d.year d.month

/-- The number of a day. -/
def toDay (d : CalendarDate) : Int :=
  let year := if d.month ≤ 2 then d.year - 1 else d.year
  let month : Int := (d.month + 9) % 12
  daysBeforeYear year + daysBeforeMonth month + (d.day - 1) - epochDay

/-- The date of a numbered day. Four hundred years have always the same number of days; within
them the year is estimated from the days and the leap days that have passed. -/
def ofDay (n : Int) : CalendarDate :=
  let sinceMarch := n + epochDay
  let era := sinceMarch / 146097
  let dayOfEra := sinceMarch % 146097
  let yearOfEra :=
    (dayOfEra - dayOfEra / 1460 + dayOfEra / 36524 - dayOfEra / 146096) / 365
  let dayOfYear := dayOfEra - daysBeforeYear yearOfEra
  let monthFromMarch := (5 * dayOfYear + 2) / 153
  let day := dayOfYear - daysBeforeMonth monthFromMarch + 1
  let month := if monthFromMarch < 10 then monthFromMarch + 3 else monthFromMarch - 9
  let year := yearOfEra + 400 * era + (if month ≤ 2 then 1 else 0)
  ⟨year, month.toNat, day.toNat⟩

end CalendarDate

end ExprLang.Time
