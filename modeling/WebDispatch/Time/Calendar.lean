/-!
# Calendar

Dates of the Gregorian calendar, extended to all years, and the number of days between them.  The
count of days starts the year in March, so that the leap day is the last of its year, and repeats
after 400 years.
-/

namespace WebDispatch

/-- A date. -/
structure Date where
  /-- The year; the year before the year one is zero. -/
  year : Int
  /-- The month, from one to twelve. -/
  month : Nat
  /-- The day of the month, from one. -/
  day : Nat
  deriving DecidableEq, Repr

namespace Date

/-- Whether a year has a leap day. -/
def isLeap (year : Int) : Bool :=
  year % 4 == 0 && (year % 100 != 0 || year % 400 == 0)

/-- The number of days of a month. -/
def daysInMonth (year : Int) (month : Nat) : Nat :=
  if month = 2 then if isLeap year then 29 else 28
  else if month = 4 ∨ month = 6 ∨ month = 9 ∨ month = 11 then 30
  else 31

/-- Whether a date is in the calendar. -/
def isValid (date : Date) : Bool :=
  1 ≤ date.month && date.month ≤ 12 && 1 ≤ date.day &&
    date.day ≤ daysInMonth date.year date.month

/-- The number of days from the first of March to the first of a month, where months are counted
from March. -/
def daysBeforeMonth (month : Nat) : Nat := (153 * month + 2) / 5

/-- The number of days from the first of March of the year zero to the first of January 1970. -/
def epoch : Int := 719468

/-- The number of days since the first of January 1970. -/
def toDays (date : Date) : Int :=
  let year := if date.month ≤ 2 then date.year - 1 else date.year
  let month := (date.month + 9) % 12
  365 * year + year / 4 - year / 100 + year / 400 +
    (daysBeforeMonth month + date.day : Nat) - 1 - epoch

/-- The year of a day of a period of 400 years, where days and years are counted from zero. -/
def yearOfPeriod (day : Nat) : Nat :=
  (day - day / 1460 + day / 36524 - day / 146096) / 365

/-- The date of a number of days since the first of January 1970. -/
def ofDays (days : Int) : Date :=
  let count := days + epoch
  let period := count / 146097
  let day := (count % 146097).toNat
  let year := yearOfPeriod day
  let dayOfYear := day - (365 * year + year / 4 - year / 100)
  let month := (5 * dayOfYear + 2) / 153
  { year := period * 400 + year + if month ≥ 10 then 1 else 0
    month := if month ≥ 10 then month - 9 else month + 3
    day := dayOfYear - daysBeforeMonth month + 1 }

/-- The day of the week of a number of days since the first of January 1970, counted from Monday. -/
def weekdayOfDays (days : Int) : Nat := ((days + 3) % 7).toNat

/-- The day of the week, counted from Monday. -/
def weekday (date : Date) : Nat := weekdayOfDays date.toDays

end Date

/-- A point in time. -/
structure Instant where
  /-- The number of whole seconds since the start of 1970. -/
  seconds : Int
  /-- The nanoseconds on top; a billion and more within a leap second. -/
  nanoseconds : Nat := 0
  deriving DecidableEq, Repr

namespace Instant

/-- The number of seconds of a day. -/
def secondsPerDay : Int := 86400

/-- The first year that instants are counted in. -/
def firstYear : Int := -262143

/-- The last year that instants are counted in. -/
def lastYear : Int := 262142

/-- Whether a number of seconds lies in the years that instants are counted in. -/
def isRepresentable (seconds : Int) : Bool :=
  (Date.mk firstYear 1 1).toDays * secondsPerDay ≤ seconds &&
    seconds < (Date.mk (lastYear + 1) 1 1).toDays * secondsPerDay

/-- The instant of a number of seconds since the start of 1970. -/
def ofSeconds? (seconds : Int) : Option Instant :=
  if isRepresentable seconds then some { seconds } else none

/-- The date of an instant. -/
def date (instant : Instant) : Date := Date.ofDays (instant.seconds / secondsPerDay)

/-- The number of whole seconds since midnight. -/
def secondOfDay (instant : Instant) : Nat := (instant.seconds % secondsPerDay).toNat

end Instant
end WebDispatch
