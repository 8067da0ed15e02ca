import ValueMethods.Text.Split

/-!
# Moments

A moment in time as text: its day, and the moment itself down to the nanosecond.  Days are counted
in the Gregorian calendar, in universal time.
-/

namespace ValueMethods

/-- A moment, by the time since the beginning of 1970. -/
structure Moment where
  /-- Whole seconds. -/
  seconds : Nat
  /-- Nanoseconds on top of them. -/
  nanoseconds : Nat
  deriving DecidableEq

/-- A day of the calendar. -/
structure CalendarDay where
  /-- The year. -/
  year : Nat
  /-- The month, from 1 on. -/
  month : Nat
  /-- The day of the month, from 1 on. -/
  day : Nat
  deriving DecidableEq

namespace CalendarDay

/-- The day that comes `days` days after the first of March of the year 0.  Years are taken to
begin in March, so a leap day is the last day of its year. -/
def afterMarch (days : Nat) : CalendarDay :=
  let era := days / 146097
  let dayOfEra := days % 146097
  let yearOfEra := (dayOfEra - dayOfEra / 1460 + dayOfEra / 36524 - dayOfEra / 146096) / 365
  let dayOfYear := dayOfEra - (365 * yearOfEra + yearOfEra / 4 - yearOfEra / 100)
  let monthFromMarch := (5 * dayOfYear + 2) / 153
  let month := if monthFromMarch < 10 then monthFromMarch + 3 else monthFromMarch - 9
  { year := era * 400 + yearOfEra + (if month ≤ 2 then 1 else 0)
    month := month
    day := dayOfYear - (153 * monthFromMarch + 2) / 5 + 1 }

/-- The number of days from the first of March of the year 0 to the beginning of 1970. -/
def daysTo1970 : Nat := 719468

end CalendarDay

namespace Moment

/-- A number with zeros in front of it up to a number of digits. -/
def digits (count value : Nat) : String :=
  let text := toString value
  Text.repeated (count - text.length) "0" ++ text

/-- The day of the moment. -/
def calendarDay (moment : Moment) : CalendarDay :=
  CalendarDay.afterMarch (CalendarDay.daysTo1970 + moment.seconds / 86400)

/-- The day as text: year, month and day. -/
def dayText (moment : Moment) : String :=
  let day := moment.calendarDay
  digits 4 day.year ++ "-" ++ digits 2 day.month ++ "-" ++ digits 2 day.day

/-- The fraction of a second as text, in groups of three digits and as short as possible. -/
def fractionText (nanoseconds : Nat) : String :=
  if nanoseconds = 0 then ""
  else if nanoseconds % 1000000 = 0 then "." ++ digits 3 (nanoseconds / 1000000)
  else if nanoseconds % 1000 = 0 then "." ++ digits 6 (nanoseconds / 1000)
  else "." ++ digits 9 nanoseconds

/-- The moment as text. -/
def text (moment : Moment) : String :=
  let second := moment.seconds % 86400
  moment.dayText ++ "T" ++ digits 2 (second / 3600) ++ ":" ++ digits 2 (second / 60 % 60) ++ ":" ++
    digits 2 (second % 60) ++ fractionText moment.nanoseconds ++ "Z"

end Moment

end ValueMethods
