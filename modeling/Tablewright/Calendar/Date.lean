/-! # Calendar dates

Dates of the proleptic Gregorian calendar from the year 1 to 9999, days counted from the first of
January of the year 1, and dates named by week.
-/

namespace Tablewright

/-- Whether the year has a 29th of February. -/
def isLeapYear (year : Nat) : Bool :=
  year % 4 == 0 && (year % 100 != 0 || year % 400 == 0)

/-- The number of days of a month. -/
def daysInMonth (year month : Nat) : Nat :=
  if month = 2 then (if isLeapYear year then 29 else 28)
  else if month = 4 ∨ month = 6 ∨ month = 9 ∨ month = 11 then 30
  else 31

/-- The number of days of a year. -/
def daysInYear (year : Nat) : Nat :=
  if isLeapYear year then 366 else 365

/-- A calendar date. -/
structure Date where
  year : Nat
  month : Nat
  day : Nat
  valid : (1 ≤ year ∧ year ≤ 9999) ∧ (1 ≤ month ∧ month ≤ 12) ∧
    1 ≤ day ∧ day ≤ daysInMonth year month
deriving DecidableEq

namespace Date

/-- The date with the numbers, if there is such a day. -/
def of? (year month day : Nat) : Option Date :=
  if valid : (1 ≤ year ∧ year ≤ 9999) ∧ (1 ≤ month ∧ month ≤ 12) ∧
      1 ≤ day ∧ day ≤ daysInMonth year month then
    some ⟨year, month, day, valid⟩
  else none

theorem of?_fields (date : Date) : of? date.year date.month date.day = some date :=
  dif_pos date.valid

/-- The days from the first of January of the year 1 to that of the year. -/
def daysBeforeYear (year : Nat) : Nat :=
  let past := year - 1
  past * 365 + past / 4 - past / 100 + past / 400

/-- The days of the year before the month. -/
def daysBeforeMonth (year month : Nat) : Nat :=
  (List.range (month - 1)).foldl (fun days index => days + daysInMonth year (index + 1)) 0

/-- The number of the day, where the first of January of the year 1 has the number 1. -/
def ordinal (date : Date) : Nat :=
  daysBeforeYear date.year + daysBeforeMonth date.year date.month + date.day

/-- The month and day of a day of the year, searched from the given month on. -/
def monthDay? (year : Nat) : List Nat → Nat → Option Date
  | [], _ => none
  | month :: later, day =>
    if day ≤ daysInMonth year month then of? year month day
    else monthDay? year later (day - daysInMonth year month)

/-- The date of a day counted from the first of January, which may lie in a neighbouring year. -/
def ofYearDay? (year : Nat) (day : Int) : Option Date :=
  let months := (List.range 12).map (· + 1)
  if day < 1 then monthDay? (year - 1) months (day + daysInYear (year - 1)).toNat
  else if (daysInYear year : Int) < day then
    monthDay? (year + 1) months (day - daysInYear year).toNat
  else monthDay? year months day.toNat

/-- The weekday of the first of January, from 0 for Monday to 6 for Sunday. -/
def newYearWeekday (year : Nat) : Nat :=
  daysBeforeYear year % 7

/-- Whether a year of weeks has 53 of them: it starts on a Thursday, or is a leap year that starts
on a Wednesday. -/
def hasLongWeekYear (year : Nat) : Bool :=
  newYearWeekday year == 3 || (newYearWeekday year == 2 && isLeapYear year)

/-- The date with a week of the year and a weekday. Week 1 holds the first Thursday. -/
def ofWeek? (year week weekday : Nat) : Option Date :=
  if (1 ≤ year ∧ year ≤ 9999) ∧ (1 ≤ week ∧ week ≤ (if hasLongWeekYear year then 53 else 52)) ∧
      1 ≤ weekday ∧ weekday ≤ 7 then
    let weekdayOfFirst : Int := newYearWeekday year
    let monday := if 3 < weekdayOfFirst then 8 - weekdayOfFirst else 1 - weekdayOfFirst
    ofYearDay? year (monday + 7 * (week - 1) + (weekday - 1))
  else none

end Date

end Tablewright
