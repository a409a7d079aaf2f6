import Tablewright.Calendar.Date

/-! # Times and date-times

A date-time is a date and a time of day to the microsecond, with or without its distance from
universal time. Date-times that know their distance are compared as instants.
-/

namespace Tablewright

/-- A time of day. -/
structure TimeOfDay where
  hour : Nat
  minute : Nat
  second : Nat
  microsecond : Nat
  valid : hour < 24 ∧ minute < 60 ∧ second < 60 ∧ microsecond < 1000000
deriving DecidableEq

namespace TimeOfDay

/-- The time of day with the numbers, if there is one. -/
def of? (hour minute second microsecond : Nat) : Option TimeOfDay :=
  if valid : hour < 24 ∧ minute < 60 ∧ second < 60 ∧ microsecond < 1000000 then
    some ⟨hour, minute, second, microsecond, valid⟩
  else none

theorem of?_fields (time : TimeOfDay) :
    of? time.hour time.minute time.second time.microsecond = some time :=
  dif_pos time.valid

/-- The start of the day. -/
def midnight : TimeOfDay :=
  ⟨0, 0, 0, 0, by decide⟩

/-- The microseconds since the start of the day. -/
def microseconds (time : TimeOfDay) : Nat :=
  ((time.hour * 60 + time.minute) * 60 + time.second) * 1000000 + time.microsecond

/-- The time without its fraction of a second. -/
def wholeSecond (time : TimeOfDay) : TimeOfDay :=
  { time with
    microsecond := 0
    valid := ⟨time.valid.1, time.valid.2.1, time.valid.2.2.1, by decide⟩ }

end TimeOfDay

/-- The microseconds of a day. -/
def microsecondsPerDay : Nat := 86400000000

/-- A distance from universal time of less than a day either way. -/
structure UtcOffset where
  microseconds : Int
  valid : -(microsecondsPerDay : Int) < microseconds ∧ microseconds < microsecondsPerDay
deriving DecidableEq

namespace UtcOffset

/-- The offset of so many microseconds, if that is less than a day. -/
def of? (microseconds : Int) : Option UtcOffset :=
  if valid : -(microsecondsPerDay : Int) < microseconds ∧ microseconds < microsecondsPerDay then
    some ⟨microseconds, valid⟩
  else none

theorem of?_microseconds (offset : UtcOffset) : of? offset.microseconds = some offset :=
  dif_pos offset.valid

/-- Universal time itself. -/
def utc : UtcOffset :=
  ⟨0, by decide⟩

end UtcOffset

/-- A date and a time of day, with the offset from universal time if it is known. -/
structure DateTime where
  date : Date
  time : TimeOfDay
  offset : Option UtcOffset
deriving DecidableEq

namespace DateTime

/-- The date-time without its fraction of a second. -/
def wholeSecond (moment : DateTime) : DateTime :=
  { moment with time := moment.time.wholeSecond }

/-- The microseconds since the start of the year 1, in universal time if the offset is known. -/
def instant (moment : DateTime) : Int :=
  (moment.date.ordinal * microsecondsPerDay + moment.time.microseconds : Nat) -
    (moment.offset.map (·.microseconds)).getD 0

/-- Whether two date-times are the same moment; one with an offset never equals one without. -/
def same (left right : DateTime) : Bool :=
  left.offset.isSome == right.offset.isSome && left.instant == right.instant

end DateTime

end Tablewright
