import Tablewright.Calendar.DateTime

/-! # Dates and times as text

The international format: year, month and day with hyphens, a separator, the time with colons and a
fraction only if there is one, and the offset from universal time. The reader takes more than is
written: dates by week, dates and times without separators, any separator between date and time,
and fractions of any length. A single character between a time and its offset is passed over.
-/

namespace Tablewright

/-- The last `width` decimal digits of a number, padded with zeros. -/
def paddedDigits : Nat → Nat → List Char
  | 0, _ => []
  | width + 1, value => paddedDigits width (value / 10) ++ [Nat.digitChar (value % 10)]

theorem length_paddedDigits (width value : Nat) : (paddedDigits width value).length = width := by
  induction width generalizing value with
  | zero => rfl
  | succ width ih => simp [paddedDigits, ih]

/-- The value of an ASCII digit. -/
def asciiDigit? (char : Char) : Option Nat :=
  if '0' ≤ char ∧ char ≤ '9' then some (char.toNat - 48) else none

/-- Reads exactly `count` ASCII digits as a number that continues the given one. -/
def takeDigits? : Nat → Nat → List Char → Option (Nat × List Char)
  | 0, total, chars => some (total, chars)
  | _ + 1, _, [] => none
  | count + 1, total, char :: rest => do
    let digit ← asciiDigit? char
    takeDigits? count (total * 10 + digit) rest

namespace Date

/-- The date as year, month and day with hyphens. -/
def isoChars (date : Date) : List Char :=
  paddedDigits 4 date.year ++ '-' :: paddedDigits 2 date.month ++ '-' :: paddedDigits 2 date.day

/-- The text of the date. -/
def text (date : Date) : String :=
  String.ofList date.isoChars

/-- Reads the rest of a date by week, after the letter W; the weekday is Monday if none follows. -/
def readWeek? (year : Nat) (separated : Bool) (chars : List Char) : Option Date := do
  let (week, rest) ← takeDigits? 2 0 chars
  match rest with
  | [] => ofWeek? year week 1
  | mark :: after =>
    if separated && mark != '-' then none
    else
      let (weekday, _) ← takeDigits? 1 0 (if separated then after else rest)
      ofWeek? year week weekday

/-- Reads a date, with or without hyphens, by month or by week. -/
def readIso? (chars : List Char) : Option Date := do
  let (year, rest) ← takeDigits? 4 0 chars
  let (separated, rest) := match rest with
    | '-' :: after => (true, after)
    | _ => (false, rest)
  match rest with
  | 'W' :: after => readWeek? year separated after
  | _ =>
    let (month, rest) ← takeDigits? 2 0 rest
    let rest ← if separated then
        match rest with
        | '-' :: after => some after
        | _ => none
      else some rest
    let (day, _) ← takeDigits? 2 0 rest
    of? year month day

/-- How many characters at the front of a date-time are its date. -/
def isoLength (chars : List Char) : Nat :=
  let isDigitAt (index : Nat) : Bool := (chars[index]?.bind asciiDigit?).isSome
  if chars.length = 7 then 7
  else if chars[4]? = some '-' then
    if chars[5]? = some 'W' then
      if chars[8]? = some '-' then (if isDigitAt 10 then 8 else 10) else 8
    else 10
  else if chars[4]? = some 'W' then
    let digits := ((chars.drop 7).takeWhile fun char => (asciiDigit? char).isSome).length
    if digits < 2 then 7 + digits else if digits % 2 = 1 then 7 else 8
  else 8

end Date

namespace TimeOfDay

/-- The fraction of a second with its point, if there is one. -/
def fractionChars (microsecond : Nat) : List Char :=
  if microsecond = 0 then [] else '.' :: paddedDigits 6 microsecond

/-- Hours, minutes and seconds with colons, and the fraction if there is one. -/
def isoChars (time : TimeOfDay) : List Char :=
  paddedDigits 2 time.hour ++ ':' :: paddedDigits 2 time.minute ++ ':' ::
    paddedDigits 2 time.second ++ fractionChars time.microsecond

/-- The numbers of a time as they are read, and whether nothing was left over. -/
structure Reading where
  hour : Nat
  minute : Nat
  second : Nat
  microsecond : Nat
  complete : Bool

/-- Whether nothing is left over; the null character counts as the end. -/
def isAtEnd (chars : List Char) : Bool :=
  (chars.head?.map fun char => char == '\x00').getD true

/-- Reads the digits of a fraction; those after the sixth do not count. -/
def readFraction? (chars : List Char) : Option (Nat × Bool) := do
  let count := min 6 chars.length
  let (value, rest) ← takeDigits? count 0 chars
  let unread := rest.dropWhile fun char => (asciiDigit? char).isSome
  some (value * Nat.pow 10 (6 - count), isAtEnd unread)

/-- Reads up to `count` components of two digits and a fraction. The first mark decides whether
colons separate the components. -/
def readComponents? : Nat → Option Bool → List Char → Option (List Nat × Nat × Bool)
  | 0, _, chars => do
    let (microsecond, complete) ← readFraction? chars
    some ([], microsecond, complete)
  | count + 1, separated?, chars => do
    let (value, rest) ← takeDigits? 2 0 chars
    match rest with
    | [] => some ([value], 0, true)
    | [mark] => if mark.toNat < 128 then some ([value], 0, isAtEnd rest) else none
    | mark :: after =>
      let separated := separated?.getD (mark == ':')
      if separated && mark == ':' then
        let (values, last) ← readComponents? count (some separated) after
        some (value :: values, last)
      else if mark == '.' || mark == ',' then
        let (microsecond, complete) ← readFraction? after
        some ([value], microsecond, complete)
      else if separated then none
      else
        let (values, last) ← readComponents? count (some separated) rest
        some (value :: values, last)

/-- Reads hours, and minutes and seconds if they follow. -/
def read? (chars : List Char) : Option Reading := do
  let (values, microsecond, complete) ← readComponents? 3 none chars
  some ⟨values[0]?.getD 0, values[1]?.getD 0, values[2]?.getD 0, microsecond, complete⟩

end TimeOfDay

namespace UtcOffset

/-- The sign, hours and minutes, and the seconds and their fraction if there are any. -/
def isoChars (offset : UtcOffset) : List Char :=
  let total := offset.microseconds.natAbs
  let microsecond := total % 1000000
  let seconds := total / 1000000
  (if offset.microseconds < 0 then '-' else '+') :: paddedDigits 2 (seconds / 3600) ++
    ':' :: paddedDigits 2 (seconds / 60 % 60) ++
    (if total % 60000000 = 0 then []
      else ':' :: paddedDigits 2 (seconds % 60) ++ TimeOfDay.fractionChars microsecond)

/-- The offset that a reading stands for; one of no whole second is universal time. -/
def ofReading? (negative : Bool) (reading : TimeOfDay.Reading) : Option UtcOffset :=
  let seconds := reading.hour * 3600 + reading.minute * 60 + reading.second
  let total : Int := seconds * 1000000 + reading.microsecond
  if seconds = 0 then some utc else of? (if negative then -total else total)

end UtcOffset

namespace DateTime

/-- Whether the character starts the offset of a time. -/
def startsOffset (char : Char) : Bool :=
  char == '+' || char == '-' || char == 'Z'

/-- The date and the time with a separator between, and the offset if it is known. -/
def isoChars (separator : Char) (moment : DateTime) : List Char :=
  moment.date.isoChars ++ separator :: moment.time.isoChars ++
    (moment.offset.map UtcOffset.isoChars).getD []

/-- The text with a letter T between date and time. -/
def isoText (moment : DateTime) : String :=
  String.ofList (moment.isoChars 'T')

/-- The text with a space between date and time. -/
def text (moment : DateTime) : String :=
  String.ofList (moment.isoChars ' ')

/-- Reads the time and the offset that follow a date. -/
def readTime? (date : Date) (chars : List Char) : Option DateTime := do
  let reading ← TimeOfDay.read? (chars.takeWhile fun char => !startsOffset char)
  let time := TimeOfDay.of? reading.hour reading.minute reading.second reading.microsecond
  match chars.dropWhile fun char => !startsOffset char with
  | [] => if reading.complete then some ⟨date, ← time, none⟩ else none
  | 'Z' :: after => if TimeOfDay.isAtEnd after then some ⟨date, ← time, some .utc⟩ else none
  | sign :: after =>
    let distance ← TimeOfDay.read? after
    if distance.complete then
      let offset ← UtcOffset.ofReading? (sign == '-') distance
      some ⟨date, ← time, some offset⟩
    else none

/-- Reads a date-time; a date alone stands for its midnight. -/
def readIso? (text : String) : Option DateTime := do
  let chars := text.toList
  let length := Date.isoLength chars
  let date ← Date.readIso? (chars.take length)
  match chars.drop length with
  | [] => some ⟨date, .midnight, none⟩
  | _ :: after => readTime? date after

end DateTime

end Tablewright
