import Mathlib.Data.List.TakeWhile
import Mathlib.Tactic.IntervalCases
import Tablewright.Calendar.Iso

/-! # Moments are read as they are written

The reader of dates and times takes many forms. The form that is written is one of them: a moment is
read back, whatever character separates its date from its time, whether or not it has a fraction of
a second, and whether or not its distance from universal time is known. It is read as itself, with
one exception: a distance of a fraction of a second alone is lost, and universal time is read.
-/

namespace Tablewright

/-! ## Digits -/

/-- What is known of the character of a decimal digit. -/
theorem digitChar_known {digit : Nat} (small : digit < 10) :
    asciiDigit? (Nat.digitChar digit) = some digit ∧ Nat.digitChar digit ≠ 'W' ∧
      DateTime.startsOffset (Nat.digitChar digit) = false := by
  interval_cases digit <;> decide

/-- Digits can be read in two parts. -/
theorem takeDigits?_add (first second total : Nat) (chars : List Char) :
    takeDigits? (first + second) total chars =
      (takeDigits? first total chars).bind fun (read, rest) => takeDigits? second read rest := by
  induction first generalizing total chars with
  | zero => rw [Nat.zero_add, takeDigits?, Option.bind_some]
  | succ first ih =>
    rw [Nat.succ_add]
    cases chars with
    | nil => rfl
    | cons char rest =>
      rw [takeDigits?, takeDigits?]
      cases asciiDigit? char with
      | none => rfl
      | some digit => exact ih _ rest

/-- A number that fits its digits is read back, and what follows is left. -/
theorem takeDigits?_paddedDigits {width value : Nat} (fits : value < 10 ^ width) (total : Nat)
    (rest : List Char) :
    takeDigits? width total (paddedDigits width value ++ rest) =
      some (total * 10 ^ width + value, rest) := by
  induction width generalizing value rest with
  | zero =>
    obtain rfl : value = 0 := by omega
    simp [paddedDigits, takeDigits?]
  | succ width ih =>
    have higher : value / 10 < 10 ^ width := by
      rw [Nat.div_lt_iff_lt_mul (by decide), ← Nat.pow_succ]
      exact fits
    have last := (digitChar_known (Nat.mod_lt value (by decide : 0 < 10))).1
    have whole : (total * 10 ^ width + value / 10) * 10 + value % 10 =
        total * 10 ^ (width + 1) + value := by
      rw [Nat.pow_succ, ← Nat.mul_assoc]
      omega
    rw [paddedDigits, List.append_assoc, takeDigits?_add, ih higher]
    simp [takeDigits?, last, whole]

theorem mem_paddedDigits {width value : Nat} {char : Char}
    (member : char ∈ paddedDigits width value) : ∃ digit < 10, char = Nat.digitChar digit := by
  induction width generalizing value with
  | zero => cases member
  | succ width ih =>
    rcases List.mem_append.mp member with earlier | last
    · exact ih earlier
    · exact ⟨_, Nat.mod_lt _ (by decide), List.mem_singleton.mp last⟩

/-- The digits of a number of at least one digit begin with one. -/
theorem paddedDigits_succ (width value : Nat) :
    ∃ digit rest, digit < 10 ∧ paddedDigits (width + 1) value = Nat.digitChar digit :: rest := by
  have positive : (paddedDigits (width + 1) value).length ≠ 0 := by simp [length_paddedDigits]
  obtain ⟨first, rest, same⟩ := List.exists_cons_of_length_pos (Nat.pos_of_ne_zero positive)
  obtain ⟨digit, small, rfl⟩ := mem_paddedDigits (same ▸ List.mem_cons_self)
  exact ⟨digit, rest, small, same⟩

/-! ## Dates -/

namespace Date

theorem length_isoChars (date : Date) : date.isoChars.length = 10 := by
  simp [isoChars, length_paddedDigits]

/-- A date is read as it is written. -/
theorem readIso?_isoChars (date : Date) : readIso? date.isoChars = some date := by
  obtain ⟨⟨-, year⟩, ⟨-, month⟩, -, day⟩ := date.valid
  have shortest : daysInMonth date.year date.month ≤ 31 := by
    unfold daysInMonth
    split_ifs <;> omega
  -- A digit follows the first hyphen, so the date is not one by week.
  obtain ⟨digit, later, small, begun⟩ := paddedDigits_succ 1 date.month
  have weekless := (digitChar_known small).2.1
  have yearRead := takeDigits?_paddedDigits (by omega : date.year < 10 ^ 4) 0
    ('-' :: (paddedDigits 2 date.month ++ '-' :: paddedDigits 2 date.day))
  have monthRead := takeDigits?_paddedDigits (by omega : date.month < 10 ^ 2) 0
    ('-' :: paddedDigits 2 date.day)
  have dayRead := takeDigits?_paddedDigits (by omega : date.day < 10 ^ 2) 0 []
  rw [List.append_nil] at dayRead
  rw [begun] at yearRead monthRead
  have written : date.isoChars = paddedDigits 4 date.year ++
      '-' :: (Nat.digitChar digit :: later ++ '-' :: paddedDigits 2 date.day) := by
    rw [isoChars, begun]
    simp
  rw [written]
  unfold readIso?
  rw [yearRead]
  simp only [Option.bind_eq_bind, Option.bind_some, List.cons_append] at monthRead ⊢
  split
  · rename_i after same
    exact absurd (List.cons.inj same).1 weekless
  · rw [monthRead]
    simp [dayRead, of?_fields]

/-- The front of a text that is as long as a written date, and begins like one, is its date. -/
theorem isoLength_isoChars_append (date : Date) (rest : List Char) :
    isoLength (date.isoChars ++ rest) = 10 := by
  obtain ⟨digit, later, small, begun⟩ := paddedDigits_succ 1 date.month
  have weekless := (digitChar_known small).2.1
  have length : (date.isoChars ++ rest).length = 10 + rest.length := by
    rw [List.length_append, length_isoChars]
  have written : date.isoChars ++ rest = paddedDigits 4 date.year ++
      '-' :: Nat.digitChar digit :: (later ++ '-' :: paddedDigits 2 date.day ++ rest) := by
    rw [isoChars, begun]
    simp
  have hyphen : (date.isoChars ++ rest)[4]? = some '-' := by
    rw [written, List.getElem?_append_right (by simp [length_paddedDigits])]
    simp [length_paddedDigits]
  have numeral : (date.isoChars ++ rest)[5]? = some (Nat.digitChar digit) := by
    rw [written, List.getElem?_append_right (by simp [length_paddedDigits])]
    simp [length_paddedDigits]
  have other : ¬ some (Nat.digitChar digit) = some 'W' := fun same =>
    weekless (Option.some.inj same)
  rw [isoLength, length, hyphen, numeral, if_neg (by omega), if_pos rfl, if_neg other]

end Date

/-! ## Times -/

namespace TimeOfDay

open DateTime (startsOffset)

/-- No character of a written time starts an offset. -/
theorem startsOffset_of_mem {time : TimeOfDay} {char : Char} (member : char ∈ time.isoChars) :
    startsOffset char = false := by
  have digits (width value : Nat) (numeral : char ∈ paddedDigits width value) :
      startsOffset char = false := by
    obtain ⟨digit, small, rfl⟩ := mem_paddedDigits numeral
    exact (digitChar_known small).2.2
  have fraction (numeral : char ∈ fractionChars time.microsecond) : startsOffset char = false := by
    unfold fractionChars at numeral
    split_ifs at numeral
    · cases numeral
    · rcases List.mem_cons.mp numeral with rfl | numeral
      · decide
      · exact digits _ _ numeral
  simp only [isoChars, List.append_assoc, List.cons_append, List.mem_append,
    List.mem_cons] at member
  rcases member with hour | rfl | minute | rfl | second | numeral
  · exact digits _ _ hour
  · decide
  · exact digits _ _ minute
  · decide
  · exact digits _ _ second
  · exact fraction numeral

/-- A fraction of six digits is read as it is written. -/
theorem readFraction?_paddedDigits {microsecond : Nat} (fits : microsecond < 1000000) :
    readFraction? (paddedDigits 6 microsecond) = some (microsecond, true) := by
  have read := takeDigits?_paddedDigits (by omega : microsecond < 10 ^ 6) 0 []
  rw [List.append_nil] at read
  simp [readFraction?, length_paddedDigits, read, isAtEnd]

/-- A component with a colon is read, and then what follows. -/
theorem readComponents?_colon {value : Nat} (fits : value < 100) (count : Nat)
    {separated? : Option Bool} (separated : separated?.getD true = true) {rest : List Char}
    (more : rest ≠ []) :
    readComponents? (count + 1) separated? (paddedDigits 2 value ++ ':' :: rest) =
      (readComponents? count (some true) rest).map fun (values, last) =>
        (value :: values, last) := by
  obtain ⟨next, rest, rfl⟩ := List.exists_cons_of_ne_nil more
  have read := takeDigits?_paddedDigits (by omega : value < 10 ^ 2) 0 (':' :: next :: rest)
  rw [readComponents?, read]
  simp only [Option.bind_eq_bind, Option.bind_some, Nat.zero_mul, Nat.zero_add, beq_self_eq_true,
    separated, Bool.and_self, ↓reduceIte]
  cases readComponents? count (some true) (next :: rest) <;> rfl

/-- The last component is read with its fraction. -/
theorem readComponents?_second {second microsecond : Nat} (fits : second < 100)
    (small : microsecond < 1000000) (count : Nat) :
    readComponents? (count + 1) (some true)
        (paddedDigits 2 second ++ fractionChars microsecond) =
      some ([second], microsecond, true) := by
  have read := takeDigits?_paddedDigits (by omega : second < 10 ^ 2) 0 (fractionChars microsecond)
  rw [readComponents?, read, fractionChars]
  split_ifs with none
  · simp [none]
  · obtain ⟨digit, later, -, begun⟩ := paddedDigits_succ 5 microsecond
    have fraction := readFraction?_paddedDigits small
    rw [begun] at fraction ⊢
    simp [fraction]

/-- A time is read as it is written. -/
theorem read?_isoChars (time : TimeOfDay) :
    read? time.isoChars = some ⟨time.hour, time.minute, time.second, time.microsecond, true⟩ := by
  obtain ⟨hour, minute, second, microsecond⟩ := time.valid
  have nonempty (value : Nat) (rest : List Char) : paddedDigits 2 value ++ rest ≠ [] := by
    obtain ⟨digit, later, -, begun⟩ := paddedDigits_succ 1 value
    simp [begun]
  rw [read?, isoChars, List.append_assoc, List.cons_append, List.append_assoc, List.cons_append,
    readComponents?_colon (by omega) 2 rfl (nonempty _ _),
    readComponents?_colon (by omega) 1 rfl (nonempty _ _),
    readComponents?_second (by omega) microsecond]
  rfl

/-- Hours and minutes alone are read as such. -/
theorem read?_hourMinute {hour minute : Nat} (hours : hour < 100) (minutes : minute < 100) :
    read? (paddedDigits 2 hour ++ ':' :: paddedDigits 2 minute) =
      some ⟨hour, minute, 0, 0, true⟩ := by
  obtain ⟨digit, later, -, begun⟩ := paddedDigits_succ 1 minute
  have last := readComponents?_second minutes (by decide : 0 < 1000000) 1
  rw [fractionChars, if_pos rfl, List.append_nil] at last
  rw [read?, readComponents?_colon hours 2 rfl (by simp [begun]), last]
  rfl

end TimeOfDay

/-! ## Offsets -/

namespace UtcOffset

/-- The offset that is read where one is written: universal time for one of less than a second. -/
def reread (offset : UtcOffset) : UtcOffset :=
  if offset.microseconds.natAbs < 1000000 then utc else offset

/-- Whether an offset is zero, or of a second or more either way. -/
def IsRetained (offset : UtcOffset) : Prop :=
  offset.microseconds = 0 ∨ 1000000 ≤ offset.microseconds.natAbs

theorem reread_eq_iff {offset : UtcOffset} : offset.reread = offset ↔ offset.IsRetained := by
  obtain ⟨microseconds, valid⟩ := offset
  simp only [reread, IsRetained]
  split_ifs with brief
  · rw [utc, mk.injEq]
    omega
  · exact iff_of_true rfl (.inr (Nat.le_of_not_lt brief))

/-- The hours, minutes and seconds of an offset, either way, as a time of day. -/
def clock (offset : UtcOffset) : TimeOfDay where
  hour := offset.microseconds.natAbs / 1000000 / 3600
  minute := offset.microseconds.natAbs / 1000000 / 60 % 60
  second := offset.microseconds.natAbs / 1000000 % 60
  microsecond := offset.microseconds.natAbs % 1000000
  valid := by
    have bounds := offset.valid
    unfold microsecondsPerDay at bounds
    omega

/-- An offset is written as its sign and something that is read as its clock. -/
theorem isoChars_eq_cons (offset : UtcOffset) :
    ∃ chars, offset.isoChars = (if offset.microseconds < 0 then '-' else '+') :: chars ∧
      TimeOfDay.read? chars = some ⟨offset.clock.hour, offset.clock.minute, offset.clock.second,
        offset.clock.microsecond, true⟩ := by
  obtain ⟨hours, minutes, -, -⟩ := offset.clock.valid
  by_cases whole : offset.microseconds.natAbs % 60000000 = 0
  · -- Seconds are left out where there are none.
    have second : offset.clock.second = 0 := by
      change offset.microseconds.natAbs / 1000000 % 60 = 0
      omega
    have microsecond : offset.clock.microsecond = 0 := by
      change offset.microseconds.natAbs % 1000000 = 0
      omega
    refine ⟨paddedDigits 2 offset.clock.hour ++ ':' :: paddedDigits 2 offset.clock.minute, ?_, ?_⟩
    · simp only [isoChars, clock, if_pos whole, List.append_nil, List.cons_append]
    · rw [TimeOfDay.read?_hourMinute (by omega) (by omega), second, microsecond]
  · refine ⟨offset.clock.isoChars, ?_, offset.clock.read?_isoChars⟩
    simp only [isoChars, TimeOfDay.isoChars, clock, if_neg whole, List.cons_append,
      List.append_assoc]

/-- What is read of an offset and its sign stands for the offset, unless that is of less than a
second. -/
theorem ofReading?_clock (offset : UtcOffset) :
    ofReading? (decide (offset.microseconds < 0)) ⟨offset.clock.hour, offset.clock.minute,
      offset.clock.second, offset.clock.microsecond, true⟩ = some offset.reread := by
  have seconds : offset.clock.hour * 3600 + offset.clock.minute * 60 + offset.clock.second =
      offset.microseconds.natAbs / 1000000 := by
    simp only [clock]
    omega
  have total : ((offset.microseconds.natAbs / 1000000 : Nat) : Int) * 1000000 +
      (offset.clock.microsecond : Int) = offset.microseconds.natAbs := by
    simp only [clock]
    omega
  have signed : (if offset.microseconds < 0 then -(offset.microseconds.natAbs : Int)
      else offset.microseconds.natAbs) = offset.microseconds := by
    split_ifs <;> omega
  have brief : offset.microseconds.natAbs / 1000000 = 0 ↔ offset.microseconds.natAbs < 1000000 := by
    omega
  simp only [ofReading?, seconds, total, decide_eq_true_eq, signed, of?_microseconds, reread, brief,
    apply_ite some]

end UtcOffset

/-! ## Moments -/

namespace DateTime

/-- The moment that is read where one is written. -/
def reread (moment : DateTime) : DateTime :=
  { moment with offset := moment.offset.map UtcOffset.reread }

/-- Whether the offset of a moment, if it has one, is not lost where it is written. -/
def IsRetained (moment : DateTime) : Prop :=
  ∀ offset ∈ moment.offset, offset.IsRetained

theorem reread_eq_iff {moment : DateTime} : moment.reread = moment ↔ moment.IsRetained := by
  obtain ⟨date, time, offset⟩ := moment
  cases offset with
  | none => simp [reread, IsRetained]
  | some offset => simp [reread, IsRetained, UtcOffset.reread_eq_iff]

theorem isRetained_of_naive {moment : DateTime} (naive : moment.offset = none) :
    moment.IsRetained := by
  simp [IsRetained, naive]

/-- A time and its offset, if it has one, are read where they are written. -/
theorem readTime?_isoChars (date : Date) (time : TimeOfDay) (offset : Option UtcOffset) :
    readTime? date (time.isoChars ++ (offset.map UtcOffset.isoChars).getD []) =
      some (reread ⟨date, time, offset⟩) := by
  have plain : ∀ char ∈ time.isoChars, (!startsOffset char) = true := fun char member => by
    rw [TimeOfDay.startsOffset_of_mem member]
    rfl
  rw [readTime?, List.takeWhile_append_of_pos plain, List.dropWhile_append_of_pos plain]
  cases offset with
  | none => simp [TimeOfDay.read?_isoChars, TimeOfDay.of?_fields, reread]
  | some offset =>
    obtain ⟨chars, written, distance⟩ := offset.isoChars_eq_cons
    have stands := offset.ofReading?_clock
    rw [Option.map_some, Option.getD_some, written]
    by_cases negative : offset.microseconds < 0
    · rw [decide_eq_true negative] at stands
      simp [negative, startsOffset, TimeOfDay.read?_isoChars, TimeOfDay.of?_fields, distance,
        stands, reread]
    · rw [decide_eq_false negative] at stands
      simp [negative, startsOffset, TimeOfDay.read?_isoChars, TimeOfDay.of?_fields, distance,
        stands, reread]

/-- Every moment is read where it is written, but for an offset of less than a second. -/
theorem readIso?_isoChars_eq (moment : DateTime) (separator : Char) :
    readIso? (String.ofList (moment.isoChars separator)) = some moment.reread := by
  have written : moment.isoChars separator = moment.date.isoChars ++
      separator :: (moment.time.isoChars ++ (moment.offset.map UtcOffset.isoChars).getD []) := by
    simp [isoChars]
  rw [readIso?, String.toList_ofList, written, Date.isoLength_isoChars_append]
  simp only [List.take_left' moment.date.length_isoChars,
    List.drop_left' moment.date.length_isoChars, Date.readIso?_isoChars, Option.bind_eq_bind,
    Option.bind_some]
  exact readTime?_isoChars moment.date moment.time moment.offset

/-- A moment is read as it is written exactly if its offset is retained. -/
theorem readIso?_isoChars_iff {moment : DateTime} {separator : Char} :
    readIso? (String.ofList (moment.isoChars separator)) = some moment ↔ moment.IsRetained := by
  rw [readIso?_isoChars_eq, Option.some.injEq, reread_eq_iff]

/-- A moment whose distance from universal time is not known is read as it is written. -/
theorem readIso?_isoChars {moment : DateTime} (naive : moment.offset = none) (separator : Char) :
    readIso? (String.ofList (moment.isoChars separator)) = some moment :=
  readIso?_isoChars_iff.mpr (isRetained_of_naive naive)

end DateTime

end Tablewright
