import Tablewright.Calendar.Iso
import Tablewright.Fault
import Tablewright.Value.Identity

/-! # Values as text

Each value has a plain text, which goes into statements, and a quoted form, which goes into messages
and into the text of lists and maps. They differ for texts, decimal numbers, moments and actions. A
whole number with too many digits has neither, and nor has anything with such a number in it.
-/

namespace Tablewright

/-- The parts of a call with its arguments in parentheses. -/
private def callText (name : String) (arguments : List String) : String :=
  name ++ "(" ++ ", ".intercalate arguments ++ ")"

/-- The quoted form of a date. -/
def Date.quoted (date : Date) : String :=
  callText "datetime.date" [toString date.year, toString date.month, toString date.day]

/-- The quoted form of a span of microseconds, as days, seconds and microseconds. -/
def quotedSpan (microseconds : Int) : String :=
  let days := microseconds / microsecondsPerDay
  let rest := (microseconds % microsecondsPerDay).toNat
  let named (name : String) (amount : Int) : List String :=
    if amount = 0 then [] else [name ++ "=" ++ toString amount]
  let parts := named "days" days ++ named "seconds" (rest / 1000000 : Nat) ++
    named "microseconds" (rest % 1000000 : Nat)
  callText "datetime.timedelta" (if parts.isEmpty then ["0"] else parts)

/-- The quoted form of an offset from universal time. -/
def UtcOffset.quoted (offset : UtcOffset) : String :=
  if offset.microseconds = 0 then "datetime.timezone.utc"
  else callText "datetime.timezone" [quotedSpan offset.microseconds]

/-- The quoted form of a date-time; seconds and microseconds that are zero are left out. -/
def DateTime.quoted (moment : DateTime) : String :=
  let time := moment.time
  let seconds :=
    if time.microsecond ≠ 0 then [time.second, time.microsecond]
    else if time.second ≠ 0 then [time.second] else []
  let fields := [moment.date.year, moment.date.month, moment.date.day, time.hour, time.minute]
  callText "datetime.datetime" ((fields ++ seconds).map toString ++
    (moment.offset.map fun offset => "tzinfo=" ++ offset.quoted).toList)

/-- The quoted form of a referential action. -/
def ReferentialAction.quoted (action : ReferentialAction) : String :=
  "<OnAction." ++ action.name ++ ": " ++ Text.quoted action.keyword ++ ">"

/-- The quoted form of a mention that reads the same in every blueprint, empty for the others. -/
def Mention.quoted : Mention → String
  | .kind known => "<SpecKind." ++ known.name ++ ": " ++ Text.quoted known.word ++ ">"
  | .wording _ words => words
  | mention => mention.shown

namespace Value

mutual

/-- The quoted form of a value, however long its whole numbers are. -/
def quotedForm : Value → String
  | .null => "None"
  | .bool value => if value then "True" else "False"
  | .int value => toString value
  | .float value => value.text
  | .decimal value => "Decimal(" ++ Text.quoted value.text ++ ")"
  | .text value => Text.quoted value
  | .bytes value => Text.quotedBytes value
  | .date value => value.quoted
  | .dateTime value => value.quoted
  | .list values => "[" ++ ", ".intercalate (quotedForms values) ++ "]"
  | .map entries => "\x7b" ++ ", ".intercalate (quotedEntries entries) ++ "\x7d"
  | .action value => value.quoted
  | .mention value => value.quoted

/-- The quoted forms of the elements of a list. -/
def quotedForms : List Value → List String
  | [] => []
  | value :: values => value.quotedForm :: quotedForms values

/-- The quoted forms of the entries of a map. -/
def quotedEntries : List (Value × Value) → List String
  | [] => []
  | (key, value) :: entries =>
    (key.quotedForm ++ ": " ++ value.quotedForm) :: quotedEntries entries

end

theorem quotedForms_eq_map (values : List Value) : quotedForms values = values.map quotedForm := by
  induction values with
  | nil => simp [quotedForms]
  | cons value values ih => simp [quotedForms, ih]

/-- The plain text of a value, however long its whole numbers are. -/
def plainForm : Value → String
  | .decimal value => value.text
  | .text value => value
  | .date value => value.text
  | .dateTime value => value.text
  | .action value => "OnAction." ++ value.name
  | .mention value => value.shown
  | value => value.quotedForm

/-- Whether a whole number has few enough digits to be written. -/
def isShort (number : Int) : Bool :=
  (Nat.toDigits 10 number.natAbs).length ≤ mostDigits

mutual

/-- Whether the value can be written out: its whole numbers are short enough. -/
def isWritten : Value → Bool
  | .int value => isShort value
  | .list values => areWritten values
  | .map entries => entriesAreWritten entries
  | .mention value => value.isWritten
  | _ => true

/-- Whether the elements of a list can be written out. -/
def areWritten : List Value → Bool
  | [] => true
  | value :: values => value.isWritten && areWritten values

/-- Whether the entries of a map can be written out. -/
def entriesAreWritten : List (Value × Value) → Bool
  | [] => true
  | (key, value) :: entries => key.isWritten && value.isWritten && entriesAreWritten entries

end

/-- The form of a value that can be written out. -/
def written (value : Value) (form : String) : Except Fault String :=
  if value.isWritten then .ok form else .error .badValue

/-- The quoted form of a value. -/
def quoted (value : Value) : Except Fault String :=
  value.written value.quotedForm

/-- The plain text of a value. -/
def shown (value : Value) : Except Fault String :=
  value.written value.plainForm

theorem written_eq_ok {value : Value} {form text : String} :
    value.written form = .ok text ↔ value.isWritten = true ∧ form = text := by
  unfold written
  split <;> simp_all

theorem written_eq_error {value : Value} {form : String} {fault : Fault} :
    value.written form = .error fault ↔ value.isWritten = false ∧ fault = .badValue := by
  unfold written
  split <;> simp_all [eq_comm (a := Fault.badValue)]

theorem quoted_eq_ok {value : Value} {text : String} :
    value.quoted = .ok text ↔ value.isWritten = true ∧ value.quotedForm = text :=
  written_eq_ok

theorem shown_eq_ok {value : Value} {text : String} :
    value.shown = .ok text ↔ value.isWritten = true ∧ value.plainForm = text :=
  written_eq_ok

theorem shown_eq_error {value : Value} {fault : Fault} :
    value.shown = .error fault ↔ value.isWritten = false ∧ fault = .badValue :=
  written_eq_error

theorem shown_of_isWritten {value : Value} (written : value.isWritten = true) :
    value.shown = .ok value.plainForm :=
  shown_eq_ok.mpr ⟨written, rfl⟩

@[simp]
theorem shown_text (text : String) : (Value.text text).shown = .ok text :=
  shown_of_isWritten (by simp [isWritten])

/-- What values of this kind are called in messages. -/
def kindName : Value → String
  | .null => "NoneType"
  | .bool _ => "bool"
  | .int _ => "int"
  | .float _ => "float"
  | .decimal _ => "decimal.Decimal"
  | .text _ => "str"
  | .bytes _ => "bytes"
  | .date _ => "datetime.date"
  | .dateTime _ => "datetime.datetime"
  | .list _ | .mention .specs | .mention (.keys _) | .mention (.list _) => "list"
  | .map _ => "dict"
  | .action _ => "OnAction"
  | .mention (.target .blueprint) => "Blueprint"
  | .mention (.target (.column _)) => "ColumnDefinition"
  | .mention (.target (.spec _)) => "ColumnSpec"
  | .mention (.target (.key _)) => "ForeignKeyDraft"
  | .mention (.kind _) => "SpecKind"
  | .mention (.type label _) => label
  | .mention (.wording ..) => "object"

/-- The kind that a name is looked for in last: a column and a foreign key pass it on to their
blueprint. -/
def memberKind : Value → String
  | .mention (.target (.column _)) | .mention (.target (.key _)) => "Blueprint"
  | value => value.kindName

end Value

end Tablewright
