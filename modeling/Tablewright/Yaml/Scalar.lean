import Tablewright.Calendar.Iso
import Tablewright.Value.Order
import Tablewright.Yaml.Cursor

/-! # Values of plain scalars

A plain scalar is a truth value, a number, null or a date if it has the form of one, and a text
otherwise. Whole numbers may be binary, octal after a leading zero, hexadecimal, or in base sixty
with colons; other numbers need a point.
-/

namespace Tablewright.Yaml

/-- A sign in front, and what follows it. -/
def signed : List Char → Bool × List Char
  | '-' :: rest => (true, rest)
  | '+' :: rest => (false, rest)
  | chars => (false, chars)

/-- The number that digits form in a base, passing over underscores. -/
def numberIn (base : Nat) (digits : List Char) : Nat :=
  digits.foldl
    (fun total char =>
      if char == '_' then total
      else
        let value := if char.isDigit then char.toNat - 48 else char.toLower.toNat - 87
        total * base + value) 0

/-- Whether the characters are of the class or underscores, and there is at least one. -/
def allIn (test : Char → Bool) (chars : List Char) : Bool :=
  !chars.isEmpty && chars.all fun char => char == '_' || test char

/-- Whether the character is a hexadecimal digit. -/
def isHexDigit (char : Char) : Bool :=
  char.isDigit || ('a' ≤ char && char ≤ 'f') || ('A' ≤ char && char ≤ 'F')

/-- The parts between colons. -/
def colonParts (chars : List Char) : List (List Char) :=
  chars.splitOn ':'

/-- Whether the characters start with a digit that is not zero and go on with digits. -/
def isCounted : List Char → Bool
  | [] => false
  | first :: rest =>
    '1' ≤ first && first ≤ '9' && rest.all fun char => char == '_' || char.isDigit

/-- The number with the decimal digits, if there are not too many. -/
def counted (digits : List Char) : Except Problem Nat :=
  if mostDigits < (digits.filter Char.isDigit).length then .error .noSuchValue
  else .ok (numberIn 10 digits)

/-- Whether the characters are a part in base sixty: one digit, or two of which the first is at
most five. -/
def isSixtieth : List Char → Bool
  | [units] => units.isDigit
  | [tens, units] => '0' ≤ tens && tens ≤ '5' && units.isDigit
  | _ => false

/-- The whole number that the characters stand for after their sign. -/
def unsignedInteger? (chars : List Char) : Option (Except Problem Nat) :=
  let inBase (base : Nat) (test : Char → Bool) (digits : List Char) : Option (Except Problem Nat) :=
    if allIn test digits then
      some (if digits.all (· == '_') then .error .noSuchValue else .ok (numberIn base digits))
    else none
  match chars with
  | ['0'] => some (.ok 0)
  | '0' :: 'b' :: digits => inBase 2 (fun char => char == '0' || char == '1') digits
  | '0' :: 'x' :: digits => inBase 16 isHexDigit digits
  | '0' :: digits =>
    if allIn (fun char => '0' ≤ char && char ≤ '7') digits then some (.ok (numberIn 8 digits))
    else none
  | _ =>
    match colonParts chars with
    | [digits] => if isCounted digits then some (counted digits) else none
    | first :: rest =>
      if isCounted first && rest.all isSixtieth then
        some ((counted first).map fun number =>
          rest.foldl (fun total part => total * 60 + numberIn 10 part) number)
      else none
    | [] => none

/-- The whole number that the characters stand for. -/
def integer? (chars : List Char) : Option (Except Problem Value) :=
  let (negative, unsigned) := signed chars
  (unsignedInteger? unsigned).map fun read =>
    read.map fun number => .int (if negative then -Int.ofNat number else Int.ofNat number)

/-- Whether the characters are an exponent: a mark, a sign and digits. -/
def isExponent : List Char → Bool
  | mark :: sign :: digits =>
    (mark == 'e' || mark == 'E') && (sign == '-' || sign == '+') && !digits.isEmpty &&
      digits.all Char.isDigit
  | _ => false

/-- Whether the characters are digits, perhaps with an exponent. -/
def isFraction (chars : List Char) : Bool :=
  let after := chars.dropWhile fun char => char == '_' || char.isDigit
  after.isEmpty || isExponent after

/-- The binary number of a numeral, passing over underscores. -/
def binary (negative : Bool) (chars : List Char) : Binary64 :=
  match Numeral.read? (chars.filter (· != '_')) with
  | some numeral => Binary64.ofNumeral { numeral with negative := negative }
  | none => .nan

/-- A part of a number in base sixty with the weight of its place, which has to be a finite binary
number itself. -/
def weighted (weight : Nat) (part : List Char) : Except Problem Binary64 :=
  match Binary64.ofScaled false weight 0 with
  | .finite _ units => .ok ((binary false part).timesPositive units)
  | _ => .error .outOfRange

/-- The number in base sixty, from the last part to the first, each sum rounded. -/
def sixtieths : (total : Binary64) → (weight : Nat) → List (List Char) → Except Problem Binary64
  | total, _, [] => .ok total
  | total, weight, part :: parts => do
    sixtieths (total.plusPositive (← weighted weight part)) (weight * 60) parts

/-- The number with a point that the characters stand for. -/
def float? (chars : List Char) : Option (Except Problem Value) :=
  let (negative, unsigned) := signed chars
  let isSigned := unsigned.length < chars.length
  let word := String.ofList unsigned
  if word = ".inf" ∨ word = ".Inf" ∨ word = ".INF" then
    some (.ok (.float (.infinite negative)))
  else if !isSigned && (word = ".nan" ∨ word = ".NaN" ∨ word = ".NAN") then
    some (.ok (.float .nan))
  else
    let startsWithDigit := (unsigned.head?.map Char.isDigit).getD false
    let whole := unsigned.takeWhile fun char => char == '_' || char.isDigit
    match unsigned.drop whole.length with
    | '.' :: fraction =>
      let digits :=
        if whole.isEmpty then !isSigned && (fraction.head?.map Char.isDigit).getD false
        else startsWithDigit
      if digits && isFraction fraction then some (.ok (.float (binary negative unsigned))) else none
    | ':' :: _ =>
      let parts := colonParts (unsigned.takeWhile (· != '.'))
      match unsigned.dropWhile (· != '.') with
      | '.' :: fraction =>
        if startsWithDigit && (parts.drop 1).all isSixtieth &&
            fraction.all (fun char => char == '_' || char.isDigit) then
          let last := (parts.getLast?.getD []) ++ '.' :: fraction
          let total := sixtieths (.finite false 0) 1 (last :: parts.dropLast.reverse)
          some (total.map fun number => .float (number.withSign negative))
        else none
      | _ => none
    | _ => none

/-- One or two digits in front as a number. -/
def oneOrTwoDigits? (chars : List Char) : Option (Nat × List Char) :=
  match takeDigits? 2 0 chars with
  | some found => some found
  | none => takeDigits? 1 0 chars

/-- What follows the character, if it stands in front. -/
def after? (mark : Char) : List Char → Option (List Char)
  | char :: rest => if char = mark then some rest else none
  | [] => none

/-- The offset at the end of a date-time: none, the letter Z, or a sign with hours and perhaps
minutes. The inner result is none if the offset is a day or more. -/
def zone? (chars : List Char) : Option (Option (Option UtcOffset)) :=
  match chars.dropWhile fun char => char == ' ' || char == '\t' with
  | [] => if chars.isEmpty then some (some none) else none
  | ['Z'] => some (some (some .utc))
  | sign :: rest => do
    if sign ≠ '-' ∧ sign ≠ '+' then failure
    let (hours, rest) ← oneOrTwoDigits? rest
    let minutes ← match rest with
      | [] => some 0
      | _ => do
        let (minutes, rest) ← takeDigits? 2 0 (← after? ':' rest)
        if rest.isEmpty then some minutes else none
    let span : Int := (hours * 60 + minutes) * 60000000
    return (UtcOffset.of? (if sign = '-' then -span else span)).map some

/-- The date or date-time that the characters have the form of; the inner result is a problem if
there is no such day or time. -/
def moment? (chars : List Char) : Option (Except Problem Value) := do
  let (year, rest) ← takeDigits? 4 0 chars
  let (month, afterMonth) ← oneOrTwoDigits? (← after? '-' rest)
  let (day, rest) ← oneOrTwoDigits? (← after? '-' afterMonth)
  if rest.isEmpty then
    if chars.length = 10 then
      return match Date.of? year month day with
        | some date => .ok (.date date)
        | none => .error .noSuchValue
    else failure
  else
    let rest ← match rest with
      | 'T' :: after | 't' :: after => some after
      | _ =>
        let after := rest.dropWhile fun char => char == ' ' || char == '\t'
        if after.length < rest.length then some after else none
    let (hour, rest) ← oneOrTwoDigits? rest
    let (minute, rest) ← takeDigits? 2 0 (← after? ':' rest)
    let (second, rest) ← takeDigits? 2 0 (← after? ':' rest)
    let (fraction, rest) := match rest with
      | '.' :: after => (after.takeWhile Char.isDigit, after.dropWhile Char.isDigit)
      | _ => ([], rest)
    let zone ← zone? rest
    let digits := fraction.take 6
    let microsecond := numberIn 10 digits * Nat.pow 10 (6 - digits.length)
    return match Date.of? year month day, TimeOfDay.of? hour minute second microsecond, zone with
      | some date, some time, some offset => .ok (.dateTime ⟨date, time, offset⟩)
      | _, _, _ => .error .noSuchValue

/-- The truth value that the characters are a word for. -/
def truth? (chars : List Char) : Option Bool :=
  let word := String.ofList chars
  if ["yes", "Yes", "YES", "true", "True", "TRUE", "on", "On", "ON"].contains word then some true
  else if ["no", "No", "NO", "false", "False", "FALSE", "off", "Off", "OFF"].contains word then
    some false
  else none

/-- Whether the characters are a word for null. -/
def isNull (chars : List Char) : Bool :=
  ["", "~", "null", "Null", "NULL"].contains (String.ofList chars)

/-- The value of a plain scalar. The signs for merging and for a default value stand for none. -/
def scalarValue (chars : List Char) : Except Problem Value :=
  match truth? chars, float? chars, integer? chars, moment? chars with
  | some truth, _, _, _ => .ok (.bool truth)
  | none, some number, _, _ => number
  | none, none, some number, _ => number
  | none, none, none, some moment => moment
  | none, none, none, none =>
    if isNull chars then .ok .null
    else if chars = "<<".toList ∨ chars = "=".toList then .error .malformed
    else .ok (.text (String.ofList chars))

end Tablewright.Yaml
