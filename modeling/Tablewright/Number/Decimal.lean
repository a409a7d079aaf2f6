import Tablewright.Number.Binary64

/-! # Decimal numbers

Decimal numbers keep the digits they were written with: a coefficient and a power of ten, so that
1.0 and 1.00 are equal but have different texts. Numbers of all kinds compare by exact value.
-/

namespace Tablewright

/-- A decimal number with its written precision, an infinity, or not-a-number with a payload. -/
inductive Decimal where
  | finite (negative : Bool) (coefficient : Nat) (exponent : Int)
  | infinite (negative : Bool)
  | nan (negative signaling : Bool) (payload : Nat)
deriving DecidableEq

namespace Decimal

/-- Reads not-a-number: the word, and digits of a payload. -/
def readNan? (negative : Bool) (lower : List Char) : Option Decimal :=
  let (signaling, word) := match lower with
    | 's' :: rest => (true, rest)
    | _ => (false, lower)
  match word with
  | 'n' :: 'a' :: 'n' :: rest =>
    match spanDigits rest with
    | (digits, []) => some (.nan negative signaling (ofDigits digits))
    | _ => none
  | _ => none

/-- Reads a decimal number; white space around it and underscores anywhere in it do not count. -/
def read? (text : String) : Option Decimal :=
  let chars := (Text.trimChars text.toList).filter (· ≠ '_')
  match Numeral.read? chars with
  | some numeral => some (.finite numeral.negative numeral.coefficient numeral.scale)
  | none =>
    let (negative, word) := spanSign chars
    let lower := word.map Char.toLower
    if lower = "inf".toList ∨ lower = "infinity".toList then some (.infinite negative)
    else readNan? negative lower

/-- The text of a coefficient times a power of ten: positional unless zeros would have to be
added at the end, or more than five after the point. -/
def finiteChars (coefficient : Nat) (exponent : Int) : List Char :=
  let digits := Nat.toDigits 10 coefficient
  let places := exponent + digits.length
  let point := if exponent ≤ 0 ∧ -6 < places then places else 1
  let mantissa :=
    if point ≤ 0 then '0' :: '.' :: (List.replicate (-point).toNat '0' ++ digits)
    else if digits.length ≤ point.toNat then
      digits ++ List.replicate (point.toNat - digits.length) '0'
    else digits.take point.toNat ++ '.' :: digits.drop point.toNat
  if places = point then mantissa
  else
    let shift := places - point
    mantissa ++ 'E' :: (if shift < 0 then '-' else '+') :: Nat.toDigits 10 shift.natAbs

/-- The text that keeps the written digits. -/
def text : Decimal → String
  | .finite negative coefficient exponent =>
    String.ofList ((if negative then ['-'] else []) ++ finiteChars coefficient exponent)
  | .infinite negative => if negative then "-Infinity" else "Infinity"
  | .nan negative signaling payload =>
    (if negative then "-" else "") ++ (if signaling then "sNaN" else "NaN") ++
      (if payload = 0 then "" else toString payload)

end Decimal

/-- The exact value of a number: a whole number times a power of ten, or beyond all of them. -/
inductive Magnitude where
  | scaled (coefficient : Int) (exponent : Int)
  | infinite (negative : Bool)
  | nan
deriving DecidableEq

namespace Magnitude

/-- The exact value of a whole number. -/
def ofInt (value : Int) : Magnitude :=
  .scaled value 0

/-- The exact value of a binary number; two to the power -1074 is a multiple of ten to that
power. -/
def ofBinary : Binary64 → Magnitude
  | .finite negative units =>
    if units % Binary64.unitsPerOne = 0 then
      ofInt (Binary64.truncate negative units)
    else
      let coefficient : Int := (units * Nat.pow 5 1074 : Nat)
      .scaled (if negative then -coefficient else coefficient) (-1074)
  | .infinite negative => .infinite negative
  | .nan => .nan

/-- The exact value of a decimal number. -/
def ofDecimal : Decimal → Magnitude
  | .finite negative coefficient exponent =>
    .scaled (if negative then -(coefficient : Int) else coefficient) exponent
  | .infinite negative => .infinite negative
  | .nan .. => .nan

/-- The order of two positive coefficients times powers of ten. Numbers of different length are
told apart without aligning them, so a large exponent costs nothing. -/
def compareScaled (left : Nat) (leftExponent : Int) (right : Nat) (rightExponent : Int) :
    Ordering :=
  let leftPlaces := leftExponent + (Nat.toDigits 10 left).length
  let rightPlaces := rightExponent + (Nat.toDigits 10 right).length
  if leftPlaces < rightPlaces then .lt
  else if rightPlaces < leftPlaces then .gt
  else
    compare (left * Nat.pow 10 (leftExponent - rightExponent).toNat)
      (right * Nat.pow 10 (rightExponent - leftExponent).toNat)

/-- The order of two exact values; `none` if one of them is not a number. -/
def compare? : Magnitude → Magnitude → Option Ordering
  | .nan, _ | _, .nan => none
  | .infinite left, .infinite right =>
    some (if left = right then .eq else if left then .lt else .gt)
  | .infinite negative, .scaled .. => some (if negative then .lt else .gt)
  | .scaled .., .infinite negative => some (if negative then .gt else .lt)
  | .scaled left leftExponent, .scaled right rightExponent =>
    if left = 0 ∨ right = 0 ∨ left.sign ≠ right.sign then some (compare left.sign right.sign)
    else if 0 < left then
      some (compareScaled left.natAbs leftExponent right.natAbs rightExponent)
    else some (compareScaled right.natAbs rightExponent left.natAbs leftExponent)

end Magnitude

end Tablewright
