import Tablewright.Number.Numeral

/-! # Binary floating-point numbers

The finite numbers of the 64-bit binary format are whole multiples of its smallest positive number,
so a finite number is a sign and that multiple. Reading rounds the exact value of a numeral to the
nearest number, a tie to the even significand. Writing takes the coarsest decimal grid that has a
point inside the rounding interval, and on it the point nearest to the number: that is the fewest
digits that read back.
-/

namespace Tablewright

/-- A number of the 64-bit binary format; a finite one is a multiple of two to the power -1074. -/
inductive Binary64 where
  | finite (negative : Bool) (units : Nat)
  | infinite (negative : Bool)
  | nan
deriving DecidableEq

namespace Binary64

/-- How many smallest positive numbers make one. -/
def unitsPerOne : Nat :=
  Nat.pow 2 1074

/-- The first multiple that is too large for a finite number. -/
def unitsLimit : Nat :=
  Nat.pow 2 2098

/-- The distance between neighbouring numbers around the multiple. -/
def spacing (units : Nat) : Nat :=
  if units < Nat.pow 2 53 then 1 else Nat.pow 2 (Nat.log2 units - 52)

/-- The quotient rounded to the nearest whole number, a half to the even neighbour. -/
def roundDiv (numerator denominator : Nat) : Nat :=
  let quotient := numerator / denominator
  let remainder := numerator % denominator
  if 2 * remainder < denominator ∨ 2 * remainder = denominator ∧ quotient % 2 = 0 then quotient
  else quotient + 1

/-- The number nearest to the quotient. -/
def ofRatio (negative : Bool) (numerator denominator : Nat) : Binary64 :=
  let scaled := numerator * unitsPerOne
  let step := spacing (scaled / denominator)
  let units := roundDiv scaled (denominator * step) * step
  if units < unitsLimit then .finite negative units else .infinite negative

/-- The number nearest to a coefficient times a power of ten. Beyond 400 places either way the
coefficient's size alone decides. -/
def ofScaled (negative : Bool) (coefficient : Nat) (scale : Int) : Binary64 :=
  let places := scale + (Nat.toDigits 10 coefficient).length
  if coefficient = 0 ∨ places < -400 then .finite negative 0
  else if 400 < places then .infinite negative
  else if 0 ≤ scale then ofRatio negative (coefficient * Nat.pow 10 scale.toNat) 1
  else ofRatio negative coefficient (Nat.pow 10 (-scale).toNat)

/-- The number nearest to a numeral. -/
def ofNumeral (numeral : Numeral) : Binary64 :=
  ofScaled numeral.negative numeral.coefficient numeral.scale

/-- The number nearest to a whole number. -/
def ofInt (value : Int) : Binary64 :=
  ofScaled (value < 0) value.natAbs 0

/-- The product of two numbers that are not negative, of which the second is finite and not
zero. -/
def timesPositive : Binary64 → Nat → Binary64
  | .finite negative units, more => ofRatio negative (units * more) (unitsPerOne * unitsPerOne)
  | other, _ => other

/-- The sum of two numbers that are not negative. -/
def plusPositive : Binary64 → Binary64 → Binary64
  | .finite _ units, .finite _ more => ofRatio false (units + more) unitsPerOne
  | .nan, _ | _, .nan => .nan
  | .infinite _, _ | _, .infinite _ => .infinite false

/-- The number with a sign. -/
def withSign (negative : Bool) : Binary64 → Binary64
  | .finite _ units => .finite negative units
  | .infinite _ => .infinite negative
  | .nan => .nan

/-- Reads a number: a decimal numeral, an infinity or not-a-number, in either case of letters. -/
def read? (text : String) : Option Binary64 := do
  let chars ← dropSeparators? false (trimNumber text.toList)
  match Numeral.read? chars with
  | some numeral => some (ofNumeral numeral)
  | none =>
    let (negative, word) := spanSign chars
    let lower := word.map Char.toLower
    if lower = "inf".toList ∨ lower = "infinity".toList then some (.infinite negative)
    else if lower = "nan".toList then some .nan
    else none

/-- The whole part of a finite number. -/
def truncate (negative : Bool) (units : Nat) : Int :=
  let whole : Int := (units / unitsPerOne : Nat)
  if negative then -whole else whole

/-- The ends of the interval of real numbers that round to the multiple, in quarters of a unit. -/
def roundingInterval (units : Nat) : Nat × Nat :=
  let step := spacing units
  let below := if units = Nat.pow 2 52 * step ∧ step ≠ 1 then step else 2 * step
  (4 * units - below, 4 * units + 2 * step)

/-- Whether the ends of the interval round to the multiple too. -/
def closedInterval (units : Nat) : Bool :=
  units / spacing units % 2 == 0

/-- The point of the decimal grid with the given power of ten that reads back as the multiple and
lies nearest to it. -/
def gridPoint? (units : Nat) (power : Int) : Option Nat :=
  let up := Nat.pow 10 power.toNat * (4 * unitsPerOne)
  let down := Nat.pow 10 (-power).toNat
  let (low, high) := roundingInterval units
  let inside (point : Nat) : Bool :=
    let scaled := point * up
    if closedInterval units then low * down ≤ scaled && scaled ≤ high * down
    else low * down < scaled && scaled < high * down
  let target := 4 * units * down
  let floor := target / up
  let excess := target % up
  let upperNearer := 2 * excess > up || (2 * excess == up && floor % 2 == 1)
  match inside floor, inside (floor + 1) with
  | true, true => some (if upperNearer then floor + 1 else floor)
  | true, false => some floor
  | false, true => some (floor + 1)
  | false, false => none

/-- The fewest digits that read back as the multiple, as a coefficient and a power of ten. -/
def shortest (units : Nat) : Nat × Int :=
  let powers := (List.range 660).map fun (index : Nat) => 310 - (index : Int)
  let point? (power : Int) : Option (Nat × Int) :=
    (gridPoint? units power).map fun point => (point, power)
  (powers.findSome? point?).getD (0, 0)

/-- How a finite number is laid out: the decimal exponents that are written positionally, and the
least number of digits of an exponent. -/
structure Layout where
  smallest : Int
  largest : Int
  exponentDigits : Nat

/-- Numbers from one ten-thousandth up to ten to the power 16 are written positionally. -/
def layout : Layout := ⟨-4, 15, 2⟩

/-- The exponent mark, the sign and the digits of an exponent. -/
def exponentText (exponent : Int) (width : Nat) : List Char :=
  let digits := Nat.toDigits 10 exponent.natAbs
  'e' :: (if exponent < 0 then '-' else '+') ::
    (List.replicate (width - digits.length) '0' ++ digits)

/-- Digits with a point after the first `places` of them; a whole number keeps one place after
it. -/
def positional (digits : List Char) (places : Int) : List Char :=
  if places ≤ 0 then '0' :: '.' :: (List.replicate (-places).toNat '0' ++ digits)
  else if digits.length ≤ places.toNat then
    digits ++ List.replicate (places.toNat - digits.length) '0' ++ ['.', '0']
  else digits.take places.toNat ++ '.' :: digits.drop places.toNat

/-- The text of a finite number without its sign. -/
def finiteChars (units : Nat) : List Char :=
  if units = 0 then ['0', '.', '0']
  else
    let (coefficient, power) := shortest units
    let digits := Nat.toDigits 10 coefficient
    let exponent := power + digits.length - 1
    if layout.smallest ≤ exponent ∧ exponent ≤ layout.largest then positional digits (exponent + 1)
    else
      let mantissa := match digits with
        | first :: second :: rest => first :: '.' :: second :: rest
        | single => single
      mantissa ++ exponentText exponent layout.exponentDigits

/-- The shortest text that reads back as the number. -/
def text : Binary64 → String
  | .finite negative units =>
    String.ofList ((if negative then ['-'] else []) ++ finiteChars units)
  | .infinite negative => if negative then "-inf" else "inf"
  | .nan => "nan"

end Binary64

end Tablewright
