import Tablewright.Text.Blank
import Tablewright.Text.Digit

/-! # Written numbers

The grammar that whole and decimal numbers are read by. Digits of every script count, and one
underscore may stand between two digits. A whole number has a limited number of digits, leading
zeros included. A decimal numeral has digits before or after its point, or both, and may carry an
exponent.
-/

namespace Tablewright

/-- The number with the decimal digits, the most significant first. -/
def ofDigits (digits : List Nat) : Nat :=
  digits.foldl (fun total digit => total * 10 + digit) 0

/-- The characters without the underscores between digits; `none` if one stands elsewhere. -/
def dropSeparators? (afterDigit : Bool) : List Char → Option (List Char)
  | [] => some []
  | char :: rest =>
    if char = '_' then
      match rest with
      | next :: _ =>
        if afterDigit && (Text.digitValue? next).isSome then dropSeparators? false rest else none
      | [] => none
    else (dropSeparators? (Text.digitValue? char).isSome rest).map (char :: ·)

/-- The digits at the front, and what follows them. -/
def spanDigits : List Char → List Nat × List Char
  | [] => ([], [])
  | char :: rest =>
    match Text.digitValue? char with
    | some value => let (digits, after) := spanDigits rest; (value :: digits, after)
    | none => ([], char :: rest)

/-- Whether a minus sign stands in front, and what follows the sign if there is one. -/
def spanSign : List Char → Bool × List Char
  | '-' :: rest => (true, rest)
  | '+' :: rest => (false, rest)
  | chars => (false, chars)

/-- Blank for the purpose of numbers: white space other than the information separators. -/
def isNumberBlank (char : Char) : Bool :=
  Text.isBlank char && !(0x1c ≤ char.toNat && char.toNat ≤ 0x1f)

/-- The characters without the white space that may surround a number. -/
def trimNumber (chars : List Char) : List Char :=
  ((chars.dropWhile isNumberBlank).reverse.dropWhile isNumberBlank).reverse

/-- The most decimal digits that a whole number is read from or written with. -/
def mostDigits : Nat := 4300

/-- Reads a whole number: a sign and at least one digit. -/
def readInteger? (chars : List Char) : Option Int := do
  let (negative, unsigned) := spanSign (← dropSeparators? false (trimNumber chars))
  match spanDigits unsigned with
  | ([], _) | (_, _ :: _) => none
  | (digits, []) =>
    if mostDigits < digits.length then none
    else some (if negative then -(ofDigits digits : Int) else ofDigits digits)

/-- A decimal number as it is written. -/
structure Numeral where
  negative : Bool
  whole : List Nat
  fraction : List Nat
  exponent : Int
deriving DecidableEq

namespace Numeral

/-- The number that all digits form together. -/
def coefficient (numeral : Numeral) : Nat :=
  ofDigits (numeral.whole ++ numeral.fraction)

/-- The power of ten that the coefficient is multiplied by. -/
def scale (numeral : Numeral) : Int :=
  numeral.exponent - numeral.fraction.length

/-- Reads the exponent, which must be all that is left. -/
def readExponent? : List Char → Option Int
  | [] => some 0
  | mark :: rest =>
    if mark = 'e' ∨ mark = 'E' then
      let (negative, unsigned) := spanSign rest
      match spanDigits unsigned with
      | ([], _) | (_, _ :: _) => none
      | (digits, []) => some (if negative then -(ofDigits digits : Int) else ofDigits digits)
    else none

/-- Reads a decimal numeral that fills the characters. -/
def read? (chars : List Char) : Option Numeral := do
  let (negative, unsigned) := spanSign chars
  let (whole, afterWhole) := spanDigits unsigned
  let (fraction, afterFraction) := match afterWhole with
    | '.' :: rest => spanDigits rest
    | _ => ([], afterWhole)
  if whole.isEmpty && fraction.isEmpty then none
  else
    let exponent ← readExponent? afterFraction
    some { negative, whole, fraction, exponent }

end Numeral

end Tablewright
