import Tablewright.Text.Printable

/-! # Quoted text

How a text or a byte string is shown inside a message: between quotation marks, with escapes for
whatever would not be visible. The single mark is used unless the text holds single marks and no
double ones. Escapes name a character by two, four or eight hexadecimal digits, by the shortest of
these that is wide enough.
-/

namespace Tablewright.Text

/-- The single quotation mark. -/
def singleMark : Char := '\x27'

/-- The double quotation mark. -/
def doubleMark : Char := '\x22'

/-- The mark that encloses the text: the double one exactly when that avoids escaping. -/
def enclosingMark (chars : List Char) : Char :=
  if singleMark ∈ chars ∧ doubleMark ∉ chars then doubleMark else singleMark

/-- The last `width` hexadecimal digits of a number, padded with zeros. -/
def hexDigits : Nat → Nat → List Char
  | 0, _ => []
  | width + 1, value => hexDigits width (value / 16) ++ [Nat.digitChar (value % 16)]

theorem length_hexDigits (width value : Nat) : (hexDigits width value).length = width := by
  induction width generalizing value with
  | zero => rfl
  | succ width ih => simp [hexDigits, ih]

/-- The escapes that both texts and byte strings share. -/
def shortEscape? (mark char : Char) : Option (List Char) :=
  if char = '\\' ∨ char = mark then some ['\\', char]
  else if char = '\n' then some ['\\', 'n']
  else if char = '\r' then some ['\\', 'r']
  else if char = '\t' then some ['\\', 't']
  else none

/-- The escape that names a character by its code point. -/
def codeEscape (code : Nat) : List Char :=
  if code < 0x100 then '\\' :: 'x' :: hexDigits 2 code
  else if code < 0x10000 then '\\' :: 'u' :: hexDigits 4 code
  else '\\' :: 'U' :: hexDigits 8 code

/-- One character of a quoted text. -/
def quotedChar (mark char : Char) : List Char :=
  match shortEscape? mark char with
  | some escape => escape
  | none => if isPrintable char then [char] else codeEscape char.toNat

/-- The text in quotation marks, with everything invisible escaped. -/
def quoted (text : String) : String :=
  let mark := enclosingMark text.toList
  String.ofList (mark :: text.toList.flatMap (quotedChar mark) ++ [mark])

/-- One byte of a quoted byte string. -/
def quotedByte (mark : Char) (byte : UInt8) : List Char :=
  let char := Char.ofNat byte.toNat
  match shortEscape? mark char with
  | some escape => escape
  | none =>
    if 0x20 ≤ byte.toNat ∧ byte.toNat < 0x7f then [char] else '\\' :: 'x' :: hexDigits 2 byte.toNat

/-- The byte string in quotation marks after the letter b. -/
def quotedBytes (bytes : List UInt8) : String :=
  let mark := enclosingMark (bytes.map fun byte => Char.ofNat byte.toNat)
  String.ofList ('b' :: mark :: bytes.flatMap (quotedByte mark) ++ [mark])

end Tablewright.Text
