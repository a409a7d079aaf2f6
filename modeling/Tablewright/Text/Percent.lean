import Tablewright.Text.Digit
import Tablewright.Text.Quoted
import Tablewright.Text.Utf8

/-! # Percent encoding

In a URL a byte can be written as a percent sign and two hexadecimal digits. A percent sign without
two digits after it stands for itself.
-/

namespace Tablewright.Text

/-- The bytes that an encoded text stands for. -/
def percentBytes : List Char → List UInt8
  | '%' :: high :: low :: rest =>
    match hexValue? high, hexValue? low with
    | some first, some second => UInt8.ofNat (first * 16 + second) :: percentBytes rest
    | _, _ => bytesOf "%" ++ percentBytes (high :: low :: rest)
  | char :: rest => bytesOf (String.singleton char) ++ percentBytes rest
  | [] => []

/-- The text that an encoded text stands for. -/
def percentDecoded (text : String) : String :=
  decodeBytes (percentBytes text.toList)

/-- Whether the character stands for itself in every part of a URL. -/
def isUnreserved (char : Char) : Bool :=
  char.isAlphanum || char == '_' || char == '.' || char == '-' || char == '~'

/-- One byte of an encoded text. -/
def percentByte (safe : List Char) (byte : UInt8) : List Char :=
  let char := Char.ofNat byte.toNat
  if isUnreserved char || safe.contains char then [char]
  else '%' :: (hexDigits 2 byte.toNat).map Char.toUpper

/-- The encoding of a text in which the safe characters stand for themselves. -/
def percentEncoded (safe : List Char) (text : String) : String :=
  String.ofList ((bytesOf text).flatMap (percentByte safe))

end Tablewright.Text
