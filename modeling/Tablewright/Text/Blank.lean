import Tablewright.Text.Ranges

/-! # Blank characters

The white space that is trimmed from the ends of a text: the Unicode space characters, the ASCII
controls from tab to carriage return, and the four information separators. A zero-width space is
not blank.
-/

namespace Tablewright.Text

/-- The code points of blank characters. -/
def blankRanges : List (Nat × Nat) :=
  [(0x09, 0x0d), (0x1c, 0x20), (0x85, 0x85), (0xa0, 0xa0), (0x1680, 0x1680), (0x2000, 0x200a),
    (0x2028, 0x2029), (0x202f, 0x202f), (0x205f, 0x205f), (0x3000, 0x3000)]

/-- Whether the character is white space. -/
def isBlank (char : Char) : Bool :=
  inRanges blankRanges char.toNat

/-- The characters without the blank ones at both ends. -/
def trimChars (chars : List Char) : List Char :=
  ((chars.dropWhile isBlank).reverse.dropWhile isBlank).reverse

/-- The text without blank characters at both ends. -/
def trim (text : String) : String :=
  String.ofList (trimChars text.toList)

end Tablewright.Text
