import Tablewright.Text.Utf8
import Tablewright.Yaml.Cursor

/-! # What is known of a document

The bytes of a document are read in blocks and its characters in parts, of which the first is twice
as long as the others. A part that cannot be read, or with a character that may not stand in a
document, is a flaw that shows only when reading gets there; until then, all that is known of the
document are the characters before that part.
-/

namespace Tablewright.Yaml

/-- Whether the character may stand in a document. -/
def isAllowed (char : Char) : Bool :=
  char == '\t' || char == '\n' || char == '\r' || (' ' ≤ char && char ≤ '~') ||
    char == '\x85' || ('\xa0' ≤ char && char ≤ '\ufffd') || 0x10000 ≤ char.toNat

/-- The characters with every kind of line end of a file as a line feed. -/
def normalizeBreaks : List Char → List Char
  | [] => []
  | '\r' :: '\n' :: rest => '\n' :: normalizeBreaks rest
  | '\r' :: rest => '\n' :: normalizeBreaks rest
  | char :: rest => char :: normalizeBreaks rest

/-- The characters before the first flaw of a document, and what the flaw is if there is one. -/
structure Source where
  chars : List Char
  flaw : Option Problem

namespace Source

/-- The number of bytes in a block. -/
def blockSize : Nat := 8192

/-- The number of characters in a part after the first. -/
def partSize : Nat := 4096

/-- The number of characters before the part that holds the character at the index. -/
def partStart (index : Nat) : Nat :=
  if index < 2 * partSize then 0 else index / partSize * partSize

/-- What is known of a document. Of two flaws in one part, bytes that are no text come first. -/
def ofBytes (bytes : List UInt8) : Source :=
  let (decoded, complete) := Text.readBlocks none (Text.blocksOf blockSize bytes)
  let chars := normalizeBreaks decoded
  let allowed := (chars.takeWhile isAllowed).length
  let known := chars.take (partStart allowed)
  if complete then
    if allowed = chars.length then ⟨chars, none⟩ else ⟨known, some .malformed⟩
  else if partStart allowed = partStart chars.length then ⟨known, some .undecodable⟩
  else ⟨known, some .malformed⟩

end Source

end Tablewright.Yaml
