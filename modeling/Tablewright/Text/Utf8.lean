/-! # Reading bytes as text

Bytes are read as UTF-8, one after the other; each either fits what came before it or does not. The
forgiving reader puts one replacement character for each longest start of a character that is not
finished, and goes on with the byte that did not fit. The strict reader takes bytes in blocks and
stops before the block with the first byte that does not fit.
-/

namespace Tablewright.Text

/-- The character that stands for bytes without a meaning. -/
def replacement : Char := '\ufffd'

/-- A character of which not all bytes are read yet: how many are left, the bits so far, and the
range that the next byte has to be in. -/
structure UnfinishedChar where
  left : Nat
  bits : Nat
  low : UInt8
  high : UInt8

/-- What a byte that fits gives. -/
inductive CharState where
  | finished (char : Char)
  | unfinished (char : UnfinishedChar)

/-- The character that starts with a byte above the ASCII range. -/
def unfinishedChar? (byte : UInt8) : Option UnfinishedChar :=
  let code := byte.toNat
  if 0xc2 ≤ code ∧ code ≤ 0xdf then some ⟨1, code % 0x20, 0x80, 0xbf⟩
  else if code = 0xe0 then some ⟨2, 0, 0xa0, 0xbf⟩
  else if code = 0xed then some ⟨2, 0xd, 0x80, 0x9f⟩
  else if 0xe1 ≤ code ∧ code ≤ 0xef then some ⟨2, code % 0x10, 0x80, 0xbf⟩
  else if code = 0xf0 then some ⟨3, 0, 0x90, 0xbf⟩
  else if 0xf1 ≤ code ∧ code ≤ 0xf3 then some ⟨3, code % 8, 0x80, 0xbf⟩
  else if code = 0xf4 then some ⟨3, 4, 0x80, 0x8f⟩
  else none

/-- What a byte at the start of a character gives, if it fits there. -/
def firstByte? (byte : UInt8) : Option CharState :=
  if byte < 0x80 then some (.finished (Char.ofNat byte.toNat))
  else (unfinishedChar? byte).map .unfinished

/-- What the next byte of a character gives, if it fits. -/
def UnfinishedChar.next? (char : UnfinishedChar) (byte : UInt8) : Option CharState :=
  if char.low ≤ byte && byte ≤ char.high then
    let bits := char.bits * 0x40 + byte.toNat % 0x40
    if char.left ≤ 1 then some (.finished (Char.ofNat bits))
    else some (.unfinished ⟨char.left - 1, bits, 0x80, 0xbf⟩)
  else none

/-- What a byte gives after an unfinished character or after none, if it fits. -/
def nextByte? : Option UnfinishedChar → UInt8 → Option CharState
  | none, byte => firstByte? byte
  | some char, byte => char.next? byte

/-! ## The forgiving reader -/

/-- The characters of bytes that go on after an unfinished character or after none. -/
def decodeFrom : Option UnfinishedChar → List UInt8 → List Char
  | none, [] => []
  | some _, [] => [replacement]
  | unfinished, byte :: rest =>
    match nextByte? unfinished byte with
    | some (.finished char) => char :: decodeFrom none rest
    | some (.unfinished char) => decodeFrom (some char) rest
    | none =>
      match unfinished, firstByte? byte with
      | none, _ => replacement :: decodeFrom none rest
      | some _, some (.finished char) => replacement :: char :: decodeFrom none rest
      | some _, some (.unfinished char) => replacement :: decodeFrom (some char) rest
      | some _, none => replacement :: replacement :: decodeFrom none rest

/-- The text of the bytes, with replacement characters for what does not fit. -/
def decodeBytes (bytes : List UInt8) : String :=
  String.ofList (decodeFrom none bytes)

/-! ## The strict reader -/

/-- The characters of a block after an unfinished character or after none, and what is unfinished at
its end, if all of its bytes fit. -/
def readBlock? : Option UnfinishedChar → List UInt8 → Option (List Char × Option UnfinishedChar)
  | unfinished, [] => some ([], unfinished)
  | unfinished, byte :: rest =>
    match nextByte? unfinished byte with
    | some (.finished char) => (readBlock? none rest).map fun (chars, last) => (char :: chars, last)
    | some (.unfinished char) => readBlock? (some char) rest
    | none => none

/-- The characters of the blocks before the first that does not fit, and whether they are all. -/
def readBlocks : Option UnfinishedChar → List (List UInt8) → List Char × Bool
  | unfinished, [] => ([], unfinished.isNone)
  | unfinished, block :: blocks =>
    match readBlock? unfinished block with
    | some (chars, last) =>
      let (more, complete) := readBlocks last blocks
      (chars ++ more, complete)
    | none => ([], false)

/-- The bytes in blocks of one size, of which the last may be smaller. -/
def blocksOf (size : Nat) (bytes : List UInt8) : List (List UInt8) :=
  (List.range (bytes.length / size + 1)).map fun index => (bytes.drop (index * size)).take size

/-- The bytes of the text. -/
def bytesOf (text : String) : List UInt8 :=
  text.toUTF8.data.toList

end Tablewright.Text
