/-! # Positions in a document

A cursor is what is left of a document, and where that starts. Lines end at the line feed, the
carriage return, the next-line character and the two separators.
-/

namespace Tablewright.Yaml

/-- Why a document has no value. -/
inductive Problem where
  /-- The document breaks the grammar. -/
  | malformed
  /-- A scalar has the form of a date, a number or a character but stands for none. -/
  | noSuchValue
  /-- A number is too large for what it is needed for. -/
  | outOfRange
  /-- The bytes are no text. -/
  | undecodable
  /-- Collections are nested too deeply. -/
  | tooDeep
  /-- Nothing is left where a token is not complete. -/
  | cutShort
deriving DecidableEq

/-- Whether the character ends a line. -/
def isBreak (char : Char) : Bool :=
  char == '\n' || char == '\r' || char == '\x85' || char == '\u2028' || char == '\u2029'

/-- Whether the character separates tokens: a space, a tab or the end of a line. -/
def isSeparator (char : Char) : Bool :=
  char == ' ' || char == '\t' || isBreak char

/-- Whether nothing is left or a separator comes next. -/
def endsToken : List Char → Bool
  | [] => true
  | char :: _ => isSeparator char

/-- Whether a marker of three equal characters stands in front, alone on its line or before a
separator. -/
def startsMarker (mark : Char) (chars : List Char) : Bool :=
  [mark, mark, mark].isPrefixOf chars && endsToken (chars.drop 3)

/-- Whether a document starts or ends here. -/
def atMarker (chars : List Char) : Bool :=
  startsMarker '-' chars || startsMarker '.' chars

/-- The rest of a document and its position. -/
structure Cursor where
  rest : List Char
  index : Nat
  line : Nat
  column : Nat

namespace Cursor

/-- The start of a document. -/
def start (chars : List Char) : Cursor :=
  ⟨chars, 0, 0, 0⟩

/-- The next character. -/
def peek? (cursor : Cursor) : Option Char :=
  cursor.rest.head?

/-- Passes over one character. -/
def advance (cursor : Cursor) : Cursor :=
  match cursor.rest with
  | [] => cursor
  | char :: rest =>
    let endsLine := isBreak char && !(char == '\r' && rest.head? == some '\n')
    { rest
      index := cursor.index + 1
      line := if endsLine then cursor.line + 1 else cursor.line
      column :=
        if endsLine then 0 else if char == '\ufeff' then cursor.column else cursor.column + 1 }

/-- Passes over several characters. -/
def advanceBy (cursor : Cursor) : Nat → Cursor
  | 0 => cursor
  | count + 1 => cursor.advance.advanceBy count

/-- Passes over the characters in front that satisfy the test. -/
def skipWhile (cursor : Cursor) (test : Char → Bool) : Cursor :=
  cursor.advanceBy (cursor.rest.takeWhile test).length

/-- The end of a line in front, as a single character, and what follows it. -/
def takeBreak? (cursor : Cursor) : Option (Char × Cursor) :=
  match cursor.rest with
  | '\r' :: '\n' :: _ => some ('\n', cursor.advanceBy 2)
  | char :: _ =>
    if char == '\u2028' || char == '\u2029' then some (char, cursor.advance)
    else if isBreak char then some ('\n', cursor.advance)
    else none
  | [] => none

end Cursor

end Tablewright.Yaml
