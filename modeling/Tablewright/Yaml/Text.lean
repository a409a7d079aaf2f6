import Tablewright.Text.Digit
import Tablewright.Yaml.Cursor

/-! # Scalars in a document

Plain scalars go on over line ends as long as the following lines are indented; quoted scalars end
at their mark only. In both, a single line end becomes a space and further ones are kept.
-/

namespace Tablewright.Yaml

/-- What a line end and the empty lines after it become. -/
def foldBreaks (first : Char) (more : List Char) : List Char :=
  if first != '\n' then first :: more else if more.isEmpty then [' '] else more

/-! ## Plain scalars -/

/-- Whether the character ends a plain scalar between brackets. -/
def isFlowMark (char : Char) : Bool :=
  char == ',' || char == '[' || char == ']' || char == '\x7b' || char == '\x7d'

/-- How many characters in front belong to a plain scalar without a break. -/
def plainLength (inFlow : Bool) : List Char → Nat
  | [] => 0
  | char :: rest =>
    let colonEnds := endsToken rest || (inFlow && (rest.head?.map isFlowMark).getD false)
    if isSeparator char || (char == ':' && colonEnds) ||
        (inFlow && (isFlowMark char || char == '?')) then 0
    else plainLength inFlow rest + 1

/-- The line ends and indentation after the first line end of a plain scalar; none if the document
ends or another starts there. -/
def plainBreaks : Nat → Cursor → List Char → Option (List Char) × Cursor
  | 0, cursor, _ => (none, cursor)
  | fuel + 1, cursor, breaks =>
    if cursor.peek? == some ' ' then plainBreaks fuel cursor.advance breaks
    else
      match cursor.takeBreak? with
      | none => (some breaks, cursor)
      | some (char, next) =>
        if atMarker next.rest then (none, next) else plainBreaks fuel next (breaks ++ [char])

/-- What separates two parts of a plain scalar, empty if it ends here, and whether a key may follow
because a line has ended. -/
def plainGap (cursor : Cursor) : List Char × Cursor × Bool :=
  let spaces := cursor.rest.takeWhile (· == ' ')
  let cursor := cursor.advanceBy spaces.length
  match cursor.takeBreak? with
  | none => (spaces, cursor, false)
  | some (char, next) =>
    if atMarker next.rest then ([], next, true)
    else
      match plainBreaks (next.rest.length + 1) next [] with
      | (none, stopped) => ([], stopped, true)
      | (some breaks, stopped) => (foldBreaks char breaks, stopped, true)

/-- The rest of a plain scalar after what was read of it; whether a key may follow. -/
def plainRest (inFlow : Bool) (indent : Int) :
    Nat → Cursor → List Char → List Char → Bool → List Char × Cursor × Bool
  | 0, cursor, read, _, mayKey => (read, cursor, mayKey)
  | fuel + 1, cursor, read, gap, mayKey =>
    let length := plainLength inFlow cursor.rest
    if cursor.peek? == some '#' || length = 0 then (read, cursor, mayKey)
    else
      let read := read ++ gap ++ cursor.rest.take length
      let (gap, next, broken) := plainGap (cursor.advanceBy length)
      if gap.isEmpty || next.peek? == some '#' || (!inFlow && (next.column : Int) < indent) then
        (read, next, broken)
      else plainRest inFlow indent fuel next read gap broken

/-! ## Quoted scalars -/

/-- The characters that a backslash and a letter stand for. -/
def escapes : List (Char × Char) :=
  [('0', '\x00'), ('a', '\x07'), ('b', '\x08'), ('t', '\t'), ('\t', '\t'), ('n', '\n'),
    ('v', '\x0b'), ('f', '\x0c'), ('r', '\r'), ('e', '\x1b'), (' ', ' '), ('"', '"'),
    ('\\', '\\'), ('/', '/'), ('N', '\x85'), ('_', '\xa0'), ('L', '\u2028'), ('P', '\u2029')]

/-- The number of hexadecimal digits after a backslash and a letter. -/
def codeLength? : Char → Option Nat
  | 'x' => some 2
  | 'u' => some 4
  | 'U' => some 8
  | _ => none

/-- The number that hexadecimal digits form. -/
def hexNumber? (digits : List Char) : Option Nat :=
  digits.foldl (fun total digit => do return (← total) * 16 + (← Text.hexValue? digit)) (some 0)

/-- The number as a code point, if there is such a character. A number of more than 31 bits is not
even looked up. -/
def codePoint (number : Nat) : Except Problem Nat :=
  if 0x7fffffff < number then .error .outOfRange
  else if 0x10ffff < number then .error .noSuchValue
  else .ok number

/-- Whether the code point is the first half of a pair. -/
def isHighHalf (code : Nat) : Bool :=
  0xd800 ≤ code && code ≤ 0xdbff

/-- Whether the code point is the second half of a pair. -/
def isLowHalf (code : Nat) : Bool :=
  0xdc00 ≤ code && code ≤ 0xdfff

/-- The character with a code point; half of a pair is none. -/
def charOfCode (code : Nat) : Char :=
  if isHighHalf code || isLowHalf code then '\ufffd' else Char.ofNat code

/-- The characters with the code points, where two halves of a pair make one. -/
def charsOfCodes : List Nat → List Char
  | [] => []
  | [code] => [charOfCode code]
  | high :: low :: rest =>
    if isHighHalf high && isLowHalf low then
      Char.ofNat (0x10000 + (high - 0xd800) * 0x400 + (low - 0xdc00)) :: charsOfCodes rest
    else charOfCode high :: charsOfCodes (low :: rest)

/-- The code points of the characters. -/
def codesOf (chars : List Char) : List Nat :=
  chars.map Char.toNat

/-- The line ends inside a quoted scalar; a document may not end there. -/
def quotedBreaks : Nat → Cursor → List Char → Except Problem (List Char × Cursor)
  | 0, _, _ => .error .malformed
  | fuel + 1, cursor, breaks =>
    if atMarker cursor.rest then .error .malformed
    else
      let cursor := cursor.skipWhile fun char => char == ' ' || char == '\t'
      match cursor.takeBreak? with
      | none => .ok (breaks, cursor)
      | some (char, next) => quotedBreaks fuel next (breaks ++ [char])

/-- The code point that hexadecimal digits in front form. -/
def escapedCode (length : Nat) (chars : List Char) : Except Problem Nat :=
  match hexNumber? (chars.take length) with
  | none => .error .malformed
  | some number => if chars.length < length then .error .cutShort else codePoint number

/-- What a backslash and the characters after it stand for. -/
def escaped (cursor : Cursor) : Except Problem (List Nat × Cursor) :=
  match cursor.rest with
  | [] => .error .cutShort
  | char :: rest =>
    match escapes.lookup char, codeLength? char with
    | some meaning, _ => .ok ([meaning.toNat], cursor.advance)
    | none, some length => do return ([← escapedCode length rest], cursor.advanceBy (length + 1))
    | none, none =>
      match cursor.takeBreak? with
      | none => .error .malformed
      | some (_, next) => do
        let (breaks, stopped) ← quotedBreaks (next.rest.length + 1) next []
        return (codesOf breaks, stopped)

/-- The code points of the rest of a quoted scalar after its opening mark, and what follows the
closing one. -/
def quotedCodes (mark : Char) : Nat → Cursor → List Nat → Except Problem (List Nat × Cursor)
  | 0, _, _ => .error .malformed
  | fuel + 1, cursor, read =>
    match cursor.rest with
    | [] => .error .cutShort
    | char :: rest =>
      if char == mark then
        if mark == '\x27' && rest.head? == some '\x27' then
          quotedCodes mark fuel (cursor.advanceBy 2) (read ++ ['\x27'.toNat])
        else .ok (read, cursor.advance)
      else if mark == '"' && char == '\\' then do
        let (meaning, next) ← escaped cursor.advance
        quotedCodes mark fuel next (read ++ meaning)
      else if isSeparator char then
        let blanks := cursor.rest.takeWhile fun char => char == ' ' || char == '\t'
        let cursor := cursor.advanceBy blanks.length
        match cursor.takeBreak? with
        | none =>
          if cursor.rest.isEmpty then .error .cutShort
          else quotedCodes mark fuel cursor (read ++ codesOf blanks)
        | some (first, next) => do
          let (breaks, stopped) ← quotedBreaks (next.rest.length + 1) next []
          quotedCodes mark fuel stopped (read ++ codesOf (foldBreaks first breaks))
      else quotedCodes mark fuel cursor.advance (read ++ [char.toNat])

/-- The rest of a quoted scalar after its opening mark, and what follows the closing one. -/
def quotedRest (mark : Char) (cursor : Cursor) : Except Problem (List Char × Cursor) := do
  let (codes, next) ← quotedCodes mark (cursor.rest.length + 1) cursor []
  return (charsOfCodes codes, next)

end Tablewright.Yaml
