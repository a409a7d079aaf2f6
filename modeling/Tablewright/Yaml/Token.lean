import Tablewright.Yaml.Source
import Tablewright.Yaml.Text

/-! # Tokens of a document

A document is a sequence of tokens. Indentation becomes tokens of its own: a block starts where the
indentation grows and ends where it shrinks. A key is only known by the colon after it, so the
tokens that start a block of entries and a key are put in front of what turned out to be the key. A
key lies on one line and is at most 1024 characters long. Anchors, tags and block scalars have no
tokens here, so a document that holds one is malformed.

Where the tokens of a document break off, only those in front are known that no key can turn up
before. A last token says what is wrong after them, because it matters only to who gets that far.
-/

namespace Tablewright.Yaml

/-- A token. -/
inductive Token where
  | directive (version : Option (Nat × Nat))
  | documentStart
  | documentEnd
  | blockSequenceStart
  | blockMappingStart
  | blockEnd
  | flowSequenceStart
  | flowSequenceEnd
  | flowMappingStart
  | flowMappingEnd
  | blockEntry
  | flowEntry
  | key
  | value
  | scalar (text : List Char) (plain : Bool)
  | streamEnd
  /-- The tokens break off because of the problem. -/
  | broken (problem : Problem)
deriving DecidableEq

/-- A place where a key may have started. -/
structure PossibleKey where
  token : Nat
  required : Bool
  index : Nat
  line : Nat
  column : Nat

/-- The tokens read so far and where reading stands. The indentations are those of the open blocks,
the innermost first; outside all of them it is -1. Possible keys are kept by depth of brackets. -/
structure Scan where
  cursor : Cursor
  tokens : List Token
  depth : Nat
  indents : List Int
  mayKey : Bool
  keys : List (Nat × PossibleKey)

namespace Scan

/-- The scan of a document at its start. -/
def start (chars : List Char) : Scan :=
  ⟨Cursor.start chars, [], 0, [], true, []⟩

/-- The indentation of the innermost block. -/
def indent (scan : Scan) : Int :=
  scan.indents.head?.getD (-1)

/-- Adds a token. -/
def push (scan : Scan) (token : Token) : Scan :=
  { scan with tokens := scan.tokens ++ [token] }

/-- Passes over characters. -/
def advanceBy (scan : Scan) (count : Nat) : Scan :=
  { scan with cursor := scan.cursor.advanceBy count }

/-- Passes over blanks, comments and line ends. Outside brackets a key may start a line. -/
def skipBlanks : Nat → Scan → Scan
  | 0, scan => scan
  | fuel + 1, scan =>
    let spaced := scan.cursor.skipWhile (· == ' ')
    let cursor := if spaced.peek? == some '#' then spaced.skipWhile (!isBreak ·) else spaced
    match cursor.takeBreak? with
    | none => { scan with cursor := cursor }
    | some (_, next) =>
      skipBlanks fuel { scan with cursor := next, mayKey := scan.mayKey || scan.depth = 0 }

/-- Forgets the keys that can no longer be completed; one that had to be completed is a problem. -/
def dropStaleKeys (scan : Scan) : Except Problem Scan :=
  let stale (key : PossibleKey) : Bool :=
    key.line != scan.cursor.line || 1024 < scan.cursor.index - key.index
  if scan.keys.any fun entry => stale entry.2 && entry.2.required then .error .malformed
  else .ok { scan with keys := scan.keys.filter fun entry => !stale entry.2 }

/-- Forgets the possible key at this depth; one that had to be completed is a problem. -/
def removeKey (scan : Scan) : Except Problem Scan :=
  match scan.keys.lookup scan.depth with
  | none => .ok scan
  | some key =>
    if key.required then .error .malformed
    else .ok { scan with keys := scan.keys.filter fun entry => entry.1 != scan.depth }

/-- Remembers that a key may start here. -/
def saveKey (scan : Scan) : Except Problem Scan :=
  if scan.mayKey then do
    let required := scan.depth = 0 && scan.indent = scan.cursor.column
    let key : PossibleKey :=
      ⟨scan.tokens.length, required, scan.cursor.index, scan.cursor.line, scan.cursor.column⟩
    let removed ← scan.removeKey
    return { removed with keys := (scan.depth, key) :: removed.keys }
  else .ok scan

/-- Ends the blocks that are indented more than the column. -/
def unwind (scan : Scan) (column : Int) : Scan :=
  if scan.depth = 0 then
    let ended := scan.indents.takeWhile fun indent => column < indent
    { scan with
      indents := scan.indents.drop ended.length
      tokens := scan.tokens ++ ended.map fun _ => .blockEnd }
  else scan

/-- Starts a block at the column unless one of that indentation is open; the token that starts it
goes to the given place. -/
def indentTo (scan : Scan) (column : Int) (token : Token) (place : Nat) : Scan :=
  if scan.indent < column then
    { scan with
      indents := column :: scan.indents
      tokens := scan.tokens.take place ++ token :: scan.tokens.drop place }
  else scan

/-- The end of the document. -/
def finish (scan : Scan) : Except Problem Scan := do
  let ended ← (scan.unwind (-1)).removeKey
  return { ended with keys := [] }.push .streamEnd

/-- The version in a directive, after which only a comment may follow. -/
def directiveVersion? (chars : List Char) : Option (Nat × Nat) :=
  let number (digits : List Char) : Option Nat :=
    if !digits.isEmpty && digits.all Char.isDigit then (String.ofList digits).toNat? else none
  let word := chars.takeWhile (!isSeparator ·)
  let major := word.takeWhile (· != '.')
  let after := (chars.drop word.length).dropWhile (· == ' ')
  match word.drop major.length with
  | '.' :: minor =>
    if after.isEmpty || after.head? == some '#' then do
      return (← number major, ← number minor)
    else none
  | _ => none

/-- A line that starts with a percent sign. -/
def directive (scan : Scan) : Except Problem Scan := do
  let removed ← (scan.unwind (-1)).removeKey
  let line := removed.cursor.rest.takeWhile (!isBreak ·)
  let name := (line.drop 1).takeWhile fun char => char.isAlphanum || char == '-' || char == '_'
  let rest := line.drop (name.length + 1)
  let next := { removed with mayKey := false }.advanceBy line.length
  if name.isEmpty || !endsToken rest then .error .malformed
  else if name = "YAML".toList then
    match directiveVersion? (rest.dropWhile (· == ' ')) with
    | some version => return next.push (.directive (some version))
    | none => .error .malformed
  else return next.push (.directive none)

/-- A line of three hyphens or three points. -/
def marker (scan : Scan) (token : Token) : Except Problem Scan := do
  let removed ← (scan.unwind (-1)).removeKey
  return ({ removed with mayKey := false }.advanceBy 3).push token

/-- An opening bracket. -/
def openFlow (scan : Scan) (token : Token) : Except Problem Scan := do
  let saved ← scan.saveKey
  return ({ saved with depth := saved.depth + 1, mayKey := true }.advanceBy 1).push token

/-- A closing bracket. -/
def closeFlow (scan : Scan) (token : Token) : Except Problem Scan := do
  let removed ← scan.removeKey
  return ({ removed with depth := removed.depth - 1, mayKey := false }.advanceBy 1).push token

/-- A comma between brackets. -/
def flowEntry (scan : Scan) : Except Problem Scan := do
  let removed ← scan.removeKey
  return ({ removed with mayKey := true }.advanceBy 1).push .flowEntry

/-- A hyphen that starts an entry. -/
def blockEntry (scan : Scan) : Except Problem Scan := do
  if scan.depth = 0 && !scan.mayKey then .error .malformed
  else
    let indented :=
      if scan.depth = 0 then
        scan.indentTo scan.cursor.column .blockSequenceStart scan.tokens.length
      else scan
    let removed ← { indented with mayKey := true }.removeKey
    return (removed.advanceBy 1).push .blockEntry

/-- A question mark that starts a key. -/
def explicitKey (scan : Scan) : Except Problem Scan := do
  if scan.depth = 0 && !scan.mayKey then .error .malformed
  else
    let indented :=
      if scan.depth = 0 then
        scan.indentTo scan.cursor.column .blockMappingStart scan.tokens.length
      else scan
    let removed ← { indented with mayKey := scan.depth = 0 }.removeKey
    return (removed.advanceBy 1).push .key

/-- A colon after a key. -/
def valueMark (scan : Scan) : Except Problem Scan := do
  match scan.keys.lookup scan.depth with
  | some key =>
    let keyed :=
      { scan with
        keys := scan.keys.filter fun entry => entry.1 != scan.depth
        tokens := scan.tokens.take key.token ++ Token.key :: scan.tokens.drop key.token }
    let indented :=
      if scan.depth = 0 then keyed.indentTo key.column .blockMappingStart key.token else keyed
    return ({ indented with mayKey := false }.advanceBy 1).push .value
  | none =>
    if scan.depth = 0 && !scan.mayKey then .error .malformed
    else
      let indented :=
        if scan.depth = 0 then
          scan.indentTo scan.cursor.column .blockMappingStart scan.tokens.length
        else scan
      let removed ← { indented with mayKey := scan.depth = 0 }.removeKey
      return (removed.advanceBy 1).push .value

/-- A quoted scalar. -/
def quotedScalar (scan : Scan) (mark : Char) : Except Problem Scan := do
  let saved ← scan.saveKey
  let (text, next) ← quotedRest mark saved.cursor.advance
  return { saved with cursor := next, mayKey := false }.push (.scalar text false)

/-- Whether a plain scalar starts with the characters. -/
def startsPlain (inFlow : Bool) : List Char → Bool
  | [] => false
  | char :: rest =>
    let indicator := isSeparator char || "-?:,[]#&*!|>'\"%@`".toList.contains char ||
      char == '\x7b' || char == '\x7d'
    !indicator ||
      (!endsToken rest && (char == '-' || (!inFlow && (char == '?' || char == ':'))))

/-- A plain scalar. -/
def plainScalar (scan : Scan) : Except Problem Scan := do
  let saved ← scan.saveKey
  let (text, next, mayKey) :=
    plainRest (saved.depth != 0) (saved.indent + 1) (saved.cursor.rest.length + 1) saved.cursor []
      [] false
  return { saved with cursor := next, mayKey := mayKey }.push (.scalar text true)

/-- Reads one token after blanks. -/
def readToken (scan : Scan) : Except Problem Scan :=
  let chars := scan.cursor.rest
  let inFlow := scan.depth != 0
  let atLineStart := scan.cursor.column = 0
  match chars with
  | [] => scan.finish
  | char :: rest =>
    let alone := endsToken rest
    if char == '%' && atLineStart then scan.directive
    else if atLineStart && startsMarker '-' chars then scan.marker .documentStart
    else if atLineStart && startsMarker '.' chars then scan.marker .documentEnd
    else if char == '[' then scan.openFlow .flowSequenceStart
    else if char == '\x7b' then scan.openFlow .flowMappingStart
    else if char == ']' then scan.closeFlow .flowSequenceEnd
    else if char == '\x7d' then scan.closeFlow .flowMappingEnd
    else if char == ',' then scan.flowEntry
    else if char == '-' && alone then scan.blockEntry
    else if char == '?' && (inFlow || alone) then scan.explicitKey
    else if char == ':' && (inFlow || alone) then scan.valueMark
    else if char == '\x27' || char == '"' then scan.quotedScalar char
    else if startsPlain inFlow chars then scan.plainScalar
    else .error .malformed

/-- Reads one token and what stands before it. -/
def step (scan : Scan) : Except Problem Scan := do
  let start :=
    if scan.cursor.index = 0 && scan.cursor.peek? == some '\ufeff' then scan.advanceBy 1 else scan
  let fresh ← (skipBlanks (start.cursor.rest.length + 1) start).dropStaleKeys
  (← (fresh.unwind fresh.cursor.column).readToken).dropStaleKeys

/-- Reads one token of a document with or without a flaw: it is the flaw that shows where nothing
more is known. -/
def stepKnown (flaw : Option Problem) (scan : Scan) : Except Problem Scan :=
  match scan.step with
  | .error .cutShort => .error (flaw.getD .malformed)
  | .error problem => .error problem
  | .ok next =>
    match flaw with
    | some problem => if next.cursor.rest.isEmpty then .error problem else .ok next
    | none => .ok next

/-- The tokens in front that no key can turn up before. -/
def settled (scan : Scan) : List Token :=
  scan.tokens.take (scan.keys.foldl (fun least entry => min least entry.2.token) scan.tokens.length)

/-- Reads the tokens up to the end of the document or to where they break off. -/
def readAll (flaw : Option Problem) : Nat → Scan → List Token
  | 0, scan => scan.settled ++ [.broken .malformed]
  | fuel + 1, scan =>
    match scan.stepKnown flaw with
    | .error problem => scan.settled ++ [.broken problem]
    | .ok next =>
      if next.tokens.getLast? = some .streamEnd then next.tokens else readAll flaw fuel next

end Scan

/-- The tokens of a document, of which the last is its end or the place where they break off. -/
def Source.tokens (source : Source) : List Token :=
  Scan.readAll source.flaw (source.chars.length + 2) (Scan.start source.chars)

end Tablewright.Yaml
