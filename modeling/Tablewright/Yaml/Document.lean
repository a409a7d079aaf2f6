import Tablewright.Yaml.Node
import Tablewright.Yaml.Token

/-! # Documents

A file holds at most one document. Its tokens are read from the front, each only when it is needed:
what breaks them off is a problem only if nothing in front of it is. Collections can be nested only
so deeply.
-/

namespace Tablewright.Yaml

/-- How deeply collections can be nested. -/
def deepestNesting : Nat := 488

/-- Whether one of the tokens stands in front. -/
def nextIs (tokens : List Token) (expected : List Token) : Bool :=
  (tokens.head?.map expected.contains).getD false

/-- What is wrong if the token in front cannot stand there. -/
def misplaced : List Token → Problem
  | .broken problem :: _ => problem
  | _ => .malformed

/-- How deeply the collections in another can be nested, if it can be opened itself. -/
def openLevel : Nat → Except Problem Nat
  | 0 => .error .tooDeep
  | depth + 1 => .ok depth

mutual

/-- Reads a node. In a block, an entry may be a block itself; after a key a sequence need not be
indented. -/
def parseNode : Nat → (depth : Nat) → (inBlock indentless : Bool) → List Token →
    Except Problem (Node × List Token)
  | 0, _, _, _, _ => .error .malformed
  | fuel + 1, depth, inBlock, indentless, tokens =>
    match tokens with
    | .blockEntry :: _ => do
      if !indentless then .error .malformed
      let (items, rest) ← parseEntries fuel (← openLevel depth) false tokens
      return (.sequence items, rest)
    | .scalar text plain :: rest => .ok (.scalar text plain, rest)
    | .flowSequenceStart :: rest => do
      let (items, rest) ← parseFlowItems fuel (← openLevel depth) true rest
      return (.sequence items, rest)
    | .flowMappingStart :: rest => do
      let (entries, rest) ← parseFlowEntries fuel (← openLevel depth) true rest
      return (.mapping entries, rest)
    | .blockSequenceStart :: rest => do
      if !inBlock then .error .malformed
      let (items, rest) ← parseEntries fuel (← openLevel depth) true rest
      return (.sequence items, rest)
    | .blockMappingStart :: rest => do
      if !inBlock then .error .malformed
      let (entries, rest) ← parseKeys fuel (← openLevel depth) rest
      return (.mapping entries, rest)
    | _ => .error (misplaced tokens)

/-- Reads a node unless one of the tokens that may follow it stands in front. -/
def parseOptional : Nat → (depth : Nat) → (inBlock indentless : Bool) → List Token → List Token →
    Except Problem (Node × List Token)
  | 0, _, _, _, _, _ => .error .malformed
  | fuel + 1, depth, inBlock, indentless, followers, tokens =>
    if nextIs tokens followers then .ok (.absent, tokens)
    else parseNode fuel depth inBlock indentless tokens

/-- Reads the entries of a block sequence; one that is indented ends with its block. -/
def parseEntries : Nat → (depth : Nat) → (indented : Bool) → List Token →
    Except Problem (List Node × List Token)
  | 0, _, _, _ => .error .malformed
  | fuel + 1, depth, indented, tokens =>
    match tokens with
    | .blockEntry :: rest => do
      let followers : List Token :=
        if indented then [.blockEntry, .blockEnd] else [.blockEntry, .key, .value, .blockEnd]
      let (item, rest) ← parseOptional fuel depth true false followers rest
      let (items, rest) ← parseEntries fuel depth indented rest
      return (item :: items, rest)
    | .blockEnd :: rest => .ok ([], if indented then rest else tokens)
    | _ => if indented then .error (misplaced tokens) else .ok ([], tokens)

/-- Reads the entries of a block mapping up to its end. -/
def parseKeys : Nat → (depth : Nat) → List Token → Except Problem (List (Node × Node) × List Token)
  | 0, _, _ => .error .malformed
  | fuel + 1, depth, tokens =>
    let followers : List Token := [.key, .value, .blockEnd]
    match tokens with
    | .key :: rest => do
      let (key, rest) ← parseOptional fuel depth true true followers rest
      let (value, rest) ← match rest with
        | .value :: rest => parseOptional fuel depth true true followers rest
        | _ => .ok (.absent, rest)
      let (entries, rest) ← parseKeys fuel depth rest
      return ((key, value) :: entries, rest)
    | .blockEnd :: rest => .ok ([], rest)
    | _ => .error (misplaced tokens)

/-- Reads the items between brackets; a key with its value is a mapping of one entry. -/
def parseFlowItems : Nat → (depth : Nat) → (first : Bool) → List Token →
    Except Problem (List Node × List Token)
  | 0, _, _, _ => .error .malformed
  | fuel + 1, depth, first, tokens =>
    if nextIs tokens [.flowSequenceEnd] then .ok ([], tokens.drop 1)
    else if !first && !nextIs tokens [.flowEntry] then .error (misplaced tokens)
    else
      let rest := if first then tokens else tokens.drop 1
      match rest with
      | .key :: rest => do
        let inner ← openLevel depth
        let (key, rest) ←
          parseOptional fuel inner false false [.value, .flowEntry, .flowSequenceEnd] rest
        let (value, rest) ← match rest with
          | .value :: rest =>
            parseOptional fuel inner false false [.flowEntry, .flowSequenceEnd] rest
          | _ => .ok (.absent, rest)
        let (items, rest) ← parseFlowItems fuel depth false rest
        return (.mapping [(key, value)] :: items, rest)
      | .flowSequenceEnd :: rest => .ok ([], rest)
      | _ => do
        let (item, rest) ← parseNode fuel depth false false rest
        let (items, rest) ← parseFlowItems fuel depth false rest
        return (item :: items, rest)

/-- Reads the entries between braces; one without a value has an absent one. -/
def parseFlowEntries : Nat → (depth : Nat) → (first : Bool) → List Token →
    Except Problem (List (Node × Node) × List Token)
  | 0, _, _, _ => .error .malformed
  | fuel + 1, depth, first, tokens =>
    if nextIs tokens [.flowMappingEnd] then .ok ([], tokens.drop 1)
    else if !first && !nextIs tokens [.flowEntry] then .error (misplaced tokens)
    else
      let rest := if first then tokens else tokens.drop 1
      match rest with
      | .key :: rest => do
        let (key, rest) ←
          parseOptional fuel depth false false [.value, .flowEntry, .flowMappingEnd] rest
        let (value, rest) ← match rest with
          | .value :: rest =>
            parseOptional fuel depth false false [.flowEntry, .flowMappingEnd] rest
          | _ => .ok (.absent, rest)
        let (entries, rest) ← parseFlowEntries fuel depth false rest
        return ((key, value) :: entries, rest)
      | .flowMappingEnd :: rest => .ok ([], rest)
      | _ => do
        let (key, rest) ← parseNode fuel depth false false rest
        let (entries, rest) ← parseFlowEntries fuel depth false rest
        return ((key, .absent) :: entries, rest)

end

/-- The node at the start of a block. -/
def parseBlock (tokens : List Token) : Except Problem (Node × List Token) :=
  parseNode (4 * tokens.length + 4) deepestNesting true false tokens

/-- Passes over the directives in front, which name at most one version, the first of its kind. -/
def skipDirectives : (versioned : Bool) → List Token → Except Problem (List Token)
  | versioned, .directive version :: rest =>
    match version with
    | none => skipDirectives versioned rest
    | some (major, _) =>
      if versioned || major != 1 then .error .malformed else skipDirectives true rest
  | _, tokens => .ok tokens

/-- Whether the token is a directive. -/
def Token.isDirective : Token → Bool
  | .directive _ => true
  | _ => false

/-- Whether a directive stands in front. -/
def nextIsDirective (tokens : List Token) : Bool :=
  (tokens.head?.map Token.isDirective).getD false

/-- What stands after the directives and the start of a document. -/
def afterStart (tokens : List Token) : Except Problem (List Token) := do
  match ← skipDirectives false tokens with
  | .documentStart :: rest => return rest
  | rest => .error (misplaced rest)

/-- The content of a document: a node in a block, or nothing before the end or another start. -/
def parseContent (tokens : List Token) : Except Problem (Node × List Token) :=
  if nextIsDirective tokens || nextIs tokens [.documentStart, .documentEnd, .streamEnd] then
    .ok (.absent, tokens)
  else parseBlock tokens

/-- Checks that only ends of documents are left; another document is a problem. -/
def checkFinished (tokens : List Token) : Except Problem Unit :=
  let rest := tokens.dropWhile (· == .documentEnd)
  if rest == [.streamEnd] then .ok ()
  else do
    let _ ← afterStart rest
    .error .malformed

/-- The document of a file, none if the file holds none; two are a problem. -/
def parseDocument (tokens : List Token) : Except Problem (Option Node) :=
  if nextIs tokens [.streamEnd] then .ok none
  else do
    let (node, rest) ←
      if nextIsDirective tokens || nextIs tokens [.documentStart] then do
        parseContent (← afterStart tokens)
      else parseBlock tokens
    checkFinished rest
    return some node

/-- The value of the document in a file, null if there is none. -/
def Source.value (source : Source) : Except Problem Value := do
  match ← parseDocument source.tokens with
  | none => return .null
  | some node => node.read (deepestNesting + 1)

end Tablewright.Yaml
