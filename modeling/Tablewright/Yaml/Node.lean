import Tablewright.Yaml.Scalar

/-! # Parts of a document

A document is a tree of scalars, sequences and mappings. Its value is built from its leaves. Of
entries with equal keys the last one counts, at the place of the first; a merged mapping comes
before the entries beside it.

What is wrong with the leaves is found level by level: a collection is opened after all collections
that are nested less deeply, and opening it reads its scalars in their order. Only the first problem
counts, so the order can be seen.
-/

namespace Tablewright.Yaml

/-- A part of a document. -/
inductive Node where
  | scalar (text : List Char) (plain : Bool)
  | sequence (items : List Node)
  | mapping (entries : List (Node × Node))

namespace Node

/-- The node that stands where nothing is written. -/
def absent : Node :=
  .scalar [] true

/-- Whether the node is the plain sign for merging. -/
def isMerge : Node → Bool
  | .scalar text true => text = "<<".toList
  | _ => false

/-- The value of a scalar. -/
def leafValue (text : List Char) (plain : Bool) : Except Problem Value :=
  if plain then scalarValue text else .ok (.text (String.ofList text))

/-- The value of a scalar that is a key, where the plain sign for a default value is a text. -/
def leafKey (text : List Char) (plain : Bool) : Except Problem Value :=
  if plain && text = "=".toList then .ok (.text "=") else leafValue text plain

/-- The entries of the mappings that are merged into another, and those beside them. -/
def mergedEntries : Nat → List (Node × Node) → Except Problem (List (Node × Node))
  | 0, _ => .error .malformed
  | fuel + 1, entries => do
    let merged ← entries.mapM fun (key, value) =>
      if key.isMerge then
        match value with
        | .mapping inner => mergedEntries fuel inner
        | .sequence items => do
          let parts ← items.reverse.mapM fun item =>
            match item with
            | .mapping inner => mergedEntries fuel inner
            | _ => .error .malformed
          return parts.flatten
        | _ => .error .malformed
      else .ok []
    return merged.flatten ++ entries.filter fun entry => !entry.1.isMerge

/-- Reads an item or the value of an entry: a collection is kept for the next level. -/
def openItem : Node → Except Problem (List Node)
  | .scalar text plain => do
    let _ ← leafValue text plain
    return []
  | collection => .ok [collection]

/-- Reads an entry; only a scalar can be its key. -/
def openEntry (entry : Node × Node) : Except Problem (List Node) :=
  match entry.1 with
  | .scalar text plain => do
    let _ ← leafKey text plain
    openItem entry.2
  | _ => .error .malformed

/-- Opens a node of at most the given depth: its scalars are read, and the collections in it are
kept for the next level. -/
def openNode (depth : Nat) : Node → Except Problem (List Node)
  | .scalar text plain => openItem (.scalar text plain)
  | .sequence items => do return (← items.mapM openItem).flatten
  | .mapping entries => do return (← (← mergedEntries depth entries).mapM openEntry).flatten

/-- Opens the nodes of a level and then the collections in them, down to the given depth. -/
def checkLevels : Nat → List Node → Except Problem Unit
  | 0, _ => .ok ()
  | depth + 1, nodes => do
    let inner ← nodes.mapM (openNode (depth + 1))
    checkLevels depth inner.flatten

/-- Whether two keys are one. There is only one not-a-number in a document. -/
def isSameKey (left right : Value) : Bool :=
  left.same right || (left == .float .nan && right == .float .nan)

/-- The entries with a key set to a value: an equal key keeps its place. -/
def putEntry (entries : List (Value × Value)) (key value : Value) : List (Value × Value) :=
  if entries.any fun entry => isSameKey entry.1 key then
    entries.map fun entry => if isSameKey entry.1 key then (entry.1, value) else entry
  else entries ++ [(key, value)]

/-- What was read, or null where nothing could be. -/
def readOrNull (read : Except Problem Value) : Value :=
  read.toOption.getD .null

/-- The value of a node in which nothing is wrong, down to the given depth. -/
def value : Nat → Node → Value
  | 0, _ => .null
  | _ + 1, .scalar text plain => readOrNull (leafValue text plain)
  | depth + 1, .sequence items => .list (items.map (value depth))
  | depth + 1, .mapping entries =>
    let merged := (mergedEntries (depth + 1) entries).toOption.getD []
    .map (merged.foldl
      (fun read (key, item) =>
        match key with
        | .scalar text plain => putEntry read (readOrNull (leafKey text plain)) (value depth item)
        | _ => read) [])

/-- The value of a node that is nested no deeper than the given number, if nothing is wrong. -/
def read (depth : Nat) (node : Node) : Except Problem Value := do
  checkLevels depth [node]
  return value depth node

end Node

end Tablewright.Yaml
