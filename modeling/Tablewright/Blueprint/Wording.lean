import Tablewright.Blueprint.Basic
import Tablewright.Text.Blank
import Tablewright.Text.Uppercase
import Tablewright.Value.Fill

/-! # The wording of a blueprint

Values are read in the blueprint that they were given to, as it is at the time. A column that is
mentioned reads like its spec, a foreign key like what it refers to, and a list like its elements. A
list that is met inside itself is abbreviated, so that a list of columns may be the default of one
of them; anything else that mentions itself has no wording. There are only finitely many things to
mention: each list is gone into once, and whatever else is met twice in the same lists contains
itself.
-/

namespace Tablewright

/-- A referential action in the form in which it is written. -/
def actionText : Value → Except Fault String
  | .action action => .ok action.keyword
  | value => value.shown.map fun text => Text.upper (Text.trim text)

namespace Blueprint

/-- The spec at a position as something that takes calls. -/
def specTarget (index : Nat) (spec : Spec) : Target :=
  match spec with
  | .column _ => .column (.attached index)
  | .plain _ => .spec index

/-- The specs as values. -/
def specValues (blueprint : Blueprint) : List Value :=
  blueprint.specs.zipIdx.map fun (spec, index) => .ofTarget (specTarget index spec)

/-- The foreign keys opened since as many finalizations, up to the next one, as values. -/
def keyValues (blueprint : Blueprint) (round : Nat) : List Value :=
  let ends := 0 :: blueprint.finalizations
  let start := ends[round]?.getD blueprint.foreignKeys.length
  let stop := ends[round + 1]?.getD blueprint.foreignKeys.length
  ((List.range stop).drop start).map fun index => .ofTarget (.key index)

/-- The elements of a mentioned list. -/
def listed? (blueprint : Blueprint) : Mention → Option (List Value)
  | .specs => some blueprint.specValues
  | .keys round => some (blueprint.keyValues round)
  | .list index => some (blueprint.lists[index]?.getD [])
  | _ => none

/-- The value with the list that it stands for in its place. -/
def viewed (blueprint : Blueprint) (value : Value) : Value :=
  match value with
  | .mention something => (blueprint.listed? something).elim value .list
  | _ => value

/-- The type with the list that its sign stands for in its place. -/
def viewedType (blueprint : Blueprint) (type : ColumnType) : ColumnType :=
  type.mapSign blueprint.viewed

/-- Whether the value counts as true. -/
def isTruthy (blueprint : Blueprint) (value : Value) : Bool :=
  (blueprint.viewed value).isTruthy

/-- The name of the column that a foreign key is on, as far as what was given for a column has a
name or a column. -/
def keyColumnName (blueprint : Blueprint) (key : ForeignKey) : Except Fault Value :=
  match key.column with
  | .mention (.target .blueprint) => .ok (.text blueprint.name)
  | .mention (.target (.column ref)) => .ok (blueprint.columnName ref)
  | .mention (.target (.spec index)) =>
    .ok ((blueprint.specs[index]?.map Spec.columnName).getD .null)
  | .mention (.kind kind) => .ok (.text kind.name)
  | .action action => .ok (.text action.name)
  | other => .error (.noSuchMember other.kindName "column")

/-- Whether the column and the table that a foreign key refers to are known. -/
def isComplete (blueprint : Blueprint) (key : ForeignKey) : Bool :=
  blueprint.isTruthy key.referencedColumn && (key.referencedTable.getD "") != ""

/-! ## Wording with a given reading of values -/

section Reading

variable (blueprint : Blueprint) (words : Value → Except Fault Value)

/-- The fragment that declares a column. -/
def columnSqlBy (column : Column) : Except Fault String := do
  let viewed :=
    { column with
      type := column.type.map blueprint.viewedType
      nullability := blueprint.viewed column.nullability }
  (← viewed.inWords words).sql

/-- The fragment of a spec. -/
def specSqlBy : Spec → Except Fault String
  | .column column => blueprint.columnSqlBy words column
  | .plain spec => .ok spec.text

/-- A spec in messages: its kind, and its fragment or the column if that is empty. -/
def quotedSpecBy (spec : Spec) : Except Fault String :=
  match spec.kind with
  | .other _ => .error (.noSuchMember "str" "name")
  | kind => do
    let fragment ← blueprint.specSqlBy words spec
    let text ← if fragment = "" then (words spec.columnName).bind Value.shown else pure fragment
    return "<" ++ kind.name ++ " " ++ text ++ ">"

/-- A foreign key in messages. -/
def quotedKeyBy (key : ForeignKey) : Except Fault String := do
  let column ← (words (← blueprint.keyColumnName key)).bind Value.shown
  let referenced ← (words key.referencedColumn).bind Value.shown
  return "ForeignKeyDraft(" ++ column ++ " -> " ++ key.tableText ++ "." ++ referenced ++ ")"

/-- The blueprint in messages. -/
def quoted : String :=
  "Blueprint(" ++ blueprint.table ++ ", specs=" ++ toString blueprint.specs.length ++ ")"

/-- Something that takes calls in messages. -/
def quotedTargetBy : Target → Except Fault String
  | .blueprint => .ok blueprint.quoted
  | .column ref =>
    match blueprint.column? ref with
    | some column => blueprint.quotedSpecBy words (.column column)
    | none => .error .badTarget
  | .spec index =>
    match blueprint.specs[index]? with
    | some spec => blueprint.quotedSpecBy words spec
    | none => .error .badTarget
  | .key index =>
    match blueprint.foreignKeys[index]? with
    | some key => blueprint.quotedKeyBy words key
    | none => .error .badTarget

/-- A mention of anything but a list in words. -/
def mentionBy : Mention → Except Fault Value
  | .target target => do
    let text ← blueprint.quotedTargetBy words target
    return .mention (.wording text text)
  | other => .ok (.mention other)

end Reading

/-! ## Wording -/

/-- How many lists there are to mention: the specs, the foreign keys of each round, and those that
are kept. -/
def listCount (blueprint : Blueprint) : Nat :=
  blueprint.finalizations.length + blueprint.lists.length + 2

/-- How many other things there are to mention that may mention something in turn. -/
def targetCount (blueprint : Blueprint) : Nat :=
  2 * blueprint.specs.length + blueprint.detached.length + blueprint.foreignKeys.length

/-- More than the number of mentions that can be nested without one containing itself for good:
before each list, and after the last one, everything else can be met once. -/
def mentionDepth (blueprint : Blueprint) : Nat :=
  (blueprint.listCount + 1) * (blueprint.targetCount + 1)

/-- The value in words, inside the given lists, if mentions are nested no deeper than the given
number. -/
def wordsWithin (blueprint : Blueprint) :
    Nat → (around : List Mention) → Value → Except Fault Value
  | 0, _, value => value.fill fun _ => .error .endlessWording
  | depth + 1, around, value =>
    value.fill fun something =>
      match blueprint.listed? something with
      | some values =>
        if around.contains something then .ok Value.abbreviatedList
        else blueprint.wordsWithin depth (something :: around) (.list values)
      | none => blueprint.mentionBy (blueprint.wordsWithin depth around) something

/-- The value in words. -/
def words (blueprint : Blueprint) (value : Value) : Except Fault Value :=
  blueprint.wordsWithin blueprint.mentionDepth [] value

/-- The plain text of a value. -/
def shown (blueprint : Blueprint) (value : Value) : Except Fault String :=
  (blueprint.words value).bind Value.shown

/-- The fragment that declares a column. -/
def columnSql (blueprint : Blueprint) (column : Column) : Except Fault String :=
  blueprint.columnSqlBy blueprint.words column

/-- The fragment of a spec. -/
def specSql (blueprint : Blueprint) (spec : Spec) : Except Fault String :=
  blueprint.specSqlBy blueprint.words spec

/-- A spec in messages. -/
def quotedSpec (blueprint : Blueprint) (spec : Spec) : Except Fault String :=
  blueprint.quotedSpecBy blueprint.words spec

/-- A foreign key in messages. -/
def quotedKey (blueprint : Blueprint) (key : ForeignKey) : Except Fault String :=
  blueprint.quotedKeyBy blueprint.words key

/-- Something that takes calls in messages. -/
def quotedTarget (blueprint : Blueprint) (target : Target) : Except Fault String :=
  blueprint.quotedTargetBy blueprint.words target

/-- The name of the column that a foreign key is on, as it is written. -/
def keyColumnText (blueprint : Blueprint) (key : ForeignKey) : Except Fault String := do
  blueprint.shown (← blueprint.keyColumnName key)

/-- The name of a foreign key's constraint. -/
def constraintName (blueprint : Blueprint) (key : ForeignKey) : Except Fault String := do
  return blueprint.table ++ "_" ++ (← blueprint.keyColumnText key) ++ "_fk"

/-- The constraint of a foreign key. -/
def keySql (blueprint : Blueprint) (key : ForeignKey) : Except Fault String := do
  let name ← blueprint.constraintName key
  let column ← blueprint.keyColumnText key
  let referenced ← blueprint.shown key.referencedColumn
  return "CONSTRAINT " ++ quoteName name ++ " FOREIGN KEY (" ++ quoteName column ++
    ") REFERENCES " ++ quoteName key.tableText ++ " (" ++ quoteName referenced ++ ")" ++
    ForeignKey.actionClause "DELETE" key.deleteAction ++
    ForeignKey.actionClause "UPDATE" key.updateAction

end Blueprint

end Tablewright
