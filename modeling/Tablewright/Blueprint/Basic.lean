import Tablewright.Blueprint.Column

/-! # Blueprints

A blueprint collects what is declared about one table: its specs in order, the column defined last,
and the foreign keys that were opened. Specs are only ever appended or edited in place, so a column
is known by its position. A foreign key may be on a column that the blueprint does not define; such
columns are kept apart.
-/

namespace Tablewright

/-- A foreign key as far as it is declared. It is on a column, or on anything else that was given
for one. The table it refers to has its prefix already. -/
structure ForeignKey where
  column : Value
  referencedColumn : Value
  referencedTable : Option String
  deleteAction : Option String
  updateAction : Option String
deriving DecidableEq

namespace ForeignKey

/-- A foreign key of which only the column is known. -/
def start (column : Value) : ForeignKey :=
  ⟨column, .null, none, none, none⟩

/-- The table that the key refers to, as a value. -/
def tableValue (key : ForeignKey) : Value :=
  .ofText? key.referencedTable

/-- The table that the key refers to, as it is written. -/
def tableText (key : ForeignKey) : String :=
  key.tableValue.plainForm

/-- The clause of an action, none for an empty one. -/
def actionClause (event : String) : Option String → String
  | none => ""
  | some action => if action = "" then "" else " ON " ++ event ++ " " ++ action

end ForeignKey

/-- What has been declared about a table, and the lists that were given and are particular. Each
finalization is known by the number of foreign keys that were opened before it, the earliest
first. -/
structure Blueprint where
  name : String
  tablePrefix : String
  specs : List Spec
  detached : List Column
  foreignKeys : List ForeignKey
  finalizations : List Nat
  current : Option Nat
  lists : List (List Value)
deriving DecidableEq

/-- The kinds of index. -/
inductive IndexKind where
  | plain
  | unique
  | primary
deriving DecidableEq

/-- The last part of the default name of an index. -/
def IndexKind.suffix : IndexKind → String
  | .plain => "index"
  | .unique => "unique"
  | .primary => "primary"

/-- The definition of an index with a name on columns between parentheses. -/
def IndexKind.sql (kind : IndexKind) (name columns : String) : String :=
  match kind with
  | .plain => "KEY " ++ quoteName name ++ " (" ++ columns ++ ")"
  | .unique => "UNIQUE KEY " ++ quoteName name ++ " (" ++ columns ++ ")"
  | .primary => "CONSTRAINT " ++ quoteName name ++ " PRIMARY KEY (" ++ columns ++ ")"

namespace Blueprint

/-- A blueprint of which only the table is known. -/
def empty (tablePrefix name : String) : Blueprint where
  name := name
  tablePrefix := tablePrefix
  specs := []
  detached := []
  foreignKeys := []
  finalizations := []
  current := none
  lists := []

/-- The name of the table with its prefix. -/
def table (blueprint : Blueprint) : String :=
  blueprint.tablePrefix ++ blueprint.name

/-- The column that a reference stands for. -/
def column? (blueprint : Blueprint) : ColumnRef → Option Column
  | .attached index => blueprint.specs[index]?.bind Spec.column?
  | .detached index => blueprint.detached[index]?

/-- The name of the column that a reference stands for. -/
def columnName (blueprint : Blueprint) (ref : ColumnRef) : Value :=
  ((blueprint.column? ref).map (·.name)).getD .null

/-- The column defined last. -/
def currentColumn? (blueprint : Blueprint) : Option Column :=
  blueprint.current.bind fun index => blueprint.column? (.attached index)

/-- The names of the columns that are added. -/
def columnNames (blueprint : Blueprint) : List Value :=
  blueprint.specs.filterMap fun spec =>
    match spec with
    | .column column => if column.kind = .add then some column.name else none
    | .plain _ => none

/-- The specs that belong to a new table. -/
def addSpecs (blueprint : Blueprint) : List Spec :=
  blueprint.specs.filter fun spec => spec.kind = .add

/-- How many foreign keys have become constraints or were dropped. -/
def finalized (blueprint : Blueprint) : Nat :=
  blueprint.finalizations.getLastD 0

/-- The foreign keys that are not finalized yet. -/
def pendingKeys (blueprint : Blueprint) : List ForeignKey :=
  blueprint.foreignKeys.drop blueprint.finalized

/-- Changes the column that a reference stands for. -/
def updateColumn (blueprint : Blueprint) (ref : ColumnRef) (change : Column → Column) : Blueprint :=
  match ref with
  | .attached index =>
    { blueprint with specs := blueprint.specs.modify index (Spec.mapColumn change) }
  | .detached index => { blueprint with detached := blueprint.detached.modify index change }

/-- Changes a foreign key. -/
def updateKey (blueprint : Blueprint) (index : Nat) (change : ForeignKey → ForeignKey) :
    Blueprint :=
  { blueprint with foreignKeys := blueprint.foreignKeys.modify index change }

/-- Keeps a list with a particular value in it. -/
def keepList (blueprint : Blueprint) (values : List Value) : Blueprint × Value :=
  if values.any Value.isParticular then
    ({ blueprint with lists := blueprint.lists ++ [values] },
      .mention (.list blueprint.lists.length))
  else (blueprint, .list values)

mutual

/-- Keeps the lists in a value that have particular values in them. -/
def keep (blueprint : Blueprint) : Value → Blueprint × Value
  | .list values =>
    let (blueprint, values) := blueprint.keepAll values
    blueprint.keepList values
  | value => (blueprint, value)

/-- Keeps the lists in values that have particular values in them. -/
def keepAll (blueprint : Blueprint) : List Value → Blueprint × List Value
  | [] => (blueprint, [])
  | value :: values =>
    let (blueprint, value) := blueprint.keep value
    let (blueprint, values) := blueprint.keepAll values
    (blueprint, value :: values)

end

/-- Adds a spec that is not a column. -/
def appendPlain (blueprint : Blueprint) (spec : PlainSpec) : Blueprint :=
  { blueprint with specs := blueprint.specs ++ [.plain spec] }

/-- Adds a column, which is then the one defined last. -/
def appendColumn (blueprint : Blueprint) (column : Column) : Blueprint :=
  { blueprint with
    specs := blueprint.specs ++ [.column column]
    current := some blueprint.specs.length }

/-- Adds an index or a constraint. -/
def appendConstraint (blueprint : Blueprint) (text : String) : Blueprint :=
  { blueprint with specs := blueprint.specs ++ [Spec.constraint text] }

/-- Opens a foreign key on a column. -/
def openKey (blueprint : Blueprint) (column : Value) : Blueprint :=
  { blueprint with foreignKeys := blueprint.foreignKeys ++ [ForeignKey.start column] }

/-- Opens a foreign key on a column that the blueprint does not define. -/
def openDetachedKey (blueprint : Blueprint) (name : String) : Blueprint :=
  { blueprint with
    detached := blueprint.detached ++ [Column.bare (.text name) .add]
    foreignKeys := blueprint.foreignKeys ++
      [ForeignKey.start (.ofColumn (.detached blueprint.detached.length))] }

end Blueprint

end Tablewright
