import Tablewright.Blueprint.Wording

/-! # Edits that need words

A default is checked against the type of its column, a column is placed after another, an index is
named after its columns. All three put values into words at once, so a later change of what they
mention does not show.
-/

namespace Tablewright.Blueprint

/-- The message about a default that a column does not take. -/
def refuseDefault {α : Type} (blueprint : Blueprint) (column : Column)
    (problem : ColumnType.DefaultProblem) : Except Fault α := do
  let default ← (blueprint.words problem.value).bind Value.quoted
  let name ← blueprint.shown column.name
  .error (.invalidInput (.defaultNotAllowed name default problem.allowed))

/-- Gives a column a default if its type takes it. -/
def setDefault (blueprint : Blueprint) (ref : ColumnRef) (value : Value) :
    Except Fault Blueprint :=
  match blueprint.column? ref with
  | none => .ok blueprint
  | some column =>
    match column.defaultProblems value with
    | [] => .ok (blueprint.updateColumn ref (Column.withDefault · value))
    | problem :: _ => blueprint.refuseDefault column problem

/-- Places a column after another. -/
def placeAfter (blueprint : Blueprint) (ref : ColumnRef) (other : Value) :
    Except Fault Blueprint := do
  let name ← blueprint.shown other
  return blueprint.updateColumn ref fun column =>
    { column with position := some ("AFTER " ++ quoteName name) }

/-- The columns that an index names: those given, or the one defined last. -/
def indexColumns (blueprint : Blueprint) : Value → Except Fault (List Value)
  | .null => .ok (blueprint.currentColumn?.map (·.name)).toList
  | .text name => .ok [.text name]
  | columns => (blueprint.viewed columns).elements

/-- The name of an index: the one given, or one made of the table and the columns, which then must
be texts. -/
def indexName (blueprint : Blueprint) (kind : IndexKind) (columns : List Value) (name : Value) :
    Except Fault String :=
  if blueprint.isTruthy name then blueprint.shown name
  else do
    let names ← Value.asTexts 0 columns
    return blueprint.table ++ "_" ++ "_".intercalate names ++ "_" ++ kind.suffix

/-- Adds an index; nothing if there is no column to index. -/
def addIndex (blueprint : Blueprint) (kind : IndexKind) (columns name : Value) :
    Except Fault Blueprint := do
  let columns ← blueprint.indexColumns columns
  if columns.isEmpty then return blueprint
  let name ← blueprint.indexName kind columns name
  let columns ← columns.mapM blueprint.shown
  return blueprint.appendConstraint (kind.sql name (", ".intercalate (columns.map quoteName)))

end Tablewright.Blueprint
