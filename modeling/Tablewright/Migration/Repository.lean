import Tablewright.Calendar.Iso
import Tablewright.Schema
import Tablewright.Value.Order

/-! # The record store

One tracking table holds a row for every migration that was applied. It is created when it is found
missing. What is read back is checked only as far as it is used: a batch must be readable as a whole
number, and the moment of application as a date-time unless it is missing.
-/

namespace Tablewright

/-- The record of an applied migration. -/
structure Record where
  migration : Value
  batch : Int
  createdAt : Option DateTime
  id : Value
deriving DecidableEq

/-- The moment in a cell: none for null, otherwise a date-time or its text. -/
def readMoment (value : Value) : Except Fault (Option DateTime) :=
  match value with
  | .null => .ok none
  | .dateTime moment => .ok (some moment)
  | _ => do
    match DateTime.readIso? (← value.shown) with
    | some moment => return some moment
    | none => .error .badValue

/-- The record in a row. -/
def Record.ofRow (row : Row) : Except Fault Record := do
  let migration ← Row.cell row "migration"
  let batch ← (← Row.cell row "batch").toInteger
  let createdAt ← readMoment (Row.cellOrNull row "created_at")
  return { migration, batch, createdAt, id := Row.cellOrNull row "id" }

/-- A tracking table of a schema. -/
structure Repository where
  schema : Schema
  table : String
deriving DecidableEq

namespace Repository

open Program

/-- The name of the tracking table with the prefix. -/
def tableName (repository : Repository) : String :=
  repository.schema.tableName repository.table

/-- The columns of the tracking table. -/
def definition : Declaration :=
  .ofCalls [
    .table (.define .increments (.text "id") .null),
    .table (.define (.string (.int 191)) (.text "migration") .null),
    .column (.attached 1) (.addIndex .unique .null),
    .table (.define (.integer (.bool true)) (.text "batch") .null),
    .table (.define .dateTime (.text "created_at") .null)]

/-- Creates the tracking table if it is missing. -/
def ensureTable (repository : Repository) : Program Unit := do
  if ← repository.schema.create repository.table definition then
    say (.trackingCreated repository.tableName)

/-- The query that counts the rows of a migration. -/
def countQuery (repository : Repository) : String :=
  "SELECT COUNT(*) FROM " ++ quoteName repository.tableName ++ " WHERE migration = :migration"

/-- The query for the largest batch. -/
def batchQuery (repository : Repository) : String :=
  "SELECT MAX(batch) FROM " ++ quoteName repository.tableName

/-- The query for all rows, the oldest first. -/
def rowsQuery (repository : Repository) : String :=
  "SELECT id, migration, batch, created_at FROM " ++ quoteName repository.tableName ++
    " ORDER BY batch, id"

/-- Whether the migration is recorded. -/
def hasRun (repository : Repository) (migration : String) : Program Bool := do
  let count ← request (.queryScalar repository.countQuery
    (some [("migration", .text migration)]))
  let count ← ofExcept (count.orElse (.int 0)).toInteger
  return 0 < count

/-- The largest batch recorded so far, zero if there is none. -/
def currentBatch (repository : Repository) : Program Int := do
  let batch ← request (.queryScalar repository.batchQuery none)
  ofExcept (batch.orElse (.int 0)).toInteger

/-- Records a migration as applied now, to the second. The row is there already when the number of
its batch turns out to be too long to be noted. -/
def log (repository : Repository) (migration : String) (batch : Int) : Program Record := do
  let createdAt := (← request .now).wholeSecond
  let id ← request (.insert repository.tableName
    [("migration", .text migration), ("batch", .int batch), ("created_at", .dateTime createdAt)])
  say (.recorded migration (← ofExcept (Value.int batch).shown))
  return { migration := .text migration, batch, createdAt := some createdAt, id }

/-- All records, the oldest first. -/
def applied (repository : Repository) : Program (List Record) := do
  let rows ← request (.queryRows repository.rowsQuery)
  ofExcept (rows.mapM Record.ofRow)

/-- Checks that every recorded migration can be a key. -/
def checkKeys (records : List Record) : Except Fault Unit :=
  match records.find? fun record => !record.migration.isKey with
  | none => .ok ()
  | some record => .error (.wrongType (.notAKey record.migration.kindName))

/-- The recorded migrations, each once. -/
def appliedIdentifiers (repository : Repository) : Program (List Value) := do
  let records ← repository.applied
  ofExcept (checkKeys records)
  return records.foldl
    (fun seen record =>
      if seen.any fun value => value.same record.migration then seen
      else seen ++ [record.migration]) []

end Repository

/-- The tracking table of a configuration; its name is the one given, or else the configured one. -/
def Config.repository (config : Config) (table : Value) : Except Fault Repository := do
  return ⟨← config.schema, ← (table.orElse config.migrationsTable).asSuffix⟩

end Tablewright
