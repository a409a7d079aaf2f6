import Tablewright.Migration.Repository

/-! # The tracker

The tracker applies the migrations of a list that are not recorded yet, in order, and records each
one right after. All that one run records shares a batch. A migration that fails ends the run
unrecorded, so the next run tries it again; one that turns out to be recorded by another runner is
passed over. Whatever happens is noted, and what cannot be put into words ends the run as well: a
member of the list, the number of the batch, or the fault of a migration, which it then replaces.
-/

namespace Tablewright

/-- A member of a list of migrations: a migration, the class of one, or something else. -/
inductive Candidate where
  | migration (migration : Migration)
  | type (migration : Migration)
  | value (value : Value)
deriving DecidableEq

/-- A class in messages. One that is built in is known by its own name alone. -/
def Migration.quotedClass (migration : Migration) : String :=
  let name :=
    if migration.moduleName = "builtins" then (migration.className.splitOn ".").getLastD ""
    else migration.identifier
  "<class '" ++ name ++ "'>"

/-- A migration in messages. -/
def Migration.quoted (migration : Migration) : String :=
  "<Migration " ++ migration.identifier ++ ">"

/-- The candidate in messages. -/
def Candidate.quoted : Candidate → Except Fault String
  | .migration unit => .ok unit.quoted
  | .type unit => .ok unit.quotedClass
  | .value other => other.quoted

/-- The migration of a candidate that is one. -/
def Candidate.migration? : Candidate → Option Migration
  | .migration unit => some unit
  | _ => none

/-- Whether a migration is still to be applied. -/
inductive Progress where
  | pending
  | applied
deriving DecidableEq

/-- Whether a migration is recorded, and in which batch. -/
structure Status where
  identifier : String
  progress : Progress
  batch : Option Int
deriving DecidableEq

/-- The status of a migration with the batch in which it is recorded, if it is. -/
def Status.of (identifier : String) (batch : Option Int) : Status :=
  ⟨identifier, if batch.isSome then .applied else .pending, batch⟩

namespace Repository

open Program

/-- Applies a candidate unless it is no migration or recorded already, and records it. -/
def applyCandidate (repository : Repository) (batch : Int) :
    Candidate → Program (Option Record)
  | .migration migration => do
    let identifier := migration.identifier
    if ← repository.hasRun identifier then
      say (.alreadyApplied identifier)
      return none
    say (.running identifier (← ofExcept (Value.int batch).shown))
    match ← attempt (request (.apply migration)) with
    | .error fault =>
      say (.failed identifier (← ofExcept fault.message))
      fail fault
    | .ok () =>
      match ← attempt (repository.log identifier batch) with
      | .ok record => return some record
      | .error (.duplicateRecord _ _) =>
        say (.recordedElsewhere identifier)
        return none
      | .error fault => fail fault
  | candidate => do
    say (.notMigration (← ofExcept candidate.quoted))
    return none

/-- Applies candidates in turn; answers the records made. -/
def applyAll (repository : Repository) (batch : Int) : List Candidate → Program (List Record)
  | [] => return []
  | candidate :: candidates => do
    let record ← repository.applyCandidate batch candidate
    let records ← repository.applyAll batch candidates
    return record.toList ++ records

/-- Applies every migration that is not recorded yet, all in one new batch. -/
def runMigrations (repository : Repository) (candidates : List Candidate) :
    Program (List Record) := do
  repository.ensureTable
  let batch := (← repository.currentBatch) + 1
  let records ← repository.applyAll batch candidates
  if records.isEmpty then say .upToDate
  else say (.applied records.length (← ofExcept (Value.int batch).shown))
  return records

/-- The migrations that are not recorded. -/
def pending (repository : Repository) (candidates : List Candidate) :
    Program (List Migration) := do
  repository.ensureTable
  let done ← repository.appliedIdentifiers
  return (candidates.filterMap Candidate.migration?).filter fun migration =>
    !done.any fun value => value.same (.text migration.identifier)

/-- The batch in which a migration is recorded; the last record counts. -/
def batchOf? (records : List Record) (identifier : String) : Option Int :=
  (records.reverse.find? fun record => record.migration.same (.text identifier)).map (·.batch)

/-- The status of each migration. -/
def status (repository : Repository) (candidates : List Candidate) : Program (List Status) := do
  repository.ensureTable
  let records ← repository.applied
  ofExcept (checkKeys records)
  return (candidates.filterMap Candidate.migration?).map fun migration =>
    .of migration.identifier (batchOf? records migration.identifier)

/-- All records, the oldest first, after creating the tracking table if it is missing. -/
def allApplied (repository : Repository) : Program (List Record) := do
  repository.ensureTable
  repository.applied

/-- The records of the largest batch. -/
def latestRecords (records : List Record) : List Record :=
  match (records.map (·.batch)).max? with
  | none => []
  | some latest => records.filter fun record => record.batch = latest

/-- The records of the most recent batch. -/
def lastBatch (repository : Repository) : Program (List Record) := do
  return latestRecords (← repository.allApplied)

end Repository

end Tablewright
