import Tablewright.Migration.Scripted

/-! # Sessions

A session is a sequence of operations on a schema and a tracker, with changes of the configuration
and of the world between them. Each operation answers or fails on its own, and the next one runs in
the state that it left.
-/

namespace Tablewright

/-- Changes of the arranged failures and of the clock; what is not given stays. -/
structure WorldChange where
  failOn : Option String
  conflicts : Option (List Value)
  rejects : Option (List Value)
  scalars : Option (List Value)
  clock : Option DateTime

/-- An operation of a session. -/
inductive Operation where
  | schema (step : SchemaStep)
  | setConfig (settings : List (String × Value))
  | setWorld (change : WorldChange)
  | run (candidates : List Candidate)
  | runAnew (candidates : List Candidate)
  | pending (candidates : List Candidate)
  | status (candidates : List Candidate)
  | applied
  | lastBatch
  | ensure
  | hasRun (migration : String)
  | currentBatch
  | identifiers
  | log (migration : String) (batch : Int)
  | down (migration : Migration)
  | identity (migration : Migration)

/-- What an operation answers. -/
inductive OperationAnswer where
  | value (value : Value)
  | record (record : Record)
  | records (records : List Record)
  | migrations (migrations : List Migration)
  | statuses (statuses : List Status)

/-- A session: its configuration and whether that was given, the configuration and table of its
record store, and the world. A record store without a configuration of its own shares that of the
session. -/
structure Session where
  config : Config
  configGiven : Bool
  storeConfig : Option Config
  storeTable : Value
  world : ScriptedWorld

/-- The outcome of an operation. -/
abbrev OperationRun := Run OperationAnswer Session

namespace Session

/-- A session at its start. The table of its record store is fixed here, also if the configuration
changes later. -/
def start (config : Option Config) (store : Option (Config × Value)) (world : ScriptedWorld) :
    Session :=
  let given := config.getD .standard
  match store with
  | none => ⟨given, config.isSome, none, given.migrationsTable, world⟩
  | some (storeConfig, table) =>
    ⟨given, config.isSome, some storeConfig, table.orElse storeConfig.migrationsTable, world⟩

/-- The record store under the configuration as it is now. -/
def repository (session : Session) : Except Fault Repository :=
  (session.storeConfig.getD session.config).repository session.storeTable

/-- A new record store of the configuration given at the start, or else of the standard one. -/
def newRepository (session : Session) : Except Fault Repository :=
  (if session.configGiven then session.config else .standard).repository .null

/-- The world with the schema of the configuration as it is now. -/
def currentWorld (session : Session) : ScriptedWorld :=
  { session.world with schema := session.config.schema }

/-- Runs a program in the world of the session. -/
def perform {α : Type} (session : Session) (world : World ScriptedWorld) (program : Program α)
    (answer : α → OperationAnswer) : OperationRun :=
  let run := program.run world session.currentWorld
  ⟨run.result.map answer, run.events, { session with world := run.state }⟩

/-- Runs a program of the record store in the world of the session. -/
def performStored {α : Type} (session : Session) (repository : Except Fault Repository)
    (program : Repository → Program α) (answer : α → OperationAnswer) : OperationRun :=
  session.perform ScriptedWorld.full (do program (← Program.ofExcept repository)) answer

/-- The answer of an operation that only changes the session. -/
def changed (session : Session) : OperationRun :=
  ⟨.ok (.value .null), [], session⟩

/-- The database with changes of its arranged failures. -/
def changeDatabase (database : MemoryDatabase) (change : WorldChange) : MemoryDatabase :=
  { database with
    failOn := change.failOn.getD database.failOn
    conflicts := change.conflicts.getD database.conflicts
    rejects := change.rejects.getD database.rejects
    scalars := change.scalars.getD database.scalars }

/-- The session with changes of its world. -/
def changeWorld (session : Session) (change : WorldChange) : Session :=
  { session with
    world :=
      { session.world with
        database := changeDatabase session.world.database change
        clock := change.clock.getD session.world.clock } }

/-- Performs an operation. -/
def step (session : Session) : Operation → OperationRun
  | .schema step =>
    session.perform ScriptedWorld.databaseOnly (step.program session.config.schema none) .value
  | .setConfig settings => changed { session with config := session.config.setAll settings }
  | .setWorld change => changed (session.changeWorld change)
  | .run candidates =>
    session.performStored session.repository (·.runMigrations candidates) .records
  | .runAnew candidates =>
    session.performStored session.newRepository (·.runMigrations candidates) .records
  | .pending candidates =>
    session.performStored session.repository (·.pending candidates) .migrations
  | .status candidates =>
    session.performStored session.repository (·.status candidates) .statuses
  | .applied => session.performStored session.repository (·.allApplied) .records
  | .lastBatch => session.performStored session.repository (·.lastBatch) .records
  | .ensure => session.performStored session.repository (·.ensureTable) fun _ => .value .null
  | .hasRun migration =>
    session.performStored session.repository (·.hasRun migration) fun found => .value (.bool found)
  | .currentBatch =>
    session.performStored session.repository (·.currentBatch) fun batch => .value (.int batch)
  | .identifiers =>
    session.performStored session.repository
      (fun repository => do Program.ofExcept (Value.ordered (← repository.appliedIdentifiers)))
      fun names => .value (.list names)
  | .log migration batch =>
    session.performStored session.repository (·.log migration batch) .record
  | .down migration =>
    let steps := session.world.downSteps migration
    session.perform ScriptedWorld.databaseOnly
      (SchemaStep.programAll session.config.schema none steps) fun _ => .value .null
  | .identity migration =>
    ⟨.ok (.value (.list [.text migration.identifier,
        .text migration.quoted, .text migration.identifier])), [], session⟩

/-- The outcomes of operations in turn. -/
def steps : Session → List Operation → List OperationRun
  | _, [] => []
  | session, operation :: operations =>
    let run := session.step operation
    run :: steps run.state operations

end Session

end Tablewright
