import Tablewright.Database.Memory
import Tablewright.Migration.Tracker
import Tablewright.Script.Run

/-! # Scripted migrations

A migration can be given as steps on a schema. A world with a database in memory, a clock and such
migrations answers everything the tracker asks for.
-/

namespace Tablewright

/-- A step on a schema. A failure may be limited to the first applications of its migration; outside
of applications the limit does not count. -/
inductive SchemaStep where
  | create (table : String) (calls : List ScriptCall)
  | alter (table : String) (calls : List ScriptCall)
  | drop (table : String)
  | hasTable (table : String)
  | tableName (table : String)
  | raise (fault : Fault) (times : Option Int)

/-- The declaration that a script makes on a fresh blueprint. -/
def Script.declaration (options : String) (calls : List ScriptCall) : Declaration :=
  fun blueprint => Script.run options blueprint [] calls

namespace SchemaStep

open Program

/-- Whether a failure with a limit comes about, in an application with the given number of earlier
ones or outside of applications. -/
def comesAbout (times : Option Int) (earlier : Option Nat) : Bool :=
  match times, earlier with
  | some limit, some count => count < limit
  | _, _ => true

/-- The program of a step, in an application with the given number of earlier ones or outside of
applications. -/
def program (schema : Except Fault Schema) (earlier : Option Nat) : SchemaStep → Program Value
  | .create table calls => do
    let schema ← ofExcept schema
    return .bool (← schema.create table (Script.declaration schema.options calls))
  | .alter table calls => do
    let schema ← ofExcept schema
    return .int (← schema.alter table (Script.declaration schema.options calls))
  | .drop table => do
    (← ofExcept schema).drop table
    return .null
  | .hasTable table => do
    return .bool (← (← ofExcept schema).hasTable table)
  | .tableName table => do
    return .text ((← ofExcept schema).tableName table)
  | .raise fault times => if comesAbout times earlier then fail fault else pure .null

/-- The program of several steps. -/
def programAll (schema : Except Fault Schema) (earlier : Option Nat) :
    List SchemaStep → Program Unit
  | [] => pure ()
  | step :: steps => do
    let _ ← step.program schema earlier
    programAll schema earlier steps

end SchemaStep

/-- How a migration is applied and taken back. -/
structure MigrationScript where
  up : List SchemaStep
  down : List SchemaStep

/-- The state of a world with scripted migrations. The attempts count how often each migration was
applied before. -/
structure ScriptedWorld where
  database : MemoryDatabase
  clock : DateTime
  schema : Except Fault Schema
  scripts : List (String × MigrationScript)
  attempts : List (String × Nat)

namespace ScriptedWorld

/-- The world with another database. -/
def withDatabase (world : ScriptedWorld) (database : MemoryDatabase) : ScriptedWorld :=
  { world with database := database }

/-- A reaction of the database alone. -/
def reaction {α : Type} (world : ScriptedWorld) (outcome : Except Fault α × MemoryDatabase) :
    Reaction α ScriptedWorld :=
  ⟨outcome.1, [], world.withDatabase outcome.2⟩

/-- How often a migration was applied before. -/
def earlierAttempts (world : ScriptedWorld) (migration : Migration) : Nat :=
  (world.attempts.lookup migration.object).getD 0

/-- Counts an application of a migration. -/
def countAttempt (world : ScriptedWorld) (migration : Migration) : ScriptedWorld :=
  { world with
    attempts := (migration.object, world.earlierAttempts migration + 1) :: world.attempts }

/-- The steps that apply a migration. -/
def upSteps (world : ScriptedWorld) (migration : Migration) : List SchemaStep :=
  ((world.scripts.lookup migration.object).map (·.up)).getD []

/-- The steps that take a migration back. -/
def downSteps (world : ScriptedWorld) (migration : Migration) : List SchemaStep :=
  ((world.scripts.lookup migration.object).map (·.down)).getD []

/-- Answers everything but the application of a migration, which no step asks for. -/
def respondDatabase (request : Request) (world : ScriptedWorld) :
    Reaction request.Answer ScriptedWorld :=
  match request with
  | .hasTable table => ⟨.ok (decide (table ∈ world.database.tables)), [], world⟩
  | .execute statement => world.reaction (world.database.execute statement)
  | .queryScalar statement parameters =>
    world.reaction (world.database.queryScalar statement parameters)
  | .queryRows statement => ⟨.ok (world.database.queryRows statement), [], world⟩
  | .insert table values => world.reaction (world.database.insert table values)
  | .now => ⟨.ok world.clock, [], world⟩
  | .apply _ => ⟨.error .badTarget, [], world⟩

/-- The world in which steps run. -/
def databaseOnly : World ScriptedWorld :=
  ⟨respondDatabase⟩

/-- Answers everything; a migration is applied by running its steps. -/
def respond (request : Request) (world : ScriptedWorld) :
    Reaction request.Answer ScriptedWorld :=
  match request with
  | .apply migration =>
    let steps := world.upSteps migration
    let program := SchemaStep.programAll world.schema (some (world.earlierAttempts migration)) steps
    let run := program.run databaseOnly (world.countAttempt migration)
    ⟨run.result, run.events, run.state⟩
  | other => respondDatabase other world

/-- The world in which the tracker runs. -/
def full : World ScriptedWorld :=
  ⟨respond⟩

end ScriptedWorld

end Tablewright
