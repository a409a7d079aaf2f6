/-! # Notices

What happens on the way is noted: tables created and skipped, migrations run and recorded. Each
notice has a severity, the component that wrote it, and its wording. A notice holds texts only, so
whatever it is about has been put into words before.
-/

namespace Tablewright

/-- How serious a notice is. -/
inductive Severity where
  | debug
  | info
  | warning
  | error
deriving DecidableEq

/-- The name of the severity. -/
def Severity.name : Severity → String
  | .debug => "DEBUG"
  | .info => "INFO"
  | .warning => "WARNING"
  | .error => "ERROR"

/-- Something worth noting. -/
inductive Notice where
  | tableExists (table : String)
  | nothingToCreate (table : String)
  | tableCreated (table : String)
  | tableMissing (table : String)
  | tableAltered (table : String) (statements : Nat)
  | tableDropped (table : String)
  | unsupportedKind (kind table : String)
  | incompleteKey (table column : String)
  | trackingCreated (table : String)
  | recorded (migration batch : String)
  | notMigration (unit : String)
  | alreadyApplied (migration : String)
  | running (migration batch : String)
  | failed (migration message : String)
  | recordedElsewhere (migration : String)
  | applied (count : Nat) (batch : String)
  | upToDate
  | executing (statement : String)
  | connected (url : String)
deriving DecidableEq

namespace Notice

/-- The severity of the notice. -/
def severity : Notice → Severity
  | .tableExists _ | .nothingToCreate _ | .tableMissing _ | .incompleteKey .. | .recorded ..
  | .alreadyApplied _ | .executing _ => .debug
  | .tableCreated _ | .tableAltered .. | .tableDropped _ | .trackingCreated _ | .running ..
  | .applied .. | .upToDate | .connected _ => .info
  | .unsupportedKind .. | .notMigration _ | .recordedElsewhere _ => .warning
  | .failed .. => .error

/-- The component that writes the notice. -/
def component : Notice → String
  | .tableExists _ | .nothingToCreate _ | .tableCreated _ | .tableMissing _ | .tableAltered ..
  | .tableDropped _ | .unsupportedKind .. => "roadschema.schema"
  | .incompleteKey .. => "roadschema.blueprint"
  | .trackingCreated _ | .recorded .. => "roadschema.migrations.repository"
  | .notMigration _ | .alreadyApplied _ | .running .. | .failed .. | .recordedElsewhere _
  | .applied .. | .upToDate => "roadschema.migrations.tracker"
  | .executing _ | .connected _ => "roadschema.engine"

/-- The wording of the notice. -/
def message : Notice → String
  | .tableExists table => "Table " ++ table ++ " already exists, skipping create"
  | .nothingToCreate table => "Blueprint for " ++ table ++ " declares no columns, nothing to create"
  | .tableCreated table => "Created table " ++ table
  | .tableMissing table => "Table " ++ table ++ " does not exist, skipping alter"
  | .tableAltered table statements =>
    "Altered table " ++ table ++ " (" ++ toString statements ++ " statements)"
  | .tableDropped table => "Dropped table " ++ table
  | .unsupportedKind kind table => "Skipping unsupported spec kind " ++ kind ++ " on " ++ table
  | .incompleteKey table column =>
    "Dropping incomplete foreign key on " ++ table ++ "." ++ column
  | .trackingCreated table => "Created migrations table " ++ table
  | .recorded migration batch =>
    "Recorded migration " ++ migration ++ " in batch " ++ batch
  | .notMigration unit => "Skipping " ++ unit ++ ": not a Migration instance"
  | .alreadyApplied migration => "Migration " ++ migration ++ " already applied, skipping"
  | .running migration batch =>
    "Running migration " ++ migration ++ " (batch " ++ batch ++ ")"
  | .failed migration message => "Migration " ++ migration ++ " failed: " ++ message
  | .recordedElsewhere migration =>
    "Migration " ++ migration ++ " was recorded by another runner, ignoring"
  | .applied count batch =>
    "Applied " ++ toString count ++ " migration(s) in batch " ++ batch
  | .upToDate => "All migrations up to date"
  | .executing statement => "Executing: " ++ statement
  | .connected url => "Executor created for " ++ url

end Notice

end Tablewright
