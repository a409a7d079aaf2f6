import Tablewright.Database.Engine

/-! # Executors

An executor offers what schemas and trackers need on top of an engine. Every statement runs in a
transaction of its own, so it is committed before the call returns. A failure of the database is
reported with the statement; a violated unique key is reported as a duplicate record.
-/

namespace Tablewright

/-- Why a call of an executor fails. -/
inductive ExecutorError where
  /-- A fault that reports an error of the database. -/
  | reported (fault : Fault) (cause : EngineError)
  /-- A fault in finding out what to report. -/
  | undecided (fault : Fault)
  /-- An error of the engine as it is. -/
  | unreported (error : EngineError)
deriving DecidableEq

/-- The outcome of a call of an executor. -/
structure ExecutorUse (α State : Type) where
  result : Except ExecutorError α
  actions : List EngineAction
  notices : List Notice
  state : State

namespace Executor

variable {α State : Type}

/-- What is reported about an error of the engine during an action. -/
def report (action statement : String) (error : EngineError) : ExecutorError :=
  let failed : Fault := .executionFailure (action ++ " failed: " ++ error.text) (some statement)
  match error with
  | .integrity report _ =>
    match isUniqueViolation report with
    | .error fault => .undecided fault
    | .ok true =>
      match reportText report with
      | .error fault => .undecided fault
      | .ok text =>
        .reported (.duplicateRecord (action ++ " rejected: " ++ text) (some statement)) error
    | .ok false => .reported failed error
  | .database _ => .reported failed error
  | .foreign .. => .unreported error

/-- Runs a command in a transaction and reports its failure. -/
def transact (engine : Engine State) (action statement : String) (command : Command)
    (read : CommandResult → Except EngineError α) (state : State) : ExecutorUse α State :=
  let use := engine.transact command read state
  ⟨use.result.mapError (report action statement), use.actions, [], use.state⟩

/-- Whether a table exists. -/
def hasTable (engine : Engine State) (table : String) (state : State) : ExecutorUse Bool State :=
  let (result, state) := engine.hasTable table state
  ⟨result.mapError .unreported, [.hasTable table], [], state⟩

/-- Runs a statement that returns no rows. -/
def execute (engine : Engine State) (statement : String) (state : State) :
    ExecutorUse Unit State :=
  let use :=
    transact engine "Statement" statement (.direct statement) (fun _ => .ok ()) state
  { use with notices := [.executing statement] }

/-- The first cell of the first row, null if there is none. -/
def firstCell (rows : List Row) : Value :=
  ((rows.head?.bind List.head?).map (·.2)).getD .null

/-- The first cell of the first row that a query gives. -/
def queryScalar (engine : Engine State) (statement : String) (parameters : Option Row)
    (state : State) : ExecutorUse Value State :=
  transact engine "Statement" statement (.prepared statement (parameters.getD []))
    (fun result => result.rows.map firstCell) state

/-- The rows that a query gives. -/
def queryRows (engine : Engine State) (statement : String) (parameters : Option Row)
    (state : State) : ExecutorUse (List Row) State :=
  transact engine "Statement" statement (.prepared statement (parameters.getD []))
    CommandResult.rows state

/-- Inserts a row; the answer is the id that the database gives it. -/
def insertRecord (engine : Engine State) (table : String) (values : Row) (state : State) :
    ExecutorUse Value State :=
  let statement := engine.insertion table (values.map (·.1))
  transact engine ("Insert into " ++ table) statement (.prepared statement values)
    CommandResult.generatedId state

/-- Gives up the connections of the engine. -/
def close (engine : Engine State) (state : State) : ExecutorUse Unit State :=
  ⟨.ok (), [.dispose], [], engine.dispose state⟩

end Executor

end Tablewright
