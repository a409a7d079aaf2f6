import Tablewright.Program.Basic
import Tablewright.Text.Search
import Tablewright.Value.Order

/-! # Engines

An engine runs commands in transactions on a connection to a database. Whatever is asked of it may
fail: a constraint may be violated, the database may fail otherwise, or something else may go wrong.
-/

namespace Tablewright

/-- What a database driver reports: its arguments, and a code with some drivers. -/
structure DriverReport where
  arguments : List Value
  code : Option Value
deriving DecidableEq

/-- The wording of what a driver reports: its only argument, or all of them in parentheses. -/
def DriverReport.text (report : DriverReport) : Except Fault String :=
  match report.arguments with
  | [] => .ok ""
  | [argument] => argument.shown
  | arguments => do return "(" ++ ", ".intercalate (← arguments.mapM Value.quoted) ++ ")"

/-- The wording of what a driver reports, if it reports anything. -/
def reportText (report : Option DriverReport) : Except Fault String :=
  report.elim (.ok "None") DriverReport.text

/-- The numbers of errors about duplicate keys. -/
def duplicateNumbers : List Value :=
  [.int 1062, .int 1586]

/-- The code of errors about duplicate keys, where there is one. -/
def duplicateCode : Value :=
  .text "23505"

/-- The words that errors about duplicate keys hold. -/
def duplicateWords : List String :=
  ["Duplicate entry", "UNIQUE constraint failed"]

/-- Whether a violated constraint is a unique key: by the number, by the code, or else by the words.
Other constraints are violated in the same way. A number that cannot be told apart from others is a
fault, and so is a report that cannot be written out. -/
def isUniqueViolation (report : Option DriverReport) : Except Fault Bool := do
  let number := (report.bind fun report => report.arguments.head?).getD .null
  let code := (report.bind DriverReport.code).getD .null
  if ← duplicateNumbers.anyM number.equals then return true
  else if ← code.equals duplicateCode then return true
  else
    let text ← reportText report
    return duplicateWords.any (Text.contains text)

/-- Why an engine fails. -/
inductive EngineError where
  /-- A constraint is violated. -/
  | integrity (report : Option DriverReport) (text : String)
  /-- The database fails otherwise. -/
  | database (text : String)
  /-- Something fails that is not the database. -/
  | foreign (kind text : String)
deriving DecidableEq

/-- The wording of the error. -/
def EngineError.text : EngineError → String
  | .integrity _ text | .database text | .foreign _ text => text

/-- A command within a transaction. -/
inductive Command where
  /-- A statement that goes to the driver as it is. -/
  | direct (statement : String)
  /-- A statement with named parameters. -/
  | prepared (statement : String) (parameters : Row)
deriving DecidableEq

/-- The result of a command; reading a part of it may fail. -/
structure CommandResult where
  rows : Except EngineError (List Row)
  generatedId : Except EngineError Value

/-- Something that is done with an engine. -/
inductive EngineAction where
  | hasTable (table : String)
  | begin
  | run (command : Command)
  | commit
  | rollback
  | dispose
deriving DecidableEq

/-- An engine: how it answers, how its state changes, and how it writes insertions. -/
structure Engine (State : Type) where
  hasTable : String → State → Except EngineError Bool × State
  begin : State → Except EngineError Unit × State
  run : Command → State → Except EngineError CommandResult × State
  commit : State → Except EngineError Unit × State
  rollback : State → State
  dispose : State → State
  /-- The statement that inserts a row with the columns into a table. -/
  insertion : (table : String) → (columns : List String) → String

/-- The outcome of using an engine. -/
structure EngineUse (α State : Type) where
  result : Except EngineError α
  actions : List EngineAction
  state : State

/-- Runs a command in a transaction of its own and reads its result. What fails after the beginning
and before the end is rolled back. -/
def Engine.transact {α State : Type} (engine : Engine State) (command : Command)
    (read : CommandResult → Except EngineError α) (state : State) : EngineUse α State :=
  match engine.begin state with
  | (.error error, state) => ⟨.error error, [.begin], state⟩
  | (.ok (), state) =>
    let (outcome, state) := engine.run command state
    match outcome.bind read with
    | .error error => ⟨.error error, [.begin, .run command, .rollback], engine.rollback state⟩
    | .ok value =>
      let (ended, state) := engine.commit state
      ⟨ended.map fun () => value, [.begin, .run command, .commit], state⟩

/-- An engine that answers from a script: which tables there are, and the outcomes of the next
commands. -/
structure ScriptedEngine where
  tables : List String
  outcomes : List (Except EngineError CommandResult)

namespace ScriptedEngine

/-- The result of a command that the script says nothing about. -/
def emptyResult : CommandResult :=
  ⟨.ok [], .ok .null⟩

/-- The engine that follows its script. -/
def engine : Engine ScriptedEngine where
  hasTable table state := (.ok (state.tables.contains table), state)
  begin state := (.ok (), state)
  run _ state :=
    match state.outcomes with
    | [] => (.ok emptyResult, state)
    | outcome :: rest => (outcome, { state with outcomes := rest })
  commit state := (.ok (), state)
  rollback state := state
  dispose state := state
  insertion table columns :=
    "INSERT INTO " ++ table ++ " (" ++ ", ".intercalate columns ++ ") VALUES (" ++
      ", ".intercalate (columns.map fun column => ":" ++ column) ++ ")"

end ScriptedEngine

end Tablewright
