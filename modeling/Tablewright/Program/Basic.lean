import Tablewright.Value.Display
import Tablewright.Notice

/-! # Programs

What runs against a database is a program: it asks for things one at a time and goes on with each
answer, which may be a fault. A program says nothing about who answers, so one program can be run
against a database in memory, against any other, or step by step beside other programs. Applying a
migration is asked for like a statement.
-/

namespace Tablewright

/-- A row of a table, column by column. -/
abbrev Row := List (String × Value)

/-- The cell of a row that must have the column. -/
def Row.cell (row : Row) (column : String) : Except Fault Value :=
  match row.lookup column with
  | some value => .ok value
  | none => .error .missingKey

/-- The cell of a row, null if the row has no such column. -/
def Row.cellOrNull (row : Row) (column : String) : Value :=
  (row.lookup column).getD .null

/-- A migration: which object it is, and the qualified name of its class. -/
structure Migration where
  object : String
  moduleName : String
  className : String
deriving DecidableEq

/-- The name under which a migration is recorded. -/
def Migration.identifier (migration : Migration) : String :=
  migration.moduleName ++ "." ++ migration.className

/-- Something a program can ask for. -/
inductive Request where
  | hasTable (table : String)
  | execute (statement : String)
  | queryScalar (statement : String) (parameters : Option Row)
  | queryRows (statement : String)
  | insert (table : String) (values : Row)
  | now
  | apply (migration : Migration)
deriving DecidableEq

/-- What a request is answered with. -/
abbrev Request.Answer : Request → Type
  | .hasTable _ => Bool
  | .execute _ => Unit
  | .queryScalar .. => Value
  | .queryRows _ => List Row
  | .insert .. => Value
  | .now => DateTime
  | .apply _ => Unit

/-- A program: finished, or noting something, or asking for something and going on with the
answer. -/
inductive Program (α : Type) where
  | done (result : Except Fault α)
  | note (notice : Notice) (next : Program α)
  | ask (request : Request) (next : Except Fault request.Answer → Program α)

namespace Program

variable {α β : Type}

/-- Goes on with the value of a program; a fault ends both. -/
def bind : Program α → (α → Program β) → Program β
  | .done (.ok value), next => next value
  | .done (.error fault), _ => .done (.error fault)
  | .note notice rest, next => .note notice (rest.bind next)
  | .ask request rest, next => .ask request fun answer => (rest answer).bind next

instance : Monad Program where
  pure value := .done (.ok value)
  bind := bind

/-- The program that has already failed. -/
def fail (fault : Fault) : Program α :=
  .done (.error fault)

/-- The program with the result. -/
def ofExcept (result : Except Fault α) : Program α :=
  .done result

/-- Notes something. -/
def say (notice : Notice) : Program Unit :=
  .note notice (pure ())

/-- Notes several things in turn. -/
def sayAll : List Notice → Program Unit
  | [] => pure ()
  | notice :: notices => .note notice (sayAll notices)

/-- Asks for something; a fault in the answer ends the program. -/
def request (request : Request) : Program request.Answer :=
  .ask request fun answer => .done answer

/-- The outcome of a program as a value, so that it can go on after a fault. -/
def attempt : Program α → Program (Except Fault α)
  | .done result => .done (.ok result)
  | .note notice rest => .note notice rest.attempt
  | .ask request rest => .ask request fun answer => (rest answer).attempt

end Program

end Tablewright
