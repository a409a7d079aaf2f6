import Tablewright.Program.Run
import Tablewright.Text.Search
import Tablewright.Value.Order

/-! # A database in memory

A database that knows which tables exist and keeps rows by table. It follows statements only as far
as they create or drop a table, counts and lists the rows of a tracking table, and takes new rows
unless their migration is recorded already. Failures can be arranged: statements that hold a text,
insertions that conflict or are rejected, and answers to queries given in advance.
-/

namespace Tablewright

/-- The mark around names. -/
def nameMark : Char := '\x60'

/-- The name after an opening, up to the closing mark; none if it is empty or not closed. -/
def nameAfter? (opening statement : List Char) : Option String :=
  if opening.isPrefixOf statement then
    let rest := statement.drop opening.length
    let name := rest.takeWhile (· ≠ nameMark)
    if name.isEmpty || name.length = rest.length then none else some (String.ofList name)
  else none

/-- The first name that an opening precedes anywhere in the statement. -/
def firstNameAfter? (opening : List Char) : List Char → Option String
  | [] => none
  | char :: rest =>
    match nameAfter? opening (char :: rest) with
    | some name => some name
    | none => firstNameAfter? opening rest

/-- The table that a statement creates. -/
def createdTable? (statement : String) : Option String :=
  nameAfter? "CREATE TABLE `".toList statement.toList

/-- The table that a statement drops. -/
def droppedTable? (statement : String) : Option String :=
  nameAfter? "DROP TABLE IF EXISTS `".toList statement.toList

/-- The table that a query reads. -/
def queriedTable? (statement : String) : Option String :=
  firstNameAfter? "FROM `".toList statement.toList

/-- A database in memory, with the failures arranged for it. -/
structure MemoryDatabase where
  tables : List String
  records : List (String × List Row)
  failOn : String
  scalars : List Value
  conflicts : List Value
  rejects : List Value
deriving DecidableEq

namespace MemoryDatabase

/-- A database without tables or failures. -/
def empty : MemoryDatabase :=
  ⟨[], [], "", [], [], []⟩

/-- The rows of a table. -/
def rows (database : MemoryDatabase) (table : String) : List Row :=
  (database.records.lookup table).getD []

/-- The database with other rows in a table. -/
def setRows (database : MemoryDatabase) (table : String) (rows : List Row) : MemoryDatabase :=
  { database with
    records := database.records.filter (fun entry => entry.1 != table) ++ [(table, rows)] }

/-- The database with a table. -/
def createTable (database : MemoryDatabase) (table : String) : MemoryDatabase :=
  if table ∈ database.tables then database
  else { database with tables := database.tables ++ [table] }

/-- The database without a table and its rows. -/
def dropTable (database : MemoryDatabase) (table : String) : MemoryDatabase :=
  { database with
    tables := database.tables.filter (· != table)
    records := database.records.filter fun entry => entry.1 != table }

/-- Whether a statement is to fail. -/
def refuses (database : MemoryDatabase) (statement : String) : Bool :=
  database.failOn != "" && Text.contains statement database.failOn

/-- Executes a statement. -/
def execute (database : MemoryDatabase) (statement : String) : Except Fault Unit × MemoryDatabase :=
  if database.refuses statement then
    (.error (.executionFailure "Statement rejected" (some statement)), database)
  else
    match createdTable? statement, droppedTable? statement with
    | some table, _ => (.ok (), database.createTable table)
    | none, some table => (.ok (), database.dropTable table)
    | none, none => (.ok (), database)

/-- How many rows record the migration. -/
def count (rows : List Row) (migration : Value) : Nat :=
  (rows.filter fun row => (Row.cellOrNull row "migration").same migration).length

/-- The largest batch of the rows, null without rows. -/
def largestBatch (rows : List Row) : Except Fault Value := do
  match ← rows.mapM fun row => Row.cell row "batch" with
  | [] => return .null
  | first :: rest => first.largest rest

/-- Answers a query for one value: the next one given in advance, a count, or the largest batch. -/
def queryScalar (database : MemoryDatabase) (statement : String) (parameters : Option Row) :
    Except Fault Value × MemoryDatabase :=
  match database.scalars with
  | value :: values => (.ok value, { database with scalars := values })
  | [] =>
    let rows := ((queriedTable? statement).map database.rows).getD []
    if "SELECT COUNT(*)".toList.isPrefixOf statement.toList then
      let migration := Row.cellOrNull (parameters.getD []) "migration"
      (.ok (.int (count rows migration)), database)
    else (largestBatch rows, database)

/-- Answers a query for rows. -/
def queryRows (database : MemoryDatabase) (statement : String) : List Row :=
  ((queriedTable? statement).map database.rows).getD []

/-- Takes a row unless its migration conflicts or is rejected; answers its number. -/
def insert (database : MemoryDatabase) (table : String) (values : Row) :
    Except Fault Value × MemoryDatabase :=
  let migration := Row.cellOrNull values "migration"
  let rows := database.rows table
  if (database.conflicts.any fun name => name.same migration) || count rows migration != 0 then
    (.error (.duplicateRecord ("Duplicate migration in " ++ table) none), database)
  else if database.rejects.any fun name => name.same migration then
    (.error (.executionFailure "Insert rejected" (some ("INSERT " ++ table))), database)
  else
    let id : Value := .int (rows.length + 1 : Nat)
    (.ok id, database.setRows table (rows ++ [("id", id) :: values]))

end MemoryDatabase

end Tablewright
