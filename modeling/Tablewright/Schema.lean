import Tablewright.Blueprint.Call
import Tablewright.Config.Basic
import Tablewright.Program.Basic

/-! # Schemas

A schema creates, alters and drops tables. Creating passes over a table that is there and altering
over one that is not; in both cases nothing is declared. Otherwise the declaration fills a fresh
blueprint, everything is compiled, and only then are statements executed.
-/

namespace Tablewright

/-- How tables are named, and the options of new ones. -/
structure Schema where
  tablePrefix : String
  options : String
deriving DecidableEq

/-- The schema of a configuration, whose prefix must be a text and whose options must be such that
they can be written. -/
def Config.schema (config : Config) : Except Fault Schema := do
  return ⟨← config.tablePrefix.asPrefix, ← config.tableOptions⟩

/-- What fills a blueprint. -/
abbrev Declaration := Blueprint → Compiled Unit

/-- The declaration that makes calls one after another, up to the first that fails. -/
def Declaration.ofCalls : List Call → Declaration
  | [], blueprint => ⟨.ok (), blueprint, []⟩
  | call :: calls, blueprint =>
    let outcome := blueprint.perform call
    match outcome.result with
    | .error fault => ⟨.error fault, outcome.blueprint, outcome.notices⟩
    | .ok _ =>
      let rest := ofCalls calls outcome.blueprint
      { rest with notices := outcome.notices ++ rest.notices }

namespace Schema

open Program

/-- The name of a table with the prefix. -/
def tableName (schema : Schema) (table : String) : String :=
  schema.tablePrefix ++ table

/-- A blueprint of the table. -/
def blueprint (schema : Schema) (table : String) : Blueprint :=
  .empty schema.tablePrefix table

/-- Asks whether the table exists. -/
def hasTable (schema : Schema) (table : String) : Program Bool :=
  request (.hasTable (schema.tableName table))

/-- The value that was compiled, after noting what was noted on the way. -/
def compiled {α : Type} (outcome : Compiled α) : Program α := do
  sayAll outcome.notices
  ofExcept outcome.result

/-- Creates the table unless it exists; answers whether a statement was executed. -/
def create (schema : Schema) (table : String) (declaration : Declaration) : Program Bool := do
  let name := schema.tableName table
  if ← request (.hasTable name) then
    say (.tableExists name)
    return false
  let declared := declaration (schema.blueprint table)
  compiled declared
  match ← compiled (declared.blueprint.toCreate schema.options) with
  | none =>
    say (.nothingToCreate name)
    return false
  | some statement =>
    request (.execute statement)
    say (.tableCreated name)
    return true

/-- Executes statements in turn, up to the first that is rejected. -/
def executeAll : List String → Program Unit
  | [] => pure ()
  | statement :: statements => do
    request (.execute statement)
    executeAll statements

/-- Alters the table if it exists; answers how many statements were executed. -/
def alter (schema : Schema) (table : String) (declaration : Declaration) : Program Nat := do
  let name := schema.tableName table
  if ← request (.hasTable name) then
    let declared := declaration (schema.blueprint table)
    compiled declared
    let statements ← compiled declared.blueprint.toAlter
    executeAll statements
    if statements.isEmpty then return 0
    say (.tableAltered name statements.length)
    return statements.length
  else
    say (.tableMissing name)
    return 0

/-- Drops the table if it exists. -/
def drop (schema : Schema) (table : String) : Program Unit := do
  let name := schema.tableName table
  request (.execute ("DROP TABLE IF EXISTS " ++ quoteName name))
  say (.tableDropped name)

end Schema

end Tablewright
