import Tablewright.Blueprint.Wording
import Tablewright.Notice

/-! # Statements of a blueprint

A blueprint compiles to one statement that creates its table, made of the specs that add something,
or to one statement per spec that alters it. Compiling finalizes the foreign keys first, also when
a fragment cannot be rendered afterwards. A foreign key that cannot be put into words stops its
finalization: the constraints before it stay, and every key remains pending.
-/

namespace Tablewright

/-- The outcome of compiling: the result, the blueprint with its keys finalized, and what was
noted. -/
structure Compiled (α : Type) where
  result : Except Fault α
  blueprint : Blueprint
  notices : List Notice

/-- The statement that creates a table from fragments. -/
def createText (table options : String) (fragments : List String) : String :=
  "CREATE TABLE " ++ quoteName table ++ " (\n" ++ ",\n".intercalate fragments ++ "\n) " ++ options

/-- The statement that alters a table by a clause. -/
def alterText (table clause : String) : String :=
  "ALTER TABLE " ++ quoteName table ++ " " ++ clause

namespace Blueprint

/-- What foreign keys become in turn: a complete one a constraint, any other a notice. -/
def settleKeys : Blueprint → List ForeignKey → Compiled Unit
  | blueprint, [] => ⟨.ok (), blueprint, []⟩
  | blueprint, key :: keys =>
    if blueprint.isComplete key then
      match blueprint.keySql key with
      | .ok text => settleKeys (blueprint.appendConstraint text) keys
      | .error fault => ⟨.error fault, blueprint, []⟩
    else
      match blueprint.keyColumnText key with
      | .ok column =>
        let rest := settleKeys blueprint keys
        { rest with notices := .incompleteKey blueprint.table column :: rest.notices }
      | .error fault => ⟨.error fault, blueprint, []⟩

/-- The blueprint after a finalization. -/
def closeRound (blueprint : Blueprint) : Blueprint :=
  { blueprint with
    finalizations := blueprint.finalizations ++ [blueprint.foreignKeys.length] }

/-- Turns the pending foreign keys into constraints, and leaves out those that are incomplete. -/
def finalize (blueprint : Blueprint) : Compiled Unit :=
  let settled := blueprint.settleKeys blueprint.pendingKeys
  match settled.result with
  | .ok () => { settled with blueprint := settled.blueprint.closeRound }
  | .error _ => settled

/-- The statement that creates the table, none if no spec adds anything. -/
def createStatement (blueprint : Blueprint) (options : String) : Except Fault (Option String) :=
  match blueprint.addSpecs with
  | [] => .ok none
  | specs => do
    let fragments ← specs.mapM blueprint.specSql
    return some (createText blueprint.table options fragments)

/-- Compiles the blueprint of a new table. -/
def toCreate (blueprint : Blueprint) (options : String) : Compiled (Option String) :=
  let finalized := blueprint.finalize
  ⟨finalized.result.bind fun _ => finalized.blueprint.createStatement options,
    finalized.blueprint, finalized.notices⟩

/-- The clause of a spec in a statement that alters its table; none for an unknown kind. -/
def alterClause (blueprint : Blueprint) (spec : Spec) : Except Fault (Option String) :=
  match spec.kind with
  | .add => do
    let fragment ← blueprint.specSql spec
    return some ((if spec.isConstraint then "ADD " else "ADD COLUMN ") ++ fragment)
  | .modify => do return some ("MODIFY COLUMN " ++ (← blueprint.specSql spec))
  | .drop => do return some ("DROP COLUMN " ++ quoteName (← blueprint.shown spec.columnName))
  | .rename => do
    let old ← blueprint.shown spec.columnName
    let new ← blueprint.shown spec.newName
    return some ("RENAME COLUMN " ++ quoteName old ++ " TO " ++ quoteName new)
  | .dropIndex => do return some ("DROP INDEX " ++ quoteName (← blueprint.shown spec.columnName))
  | .other _ => .ok none

/-- The statements that alter the table by specs, up to the first that cannot be rendered, and a
notice for each spec of an unknown kind before it. -/
def alterTexts (blueprint : Blueprint) : List Spec → List Notice × Except Fault (List String)
  | [] => ([], .ok [])
  | spec :: specs =>
    match blueprint.alterClause spec with
    | .error fault => ([], .error fault)
    | .ok clause? =>
      let (notices, statements) := blueprint.alterTexts specs
      match clause? with
      | some clause => (notices, statements.map (alterText blueprint.table clause :: ·))
      | none =>
        (.unsupportedKind (Text.quoted spec.kind.name) blueprint.table :: notices, statements)

/-- Compiles the changes to an existing table. -/
def toAlter (blueprint : Blueprint) : Compiled (List String) :=
  let finalized := blueprint.finalize
  match finalized.result with
  | .error fault => ⟨.error fault, finalized.blueprint, finalized.notices⟩
  | .ok () =>
    let (warnings, statements) := finalized.blueprint.alterTexts finalized.blueprint.specs
    ⟨statements, finalized.blueprint, finalized.notices ++ warnings⟩

end Blueprint

end Tablewright
