import Tablewright.Script.Methods

/-! # Members by name

What a blueprint, a column, a foreign key or another spec has by a name: a field, or a method. A
name that a foreign key does not have is looked for in what it is on, and one that a column does
not have in the blueprint, so that a chain of calls can go on with the next column. Names that
start with an underscore are never passed on.
-/

namespace Tablewright.Script

/-- A method that is not called, in words. -/
def boundMethod (owner name : String) (receiver : Except Fault String) : Except Fault Value := do
  let text := "<bound method " ++ owner ++ "." ++ name ++ " of " ++ (← receiver) ++ ">"
  return .mention (.wording text text)

/-- What the blueprint has by a name, methods apart. -/
def tableField? (blueprint : Blueprint) (name : String) : Option Value :=
  match name with
  | "name" => some (.text blueprint.name)
  | "prefix" => some (.text blueprint.tablePrefix)
  | "table" => some (.text blueprint.table)
  | "columns" => some (.list blueprint.columnNames)
  | "current" | "_current" =>
    some ((blueprint.current.map fun index => .ofColumn (.attached index)).getD .null)
  | "specs" => some (.mention .specs)
  | "foreign_keys" => some (.mention (.keys blueprint.finalizations.length))
  | _ => none

/-- What a column has by a name, methods apart. -/
def columnField? (blueprint : Blueprint) (column : Column) (name : String) : Option Value :=
  match name with
  | "kind" => some (.ofKind column.kind)
  | "column" | "name" => some column.name
  | "new_name" => some .null
  | "is_constraint" => some (.bool false)
  | "data_type" =>
    some ((column.type.map fun type =>
      .mention (.type type.label (blueprint.viewedType type).sql.toOption)).getD .null)
  | "definition" => some column.definition
  | "is_nullable" => some column.nullability
  | "auto_increment" => some (.bool column.autoIncrement)
  | "primary_key" => some (.bool column.primaryKey)
  | "has_default" => some (.bool column.defaultClause.value?.isSome)
  | "default_value" => some (column.defaultClause.value?.getD .null)
  | "default_expression" => some (column.defaultClause.expression?.getD .null)
  | "update_current" => some (.bool column.refreshed)
  | "comment_text" => some column.comment
  | "position" => some (.ofText? column.position)
  | "is_typed" => some (.bool column.isTyped)
  | "_blueprint" => some (.ofTarget .blueprint)
  | "_text" => some (.text "")
  | _ => none

/-- What a spec that is not a column has by a name, methods apart. -/
def specField? (spec : PlainSpec) (name : String) : Option Value :=
  match name with
  | "kind" => some (.ofKind spec.kind)
  | "column" => some spec.column
  | "new_name" => some spec.newName
  | "is_constraint" => some (.bool spec.isConstraint)
  | "_text" => some (.text spec.text)
  | _ => none

/-- What a foreign key has by a name, methods apart. -/
def keyField? (blueprint : Blueprint) (key : ForeignKey) (name : String) :
    Option (Except Fault Value) :=
  match name with
  | "referenced_column" => some (.ok key.referencedColumn)
  | "referenced_table" => some (.ok key.tableValue)
  | "delete_action" => some (.ok (.ofText? key.deleteAction))
  | "update_action" => some (.ok (.ofText? key.updateAction))
  | "column" => some (blueprint.keyColumnName key)
  | "is_complete" => some (.ok (.bool (blueprint.isComplete key)))
  | "_blueprint" => some (.ok (.ofTarget .blueprint))
  | "_column" => some (.ok key.column)
  | _ => none

/-- What a name reads as in the blueprint. -/
def readTable (blueprint : Blueprint) (name : String) : Except Fault Value :=
  match tableField? blueprint name with
  | some value => .ok value
  | none =>
    if (tableMethod? name).isSome || name = "drop_column" then
      boundMethod "Blueprint" name (.ok blueprint.quoted)
    else .error (.noSuchMember "Blueprint" name)

/-- What a name reads as in a column. -/
def readColumn (blueprint : Blueprint) (ref : ColumnRef) (name : String) : Except Fault Value :=
  match (blueprint.column? ref).bind (columnField? blueprint · name) with
  | some value => .ok value
  | none =>
    if (columnMethod? name).isSome then
      boundMethod "ColumnDefinition" name (blueprint.quotedTarget (.column ref))
    else if name.startsWith "_" then .error (.hiddenMember name)
    else readTable blueprint name

/-- What a name reads as in a spec that is not a column. -/
def readSpec (blueprint : Blueprint) (index : Nat) (name : String) : Except Fault Value :=
  match blueprint.specs[index]? with
  | some (.plain spec) =>
    match specField? spec name with
    | some value => .ok value
    | none =>
      if name = "sql" then boundMethod "ColumnSpec" name (blueprint.quotedTarget (.spec index))
      else .error (.noSuchMember "ColumnSpec" name)
  | _ => .error .badTarget

/-- What a name reads as in a value that a foreign key is on. -/
def readValue (blueprint : Blueprint) (value : Value) (name : String) : Except Fault Value :=
  let unknown : Except Fault Value := .error (.noSuchMember value.kindName name)
  match value with
  | .mention (.target .blueprint) => readTable blueprint name
  | .mention (.target (.column ref)) => readColumn blueprint ref name
  | .mention (.target (.spec index)) => readSpec blueprint index name
  | .mention (.kind kind) =>
    if name = "name" then .ok (.text kind.name)
    else if name = "value" then .ok (.text kind.word) else unknown
  | .action action =>
    if name = "name" then .ok (.text action.name)
    else if name = "value" then .ok (.text action.keyword) else unknown
  | _ => unknown

/-- What a name reads as in a foreign key. -/
def readKey (blueprint : Blueprint) (index : Nat) (name : String) : Except Fault Value :=
  match blueprint.foreignKeys[index]? with
  | none => .error .badTarget
  | some key =>
    match keyField? blueprint key name with
    | some value => value
    | none =>
      if (keyMethod? name).isSome then
        boundMethod "ForeignKeyDraft" name (blueprint.quotedKey key)
      else if name.startsWith "_" then .error (.hiddenMember name)
      else readValue blueprint key.column name

/-- What a name reads as in something that takes calls. -/
def read (blueprint : Blueprint) (target : Target) (name : String) : Except Fault Value :=
  match target with
  | .blueprint => readTable blueprint name
  | .column ref => readColumn blueprint ref name
  | .spec index => readSpec blueprint index name
  | .key index => readKey blueprint index name

/-! ## Calls -/

/-- The fault of a call by a name that is no method. -/
def notCalled {α : Type} (value : Except Fault Value) : Except Fault α := do
  throw (.wrongType (.notCallable (← value).kindName))

/-- The call of a method of the blueprint. -/
def tableCall (blueprint : Blueprint) (method : String) (arguments : List Value)
    (keywords : List (String × Value)) : Except Fault TableCall :=
  let callee := "Blueprint." ++ method
  if method = "drop_column" then
    match keywords with
    | [] => .ok (.dropColumn arguments)
    | (keyword, _) :: _ =>
      if keyword = Signature.receiver then .error (.wrongType (.repeatedArgument callee keyword))
      else .error (.wrongType (.unknownKeyword callee keyword))
  else
    match tableMethod? method with
    | some found => found.call callee arguments keywords
    | none => notCalled (readTable blueprint method)

/-- The call of a method of a column, or else of the blueprint. -/
def columnCall (blueprint : Blueprint) (ref : ColumnRef) (method : String)
    (arguments : List Value) (keywords : List (String × Value)) : Except Fault Call :=
  match columnMethod? method with
  | some found =>
    return .column ref (← found.call ("ColumnDefinition." ++ method) arguments keywords)
  | none =>
    match (blueprint.column? ref).bind (columnField? blueprint · method) with
    | some value => notCalled (.ok value)
    | none =>
      if method.startsWith "_" then .error (.hiddenMember method)
      else return .table (← tableCall blueprint method arguments keywords)

/-- The call of a method of a foreign key, or else of what it is on. -/
def keyCall (blueprint : Blueprint) (index : Nat) (method : String) (arguments : List Value)
    (keywords : List (String × Value)) : Except Fault Call :=
  match keyMethod? method, blueprint.foreignKeys[index]? with
  | some found, _ =>
    return .key index (← found.call ("ForeignKeyDraft." ++ method) arguments keywords)
  | none, none => .error .badTarget
  | none, some key =>
    match keyField? blueprint key method with
    | some value => notCalled value
    | none =>
      if method.startsWith "_" then .error (.hiddenMember method)
      else
        match key.column with
        | .mention (.target .blueprint) =>
          return .table (← tableCall blueprint method arguments keywords)
        | .mention (.target (.column ref)) => columnCall blueprint ref method arguments keywords
        | other => notCalled (readValue blueprint other method)

/-- The answer of a spec that is not a column, which can only be asked for its fragment. -/
def specCall (blueprint : Blueprint) (index : Nat) (method : String) (arguments : List Value)
    (keywords : List (String × Value)) : Except Fault Value :=
  match method, blueprint.specs[index]? with
  | "sql", some spec => do
    let signature : Signature := ⟨[], []⟩
    let _ ← signature.bind "ColumnSpec.sql" arguments keywords
    return .text (← blueprint.specSql spec)
  | _, _ => notCalled (readSpec blueprint index method)

end Tablewright.Script
