import Tablewright.Blueprint.Define
import Tablewright.Blueprint.Edit
import Tablewright.Blueprint.Statement

/-! # Calls on a blueprint

What can be declared: calls on the blueprint itself, on one of its columns, or on one of its foreign
keys. A call answers with the object to go on with, and may fail; a call that fails can still have
appended the column whose default was refused.
-/

namespace Tablewright

/-- The methods that define one column of a type, with the arguments that make the type. -/
inductive TypedColumn where
  | increments
  | bigIncrements
  | string (length : Value)
  | char (length : Value)
  | text
  | longText
  | json
  | blob
  | integer (unsigned : Value)
  | bigInteger (unsigned : Value)
  | float
  | double
  | decimal (precision scale : Value)
  | enum (values : Value)
  | boolean
  | date
  | time
  | dateTime
  | timestamp
deriving DecidableEq

namespace TypedColumn

/-- The type of the column, if the arguments make one. -/
def type : TypedColumn → Except Fault ColumnType
  | .increments => .ok .unsignedInteger
  | .bigIncrements => .ok (.bigInteger (.bool true))
  | .string length => ColumnType.ofLength length
  | .char length => ColumnType.ofFixedLength length
  | .text => .ok (.text .regular)
  | .longText => .ok (.text .long)
  | .json => .ok .json
  | .blob => .ok .binary
  | .integer unsigned => .ok (.integer .regular unsigned)
  | .bigInteger unsigned => .ok (.bigInteger unsigned)
  | .float => .ok (.float false)
  | .double => .ok (.float true)
  | .decimal precision scale => ColumnType.ofPrecision precision scale
  | .enum values => ColumnType.ofValues values
  | .boolean => .ok .boolean
  | .date => .ok .date
  | .time => .ok .time
  | .dateTime => .ok .dateTime
  | .timestamp => .ok .timestamp

/-- Whether the column numbers its rows and is the primary key. -/
def isNumbered : TypedColumn → Bool
  | .increments | .bigIncrements => true
  | _ => false

end TypedColumn

/-- A call on the blueprint. -/
inductive TableCall where
  | define (column : TypedColumn) (name default : Value)
  | timestamps
  | softDeletes (name : Value)
  | addColumn (name definition : Value)
  | foreignId (column : Value)
  | foreign (column : Value)
  | nullable (value : Value)
  | setDefault (value : Value)
  | comment (text : Value)
  | after (column : Value)
  | first
  | addIndex (kind : IndexKind) (columns name : Value)
  | renameColumn (old new : Value)
  | modifyColumn (name : Value)
  | dropColumn (names : List Value)
  | dropIndex (name : Value)
  | append (spec : PlainSpec)
  | finalize
  | addSpecs
  | toCreate (options : String)
  | toAlter
deriving DecidableEq

/-- A call on a column. -/
inductive ColumnCall where
  | sql
  | nullable (value : Value)
  | setDefault (value : Value)
  | defaultRaw (expression : Value)
  | useCurrent
  | useCurrentOnUpdate
  | comment (text : Value)
  | after (column : Value)
  | first
  | addIndex (kind : IndexKind) (name : Value)
  | change
deriving DecidableEq

/-- A call on a foreign key. -/
inductive KeyCall where
  | references (column : Value)
  | on (table : Value)
  | onDelete (action : Value)
  | onUpdate (action : Value)
  | constraintName
  | sql
deriving DecidableEq

/-- A call on a blueprint or on one of its parts. -/
inductive Call where
  | table (call : TableCall)
  | column (ref : ColumnRef) (call : ColumnCall)
  | key (index : Nat) (call : KeyCall)
deriving DecidableEq

/-- The outcome of a call: its answer or fault, the blueprint afterwards, and what was noted. -/
abbrev CallOutcome := Compiled Value

namespace Blueprint

/-- The outcome of a call that cannot fail. -/
def answered (blueprint : Blueprint) (answer : Value) : CallOutcome :=
  ⟨.ok answer, blueprint, []⟩

/-- The outcome of a call that cannot fail and answers what goes on taking calls. -/
def awaits (blueprint : Blueprint) (target : Target) : CallOutcome :=
  blueprint.answered (.ofTarget target)

/-- The outcome of a call that only looks. -/
def asked (blueprint : Blueprint) (answer : Except Fault Value) : CallOutcome :=
  ⟨answer, blueprint, []⟩

/-- The outcome of a call that changes nothing if it fails. -/
def attempt (before : Blueprint) (after : Except Fault Blueprint) (target : Target) :
    CallOutcome :=
  match after with
  | .ok blueprint => blueprint.awaits target
  | .error fault => before.asked (.error fault)

/-- Defines a column of a type that needs no arguments and no default. -/
def defineMoment (blueprint : Blueprint) (name : Value) : Except Fault (Blueprint × ColumnRef) :=
  blueprint.define name .dateTime

/-- Adds the two columns that record when a row was made and last changed. -/
def addTimestamps (blueprint : Blueprint) : Except Fault Blueprint := do
  let (made, madeRef) ← blueprint.defineMoment (.text "created_at")
  let made := made.updateColumn madeRef (Column.withExpression · (.text currentMoment))
  let (changed, changedRef) ← made.defineMoment (.text "updated_at")
  return changed.updateColumn changedRef fun column =>
    { column.withExpression (.text currentMoment) with refreshed := true }

/-- The type of a column whose arguments may mention something. The values of an enumeration are
put into words one by one. -/
def columnType (blueprint : Blueprint) : TypedColumn → Except Fault ColumnType
  | .enum values => do
    let elements ← (blueprint.viewed values).elements
    ColumnType.ofValues (.list (← elements.mapM blueprint.words))
  | column => column.type

/-- Defines a column, and gives it the default unless that is null. -/
def callDefine (blueprint : Blueprint) (column : TypedColumn) (name default : Value) :
    CallOutcome :=
  match (blueprint.columnType column).bind (blueprint.define name) with
  | .error fault => blueprint.asked (.error fault)
  | .ok (defined, ref) =>
    let defined :=
      if column.isNumbered then
        defined.updateColumn ref fun column =>
          { column with autoIncrement := true, primaryKey := true }
      else defined
    if default = .null then defined.awaits (.column ref)
    else defined.attempt (defined.setDefault ref default) (.column ref)

/-- Performs a call on the column defined last; nothing without one. -/
def onCurrent (blueprint : Blueprint) (call : ColumnRef → Except Fault Blueprint) : CallOutcome :=
  match blueprint.current with
  | none => blueprint.awaits .blueprint
  | some index => blueprint.attempt (call (.attached index)) .blueprint

/-- Changes the column defined last. -/
def editCurrent (blueprint : Blueprint) (change : Column → Column) : CallOutcome :=
  blueprint.onCurrent fun ref => .ok (blueprint.updateColumn ref change)

/-- Opens a foreign key on what is given for a column: a name, a column, what the column of another
foreign key is, or anything else. -/
def callForeign (blueprint : Blueprint) (column : Value) : CallOutcome :=
  let opened :=
    match column with
    | .text name => blueprint.openDetachedKey name
    | .mention (.target (.key index)) =>
      blueprint.openKey ((blueprint.foreignKeys[index]?.map ForeignKey.column).getD column)
    | _ => blueprint.openKey column
  opened.awaits (.key blueprint.foreignKeys.length)

/-- Performs a call on the blueprint. -/
def callTable (blueprint : Blueprint) : TableCall → CallOutcome
  | .define column name default => blueprint.callDefine column name default
  | .timestamps => blueprint.attempt blueprint.addTimestamps .blueprint
  | .softDeletes name =>
    match blueprint.defineMoment name with
    | .error fault => blueprint.asked (.error fault)
    | .ok (defined, ref) =>
      (defined.updateColumn ref fun column => { column with nullability := .bool true }).awaits
        (.column ref)
  | .addColumn name definition =>
    (blueprint.appendColumn (Column.raw name definition)).awaits
      (.column (.attached blueprint.specs.length))
  | .foreignId column =>
    match blueprint.define column .unsignedInteger with
    | .error fault => blueprint.asked (.error fault)
    | .ok (defined, ref) =>
      (defined.openKey (.ofColumn ref)).awaits (.key blueprint.foreignKeys.length)
  | .foreign column => blueprint.callForeign column
  | .nullable value => blueprint.editCurrent fun column => { column with nullability := value }
  | .setDefault value => blueprint.onCurrent fun ref => blueprint.setDefault ref value
  | .comment text => blueprint.editCurrent fun column => { column with comment := text }
  | .after other => blueprint.onCurrent fun ref => blueprint.placeAfter ref other
  | .first => blueprint.editCurrent fun column => { column with position := some "FIRST" }
  | .addIndex kind columns name =>
    blueprint.attempt (blueprint.addIndex kind columns name) .blueprint
  | .renameColumn old new =>
    (blueprint.appendPlain ⟨.rename, old, "", new, false⟩).awaits .blueprint
  | .modifyColumn name =>
    (blueprint.appendColumn (Column.bare name .modify)).awaits
      (.column (.attached blueprint.specs.length))
  | .dropColumn names =>
    (names.foldl (fun dropped name => dropped.appendPlain ⟨.drop, name, "", .null, false⟩)
      blueprint).awaits .blueprint
  | .dropIndex name =>
    (blueprint.appendPlain ⟨.dropIndex, name, "", .null, false⟩).awaits .blueprint
  | .append spec => (blueprint.appendPlain spec).awaits (.spec blueprint.specs.length)
  | .finalize =>
    let finalized := blueprint.finalize
    ⟨finalized.result.map fun _ => .null, finalized.blueprint, finalized.notices⟩
  | .addSpecs =>
    let added := blueprint.specs.zipIdx.filter fun (spec, _) => spec.kind = .add
    blueprint.answered (.list (added.map fun (spec, index) => .ofTarget (specTarget index spec)))
  | .toCreate options =>
    let compiled := blueprint.toCreate options
    ⟨compiled.result.map Value.ofText?, compiled.blueprint, compiled.notices⟩
  | .toAlter =>
    let compiled := blueprint.toAlter
    ⟨compiled.result.map fun statements => .list (statements.map Value.text),
      compiled.blueprint, compiled.notices⟩

/-- Performs a call on a column. -/
def callColumn (blueprint : Blueprint) (ref : ColumnRef) (call : ColumnCall) : CallOutcome :=
  let edit (change : Column → Column) : CallOutcome :=
    (blueprint.updateColumn ref change).awaits (.column ref)
  match call with
  | .sql =>
    match blueprint.column? ref with
    | none => blueprint.asked (.error .badTarget)
    | some column => blueprint.asked ((blueprint.columnSql column).map .text)
  | .nullable value => edit fun column => { column with nullability := value }
  | .setDefault value => blueprint.attempt (blueprint.setDefault ref value) (.column ref)
  | .defaultRaw expression => edit (Column.withExpression · expression)
  | .useCurrent => edit (Column.withExpression · (.text currentMoment))
  | .useCurrentOnUpdate => edit fun column => { column with refreshed := true }
  | .comment text => edit fun column => { column with comment := text }
  | .after other => blueprint.attempt (blueprint.placeAfter ref other) (.column ref)
  | .first => edit fun column => { column with position := some "FIRST" }
  | .addIndex kind name =>
    blueprint.attempt (blueprint.addIndex kind (blueprint.columnName ref) name) (.column ref)
  | .change => edit fun column => { column with kind := .modify }

/-- Looks at a foreign key. -/
def askKey (blueprint : Blueprint) (index : Nat) (question : ForeignKey → Except Fault String) :
    CallOutcome :=
  match blueprint.foreignKeys[index]? with
  | none => blueprint.asked (.error .badTarget)
  | some key => blueprint.asked ((question key).map .text)

/-- Changes a foreign key by a text that may not be found. -/
def editKey (blueprint : Blueprint) (index : Nat) (text : Except Fault String)
    (change : String → ForeignKey → ForeignKey) : CallOutcome :=
  blueprint.attempt (text.map fun text => blueprint.updateKey index (change text)) (.key index)

/-- Performs a call on a foreign key. -/
def callKey (blueprint : Blueprint) (index : Nat) : KeyCall → CallOutcome
  | .references column =>
    (blueprint.updateKey index fun key => { key with referencedColumn := column }).awaits
      (.key index)
  | .on table =>
    blueprint.editKey index table.asSuffix fun name key =>
      { key with referencedTable := some (blueprint.tablePrefix ++ name) }
  | .onDelete action =>
    blueprint.editKey index ((blueprint.words action).bind actionText) fun text key =>
      { key with deleteAction := some text }
  | .onUpdate action =>
    blueprint.editKey index ((blueprint.words action).bind actionText) fun text key =>
      { key with updateAction := some text }
  | .constraintName => blueprint.askKey index blueprint.constraintName
  | .sql => blueprint.askKey index blueprint.keySql

/-- Performs a call. -/
def perform (blueprint : Blueprint) : Call → CallOutcome
  | .table call => blueprint.callTable call
  | .column ref call => blueprint.callColumn ref call
  | .key index call => blueprint.callKey index call

end Blueprint

end Tablewright
