import Tablewright.ColumnType

/-! # Columns and other specs

A blueprint is a list of specs. A column spec keeps its clauses apart and is rendered in a fixed
order whenever it is asked for, so modifiers may come in any order. Every other spec carries its
text as it is. The name or the default of a column may mention something of its blueprint, which
has to put that into words before the column can be rendered.
-/

namespace Tablewright

/-- What a column holds when a row gives no value for it. -/
inductive DefaultClause where
  | none
  | value (value : Value)
  | expression (expression : Value)
deriving DecidableEq

/-- The value of a default that is one. -/
def DefaultClause.value? : DefaultClause → Option Value
  | .value given => some given
  | _ => Option.none

/-- The expression of a default that is one. -/
def DefaultClause.expression? : DefaultClause → Option Value
  | .expression given => some given
  | _ => Option.none

/-- The default put into words. -/
def DefaultClause.inWords (words : Value → Except Fault Value) :
    DefaultClause → Except Fault DefaultClause
  | .none => .ok .none
  | .value given => (words given).map .value
  | .expression given => (words given).map .expression

/-- The expression for the current moment. -/
def currentMoment : String := "CURRENT_TIMESTAMP"

/-- A column's definition. A null in `definition`, `nullability` or `comment` leaves the clause
out. -/
structure Column where
  name : Value
  kind : SpecKind
  type : Option ColumnType
  definition : Value
  nullability : Value
  autoIncrement : Bool
  primaryKey : Bool
  defaultClause : DefaultClause
  refreshed : Bool
  comment : Value
  position : Option String
deriving DecidableEq

namespace Column

/-- A column with nothing but its name. -/
def bare (name : Value) (kind : SpecKind) : Column where
  name := name
  kind := kind
  type := none
  definition := .null
  nullability := .null
  autoIncrement := false
  primaryKey := false
  defaultClause := .none
  refreshed := false
  comment := .null
  position := none

/-- A column of a type, which allows no null unless told otherwise. -/
def typed (name : Value) (type : ColumnType) : Column :=
  { bare name .add with type := some type, nullability := .bool false }

/-- A column whose definition is given as it is. -/
def raw (name definition : Value) : Column :=
  { bare name .add with definition := definition }

/-- Whether the column has a type or a definition. -/
def isTyped (column : Column) : Bool :=
  column.type.isSome || column.definition != .null

/-- The clause with the type; none where a definition is given. -/
def typeClause (column : Column) : Except Fault (List String) :=
  match column.definition, column.type with
  | .null, some type => type.sql.map ([·])
  | _, _ => .ok []

/-- The clause with the definition, which must be a text. -/
def definitionClause (column : Column) : Except Fault (List String) :=
  match column.definition with
  | .null => .ok []
  | .text definition => .ok [definition]
  | definition => .error (.wrongType (.notText 1 definition.kindName))

/-- The clause that allows or forbids null. -/
def nullabilityClause (column : Column) : List String :=
  if column.nullability = .null then []
  else [if column.nullability.isTruthy then "NULL" else "NOT NULL"]

/-- The clauses of a numbered key. -/
def keyClauses (column : Column) : List String :=
  (if column.autoIncrement then ["AUTO_INCREMENT"] else []) ++
    (if column.primaryKey then ["PRIMARY KEY"] else [])

/-- The clause with the default. -/
def defaultClauses (column : Column) : Except Fault (List String) :=
  match column.defaultClause with
  | .none => .ok []
  | .value value => (defaultLiteral value).map fun literal => ["DEFAULT " ++ literal]
  | .expression expression => expression.shown.map fun text => ["DEFAULT " ++ text]

/-- The clause that refreshes the column with every change of its row. -/
def refreshClause (column : Column) : List String :=
  if column.refreshed then ["ON UPDATE " ++ currentMoment] else []

/-- The clause with the comment, which must be a text. -/
def commentClause (column : Column) : Except Fault (List String) :=
  match column.comment with
  | .null => .ok []
  | .text comment => .ok ["COMMENT " ++ quoteLiteral comment]
  | .bytes _ | .date _ | .dateTime _ => .error (.wrongType (.notQuotable column.comment.kindName))
  | comment => .error (.noSuchMember comment.memberKind "replace")

/-- The clauses in their fixed order. That the definition is a text is found out last. -/
def clauses (column : Column) : Except Fault (List String) := do
  let name ← column.name.shown
  let type ← column.typeClause
  let default ← column.defaultClauses
  let comment ← column.commentClause
  let definition ← column.definitionClause
  return quoteName name :: definition ++ type ++ column.nullabilityClause ++ column.keyClauses ++
    default ++ column.refreshClause ++ comment ++ column.position.toList

/-- The column with its name and its default put into words, in this order. -/
def inWords (words : Value → Except Fault Value) (column : Column) : Except Fault Column := do
  let name ← words column.name
  let defaultClause ← column.defaultClause.inWords words
  return { column with name, defaultClause }

/-- The fragment that declares the column. -/
def sql (column : Column) : Except Fault String := do
  return " ".intercalate (← column.clauses)

/-- What is wrong with a value as the default of the column. -/
def defaultProblems (column : Column) (value : Value) : List ColumnType.DefaultProblem :=
  (column.type.map fun type => type.defaultProblems value).getD []

/-- The column with a default, replacing an earlier one. -/
def withDefault (column : Column) (value : Value) : Column :=
  { column with defaultClause := .value value }

/-- The column with an expression as its default, replacing an earlier one. Null removes it. -/
def withExpression (column : Column) (expression : Value) : Column :=
  { column with
    defaultClause := if expression = .null then .none else .expression expression }

/-- The column with a type. Null is forbidden unless something was said about it before. -/
def withType (column : Column) (type : ColumnType) : Column :=
  { column with
    type := some type
    nullability := if column.nullability = .null then .bool false else column.nullability }

end Column

/-- A spec that is not a column: an index, a constraint or an alteration. -/
structure PlainSpec where
  kind : SpecKind
  column : Value
  text : String
  newName : Value
  isConstraint : Bool
deriving DecidableEq

/-- One structural element of a table. -/
inductive Spec where
  | column (column : Column)
  | plain (spec : PlainSpec)
deriving DecidableEq

namespace Spec

/-- An index or a constraint with the text. -/
def constraint (text : String) : Spec :=
  .plain ⟨.add, .null, text, .null, true⟩

/-- What the spec does to its table. -/
def kind : Spec → SpecKind
  | .column definition => definition.kind
  | .plain spec => spec.kind

/-- The name of the column that the spec is about, null for an index or a constraint. -/
def columnName : Spec → Value
  | .column definition => definition.name
  | .plain spec => spec.column

/-- The name that a renamed column gets. -/
def newName : Spec → Value
  | .column _ => .null
  | .plain spec => spec.newName

/-- Whether the spec is an index or a constraint. -/
def isConstraint : Spec → Bool
  | .column _ => false
  | .plain spec => spec.isConstraint

/-- The column of a column spec. -/
def column? : Spec → Option Column
  | .column definition => some definition
  | .plain _ => none

/-- The spec with its column changed. -/
def mapColumn (change : Column → Column) : Spec → Spec
  | .column definition => .column (change definition)
  | .plain spec => .plain spec

end Spec

end Tablewright
