import Tablewright.Literal
import Tablewright.Value.Order

/-! # Column types

The types a column can have, how each is declared, and which defaults it takes. A length, a
precision or a sign is kept as it was given, so only the checks made at construction restrict it.
-/

namespace Tablewright

/-- The widths of whole-number columns. -/
inductive IntegerSize where
  | tiny
  | small
  | regular
  | big
deriving DecidableEq

/-- The width with the name, regular for a name that is none. -/
def IntegerSize.ofName (name : String) : IntegerSize :=
  if name = "tinyint" then .tiny
  else if name = "smallint" then .small
  else if name = "bigint" then .big
  else .regular

/-- The declaration of the width. -/
def IntegerSize.sql : IntegerSize → String
  | .tiny => "TINYINT"
  | .small => "SMALLINT"
  | .regular => "INT"
  | .big => "BIGINT"

/-- The capacities of text columns. -/
inductive TextSize where
  | regular
  | medium
  | long
deriving DecidableEq

/-- The capacity with the name, regular for a name that is none. -/
def TextSize.ofName (name : String) : TextSize :=
  if name = "medium" then .medium else if name = "long" then .long else .regular

/-- The declaration of the capacity. -/
def TextSize.sql : TextSize → String
  | .regular => "TEXT"
  | .medium => "MEDIUMTEXT"
  | .long => "LONGTEXT"

/-- The type of a column. -/
inductive ColumnType where
  | integer (size : IntegerSize) (unsigned : Value)
  | bigInteger (unsigned : Value)
  | float (double : Bool)
  | decimal (precision scale : Value)
  | boolean
  | string (length : Value)
  | char (length : Value)
  | text (size : TextSize)
  | binary
  | json
  | date
  | time
  | dateTime
  | timestamp
  | enum (values : List String)
deriving DecidableEq

namespace ColumnType

/-- The unsigned whole number that keys are made of. -/
def unsignedInteger : ColumnType :=
  .integer .regular (.bool true)

/-- Checks that a length is at least one. -/
def checkLength (length : Value) : Except Fault Unit := do
  if ← length.before (.int 1) then throw (.invalidInput (.textLength (← length.shown)))

/-- A variable-length text of a positive length. -/
def ofLength (length : Value) : Except Fault ColumnType := do
  checkLength length
  return .string length

/-- A fixed-length text of a positive length. -/
def ofFixedLength (length : Value) : Except Fault ColumnType := do
  checkLength length
  return .char length

/-- A decimal with at least one digit, of which none, some or all stand after the point. -/
def ofPrecision (precision scale : Value) : Except Fault ColumnType := do
  let invalid : Except Fault ColumnType := do
    throw (.invalidInput (.decimalShape (← precision.shown) (← scale.shown)))
  if ← precision.before (.int 1) then invalid
  else if ← scale.before (.int 0) then invalid
  else if ← precision.before scale then invalid
  else return .decimal precision scale

/-- An enumeration of the texts of the values, each once, in the order of their first mention. -/
def ofValues (values : Value) : Except Fault ColumnType := do
  let texts := (← (← values.elements).mapM Value.shown).eraseDups
  if texts.isEmpty then throw (.invalidInput .noEnumValues)
  return .enum texts

/-- The declaration of a type that may be unsigned. -/
def withSign (size : IntegerSize) (unsigned : Value) : String :=
  size.sql ++ (if unsigned.isTruthy then " UNSIGNED" else "")

/-- The type with another value for what says that it is unsigned. -/
def mapSign (change : Value → Value) : ColumnType → ColumnType
  | .integer size unsigned => .integer size (change unsigned)
  | .bigInteger unsigned => .bigInteger (change unsigned)
  | type => type

/-- The declaration of the type. -/
def sql : ColumnType → Except Fault String
  | .integer size unsigned => .ok (withSign size unsigned)
  | .bigInteger unsigned => .ok (withSign .big unsigned)
  | .float double => .ok (if double then "DOUBLE" else "FLOAT")
  | .decimal precision scale => do
    return "DECIMAL(" ++ (← precision.shown) ++ "," ++ (← scale.shown) ++ ")"
  | .boolean => .ok "TINYINT(1)"
  | .string length => do return "VARCHAR(" ++ (← length.shown) ++ ")"
  | .char length => do return "CHAR(" ++ (← length.shown) ++ ")"
  | .text size => .ok size.sql
  | .binary => .ok "BLOB"
  | .json => .ok "JSON"
  | .date => .ok "DATE"
  | .time => .ok "TIME"
  | .dateTime => .ok "DATETIME"
  | .timestamp => .ok "TIMESTAMP"
  | .enum values => .ok ("ENUM(" ++ ",".intercalate (values.map quoteLiteral) ++ ")")

/-- The name of the type in messages. -/
def label : ColumnType → String
  | .integer .. => "Integer"
  | .bigInteger _ => "BigInteger"
  | .float _ => "Float"
  | .decimal .. => "Decimal"
  | .boolean => "Boolean"
  | .string _ => "String"
  | .char _ => "Char"
  | .text _ => "Text"
  | .binary => "Binary"
  | .json => "JSON"
  | .date => "Date"
  | .time => "Time"
  | .dateTime => "DateTime"
  | .timestamp => "Timestamp"
  | .enum _ => "Enum"

/-- The type in messages. -/
def quoted (type : ColumnType) : Except Fault String := do
  return type.label ++ "(" ++ (← type.sql) ++ ")"

/-- A default that a type does not take. -/
structure DefaultProblem where
  value : Value
  allowed : List String
deriving DecidableEq

/-- The wording of the problem. -/
def DefaultProblem.message (problem : DefaultProblem) : Except Fault String := do
  return "Default " ++ (← problem.value.quoted) ++ " is not one of " ++ quotedTexts problem.allowed

/-- What is wrong with a default. Only an enumeration is particular: it takes null and the texts
among its values. -/
def defaultProblems : ColumnType → Value → List DefaultProblem
  | .enum allowed, value =>
    match value with
    | .null => []
    | .text word => if word ∈ allowed then [] else [⟨value, allowed⟩]
    | _ => [⟨value, allowed⟩]
  | _, _ => []

end ColumnType

end Tablewright
