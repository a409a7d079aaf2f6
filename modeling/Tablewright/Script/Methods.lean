import Tablewright.Blueprint.Call
import Tablewright.Script.Signature

/-! # Methods by name

The names by which scripts call a blueprint, a column or a foreign key, with their parameters.
-/

namespace Tablewright

/-- A method: its parameters, and the call that it makes of their arguments. -/
structure Method (α : Type) where
  signature : Signature
  build : List Value → Option α

namespace Method

/-- A method without parameters. -/
def nullary {α : Type} (call : α) : Method α :=
  ⟨⟨[], []⟩, fun _ => some call⟩

/-- A method with one parameter. -/
def unary {α : Type} (parameter : Parameter) (call : Value → α) : Method α :=
  ⟨⟨[parameter], []⟩, fun
    | [argument] => some (call argument)
    | _ => none⟩

/-- A method with two parameters. -/
def binary {α : Type} (first second : Parameter) (call : Value → Value → α) : Method α :=
  ⟨⟨[first, second], []⟩, fun
    | [one, two] => some (call one two)
    | _ => none⟩

/-- A method with three parameters. -/
def ternary {α : Type} (first second third : Parameter) (call : Value → Value → Value → α) :
    Method α :=
  ⟨⟨[first, second, third], []⟩, fun
    | [one, two, three] => some (call one two three)
    | _ => none⟩

/-- The call that a method makes of arguments. -/
def call {α : Type} (method : Method α) (callee : String) (arguments : List Value)
    (keywords : List (String × Value)) : Except Fault α := do
  match method.build (← method.signature.bind callee arguments keywords) with
  | some call => .ok call
  | none => .error .badTarget

end Method

/-- The name of a column, which must be given. -/
private def nameParameter : Parameter := .required "name"

/-- The default of a column, none if left out. -/
private def defaultParameter : Parameter := .optional "default" .null

/-- A method that defines a column of a type without arguments. -/
private def plainColumn (column : TypedColumn) : Method TableCall :=
  .unary nameParameter fun name => .define column name .null

/-- A method that defines a column of a type without arguments, with a default. -/
private def defaultedColumn (column : TypedColumn) : Method TableCall :=
  .binary nameParameter defaultParameter fun name default => .define column name default

/-- A method that defines a column of a type with one argument, and a default. -/
private def sizedColumn (parameter : Parameter) (column : Value → TypedColumn) : Method TableCall :=
  .ternary nameParameter parameter defaultParameter fun name size default =>
    .define (column size) name default

/-- A method that defines a column that numbers its rows. -/
private def numberedColumn (column : TypedColumn) : Method TableCall :=
  .unary (.optional "name" (.text "id")) fun name => .define column name .null

/-- A method that adds an index with a name. -/
private def namedIndex (kind : IndexKind) : Method TableCall :=
  .binary (.optional "columns" .null) (.optional "name" .null) fun columns name =>
    .addIndex kind columns name

/-- The methods of a blueprint, except the one that takes any number of names. -/
def tableMethod? : String → Option (Method TableCall)
  | "increments" => some (numberedColumn .increments)
  | "big_increments" => some (numberedColumn .bigIncrements)
  | "string" => some (sizedColumn (.optional "length" (.int 191)) .string)
  | "char" => some (sizedColumn (.optional "length" (.int 255)) .char)
  | "text" => some (plainColumn .text)
  | "long_text" => some (plainColumn .longText)
  | "json" => some (plainColumn .json)
  | "blob" => some (plainColumn .blob)
  | "integer" => some (sizedColumn (.optional "unsigned" (.bool true)) .integer)
  | "big_integer" => some (sizedColumn (.optional "unsigned" (.bool false)) .bigInteger)
  | "float" => some (defaultedColumn .float)
  | "double" => some (defaultedColumn .double)
  | "decimal" =>
    some ⟨⟨[nameParameter, .optional "precision" (.int 8), .optional "scale" (.int 2),
        defaultParameter], []⟩, fun
      | [name, precision, scale, default] => some (.define (.decimal precision scale) name default)
      | _ => none⟩
  | "enum" => some (sizedColumn (.required "values") .enum)
  | "boolean" => some (defaultedColumn .boolean)
  | "date" => some (plainColumn .date)
  | "time" => some (plainColumn .time)
  | "date_time" => some (plainColumn .dateTime)
  | "timestamp" => some (plainColumn .timestamp)
  | "timestamps" => some (.nullary .timestamps)
  | "soft_deletes" => some (.unary (.optional "name" (.text "deleted_at")) .softDeletes)
  | "add_column" => some (.binary nameParameter (.required "definition") .addColumn)
  | "foreign_id" => some (.unary (.required "column") .foreignId)
  | "foreign" => some (.unary (.required "column") .foreign)
  | "nullable" => some (.unary (.optional "value" (.bool true)) .nullable)
  | "default" => some (.unary (.required "value") .setDefault)
  | "comment" => some (.unary (.required "text") .comment)
  | "after" => some (.unary (.required "column") .after)
  | "first" => some (.nullary .first)
  | "index" => some (namedIndex .plain)
  | "unique" => some (namedIndex .unique)
  | "primary" =>
    some (.unary (.optional "columns" .null) fun columns => .addIndex .primary columns .null)
  | "rename_column" => some (.binary (.required "old") (.required "new") .renameColumn)
  | "modify_column" => some (.unary nameParameter .modifyColumn)
  | "drop_index" => some (.unary nameParameter .dropIndex)
  | "finalize" => some (.nullary .finalize)
  | "add_specs" => some (.nullary .addSpecs)
  | _ => none

/-- The methods of a column. -/
def columnMethod? : String → Option (Method ColumnCall)
  | "sql" => some (.nullary .sql)
  | "nullable" => some (.unary (.optional "value" (.bool true)) .nullable)
  | "default" => some (.unary (.required "value") .setDefault)
  | "default_raw" => some (.unary (.required "expression") .defaultRaw)
  | "use_current" => some (.nullary .useCurrent)
  | "use_current_on_update" => some (.nullary .useCurrentOnUpdate)
  | "comment" => some (.unary (.required "text") .comment)
  | "after" => some (.unary (.required "column") .after)
  | "first" => some (.nullary .first)
  | "index" => some (.unary (.optional "name" .null) fun name => .addIndex .plain name)
  | "unique" => some (.unary (.optional "name" .null) fun name => .addIndex .unique name)
  | "primary" => some (.nullary (.addIndex .primary .null))
  | "change" => some (.nullary .change)
  | _ => none

/-- The methods of a foreign key. -/
def keyMethod? : String → Option (Method KeyCall)
  | "references" => some (.unary (.required "column") .references)
  | "on" => some (.unary (.required "table") .on)
  | "on_delete" => some (.unary (.required "action") .onDelete)
  | "on_update" => some (.unary (.required "action") .onUpdate)
  | "cascade_on_delete" => some (.nullary (.onDelete (.action .cascade)))
  | "null_on_delete" => some (.nullary (.onDelete (.action .setNull)))
  | "constraint_name" => some (.nullary .constraintName)
  | "sql" => some (.nullary .sql)
  | _ => none

/-- The fault of a size that has no lower-case form. -/
private def notLowered (size : Value) : Except Fault ColumnType :=
  .error (.noSuchMember size.kindName "lower")

/-- The type built by the name of its class and arguments. -/
def typeMethod? : String → Option (Method (Except Fault ColumnType))
  | "Integer" =>
    some ⟨⟨[], [.optional "size" (.text "int"), .optional "unsigned" (.bool false)]⟩, fun
      | [.text size, unsigned] =>
        some (.ok (.integer (.ofName (size.map Char.toLower)) unsigned))
      | [.bytes _, unsigned] => some (.ok (.integer .regular unsigned))
      | [size, _] => some (notLowered size)
      | _ => none⟩
  | "BigInteger" =>
    some ⟨⟨[], [.optional "size" .null, .optional "unsigned" (.bool false)]⟩, fun
      | [_, unsigned] => some (.ok (.bigInteger unsigned))
      | _ => none⟩
  | "Float" =>
    some ⟨⟨[], [.optional "precision" (.text "float")]⟩, fun
      | [.text precision] => some (.ok (.float (precision.map Char.toLower = "double")))
      | [.bytes _] => some (.ok (.float false))
      | [precision] => some (notLowered precision)
      | _ => none⟩
  | "Decimal" =>
    some (.binary (.optional "precision" (.int 8)) (.optional "scale" (.int 2))
      ColumnType.ofPrecision)
  | "Boolean" => some (.nullary (.ok .boolean))
  | "String" => some (.unary (.optional "length" (.int 191)) ColumnType.ofLength)
  | "Char" => some (.unary (.optional "length" (.int 191)) ColumnType.ofFixedLength)
  | "Text" =>
    some (.unary (.optional "size" (.text "text")) fun
      | .text size => .ok (.text (.ofName (size.map Char.toLower)))
      | .bytes _ => .ok (.text .regular)
      | size => notLowered size)
  | "Binary" => some (.nullary (.ok .binary))
  | "JSON" => some (.nullary (.ok .json))
  | "Date" => some (.nullary (.ok .date))
  | "Time" => some (.nullary (.ok .time))
  | "DateTime" => some (.nullary (.ok .dateTime))
  | "Timestamp" => some (.nullary (.ok .timestamp))
  | "Enum" => some (.unary (.required "values") ColumnType.ofValues)
  | _ => none

/-- Builds a type by the name of its class. -/
def ColumnType.build (name : String) (arguments : List Value) (keywords : List (String × Value)) :
    Except Fault ColumnType :=
  match typeMethod? name with
  | some method => do (← method.call (name ++ ".__init__") arguments keywords)
  | none => .error (.noSuchMember "module" name)

end Tablewright
