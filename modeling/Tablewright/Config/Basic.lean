import Tablewright.Value.Display

/-! # Configuration

Where the database is, how tables are named and with which options they are created. Values are kept
as they were read; a prefix that is not a text is only found out when a table is named.
-/

namespace Tablewright

/-- The configuration of a schema. -/
structure Config where
  url : Value
  tablePrefix : Value
  engine : Value
  charset : Value
  collation : Value
  migrationsTable : Value
  echo : Value
deriving DecidableEq

namespace Config

/-- The configuration that stands where nothing is said. -/
def standard : Config where
  url := .text "mysql+pymysql://root@localhost:3306/roadschema"
  tablePrefix := .text ""
  engine := .text "InnoDB"
  charset := .text "utf8mb4"
  collation := .text "utf8mb4_unicode_ci"
  migrationsTable := .text "migrations"
  echo := .bool false

/-- The names of the settings. -/
def settingNames : List String :=
  ["url", "prefix", "engine", "charset", "collation", "migrations_table", "echo"]

/-- The value of a setting. -/
def get? (config : Config) : String → Option Value
  | "url" => some config.url
  | "prefix" => some config.tablePrefix
  | "engine" => some config.engine
  | "charset" => some config.charset
  | "collation" => some config.collation
  | "migrations_table" => some config.migrationsTable
  | "echo" => some config.echo
  | _ => none

/-- The configuration with a setting changed; a name that is no setting changes nothing. -/
def set (config : Config) (name : String) (value : Value) : Config :=
  match name with
  | "url" => { config with url := value }
  | "prefix" => { config with tablePrefix := value }
  | "engine" => { config with engine := value }
  | "charset" => { config with charset := value }
  | "collation" => { config with collation := value }
  | "migrations_table" => { config with migrationsTable := value }
  | "echo" => { config with echo := value }
  | _ => config

/-- The configuration with several settings changed in turn. -/
def setAll (config : Config) (settings : List (String × Value)) : Config :=
  settings.foldl (fun changed (name, value) => changed.set name value) config

/-- The options that every new table gets. -/
def tableOptions (config : Config) : Except Fault String := do
  return "ENGINE=" ++ (← config.engine.shown) ++ " DEFAULT CHARSET=" ++ (← config.charset.shown) ++
    " COLLATE=" ++ (← config.collation.shown)

end Config

end Tablewright
