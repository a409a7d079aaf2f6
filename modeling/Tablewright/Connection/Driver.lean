import Tablewright.Connection.Open
import Tablewright.Connection.Url
import Tablewright.Text.Blank

/-! # A toolkit

The toolkit that connections are opened with where nothing else is there. It reads database URLs
and finds one driver. Drivers are looked for among everything that goes by a name in the backend, so
a name can be found that is no driver's. Some settings in a URL are for the driver and have to be
truth values or whole numbers.
-/

namespace Tablewright

namespace DatabaseUrl

/-- The drivers that are known for these backends. -/
def knownDrivers : List String :=
  ["aiomysql", "asyncmy", "base", "cymysql", "mariadbconnector", "mysqlconnector", "mysqldb",
    "pymysql", "pyodbc"]

/-- The parts of the backends that are no drivers. -/
def otherParts : List String :=
  ["_mariadb_shim", "dml", "enumerated", "expression", "json", "mariadb", "reflection",
    "reserved_words", "types"]

/-- The column types and statement builders of the first backend. -/
def backendNames : List String :=
  ["BIGINT", "BINARY", "BIT", "BLOB", "BOOLEAN", "CHAR", "DATE", "DATETIME", "DECIMAL", "DOUBLE",
    "ENUM", "FLOAT", "INET4", "INET6", "INTEGER", "JSON", "LONGBLOB", "LONGTEXT", "MEDIUMBLOB",
    "MEDIUMINT", "MEDIUMTEXT", "NCHAR", "NUMERIC", "NVARCHAR", "REAL", "SET", "SMALLINT", "TEXT",
    "TIME", "TIMESTAMP", "TINYBLOB", "TINYINT", "TINYTEXT", "VARBINARY", "VARCHAR", "YEAR",
    "Insert", "dialect", "insert", "limit", "match"]

/-- What everything with names of its own has, between two underscores on each side. -/
def innerNames : List String :=
  ["all", "annotations", "builtins", "cached", "class", "delattr", "dict", "dir", "doc", "eq",
    "file", "format", "ge", "getattribute", "getstate", "gt", "hash", "init", "init_subclass", "le",
    "loader", "lt", "name", "ne", "new", "package", "path", "reduce", "reduce_ex", "repr",
    "setattr", "sizeof", "spec", "str", "subclasshook"]

/-- What goes by a name in a backend and is no driver. -/
def isNoDriver (backend name : String) : Bool :=
  otherParts.contains name ||
    if backend = "mysql" then
      backendNames.contains name || innerNames.any fun inner => name == "__" ++ inner ++ "__"
    else name = "provision"

/-- The driver that is there. -/
def installedDriver : String :=
  "pymysql"

/-- The driver of a URL. One that is not named is the backend's own. -/
def findDriver (url : DatabaseUrl) : Except Fault String :=
  match url.schemeParts with
  | [_] => .error .driverMissing
  | [_, driver] =>
    if driver = installedDriver then .ok driver
    else if knownDrivers.contains driver then .error .driverMissing
    else if isNoDriver url.backend driver then .error (.noSuchMember driver "dialect")
    else .error .noSuchDriver
  | _ => .error .badValue

/-- What a setting of a driver has to be. -/
inductive SettingKind where
  | truth
  | number

/-- The settings of a driver that are not any text, in the order in which they are checked. -/
def driverSettings : List (String × SettingKind) :=
  [("compress", .truth), ("connect_timeout", .number), ("read_timeout", .number),
    ("write_timeout", .number), ("client_flag", .number), ("local_infile", .truth),
    ("use_unicode", .truth), ("ssl_check_hostname", .truth)]

/-- The words for truth values, in letters of any case. -/
def truthWords : List String :=
  ["true", "yes", "on", "y", "t", "1", "false", "no", "off", "n", "f", "0"]

/-- Checks the values given for a setting. Several of them are no number, but count as true. -/
def SettingKind.check : SettingKind → List String → Except Fault Unit
  | _, [] => .ok ()
  | .truth, [value] =>
    if truthWords.contains (Text.trim value).toLower then .ok () else .error .badValue
  | .number, [value] => if (readInteger? value.toList).isSome then .ok () else .error .badValue
  | .truth, _ => .ok ()
  | .number, _ => .error (.wrongType (.notANumber "tuple"))

/-- Checks the settings of a URL that are for the driver. -/
def checkSettings (url : DatabaseUrl) : Except Fault Unit :=
  driverSettings.forM fun (name, kind) =>
    kind.check ((url.settings.filter fun setting => setting.1 == name).map (·.2))

/-- The URL that a value is read as. -/
def parse : Value → Except UrlFailure DatabaseUrl
  | .text text =>
    match read text with
    | .ok url => .ok url
    | .error .noScheme => .error (.refused "Could not parse SQLAlchemy URL from given URL string")
    | .error .badPortNumber => .error (.stray .badValue)
  | value =>
    match value.quoted with
    | .ok text => .error (.refused ("Expected string or URL object, got " ++ text))
    | .error fault => .error (.stray fault)

end DatabaseUrl

/-- What is known of an engine that has been made: its driver and its URL. -/
structure DriverEngine where
  driver : String
  url : DatabaseUrl
deriving DecidableEq

namespace DriverEngine

open DatabaseUrl

/-- Makes an engine for a URL. There are no plugins to be loaded. -/
def build (url : DatabaseUrl) : Except Fault DriverEngine := do
  if url.settings.any fun setting => setting.1 == "plugin" then throw .noSuchDriver
  let driver ← findDriver url
  checkSettings url
  let settings := url.settings.filter fun setting => setting.1 != "plugins"
  return ⟨driver, { url with settings }⟩

/-- The toolkit that reads database URLs and knows one driver. -/
def toolkit : Toolkit DatabaseUrl DriverEngine where
  parse := DatabaseUrl.parse
  backend := DatabaseUrl.backend
  build url _ := build url
  urlText engine := engine.url.text

end DriverEngine

end Tablewright
