import Tablewright.Config.Basic

/-! # Loading a configuration

A configuration comes from a document that maps settings to values, or from environment variables.
A setting that is not given keeps its standard value. Values are taken as they are; only the names
of the settings are checked. What the value of a document is, and why it has none, is up to a loader
that the project does not bring along.
-/

namespace Tablewright

/-- What stands at a path. -/
inductive FileContent where
  | missing
  | directory
  | bytes (content : List UInt8)
deriving DecidableEq

/-- Why a file has no document with a value. -/
inductive LoadFailure where
  /-- The document is malformed, in the words of the loader. -/
  | malformed (reason : String)
  /-- Anything else that comes up on the way. -/
  | stray (fault : Fault)
deriving DecidableEq

/-- What loads the document in the bytes of a file; the value of an empty one is null. -/
abbrev Loader := List UInt8 → Except LoadFailure Value

/-- The parts of a path that are neither empty nor a single dot. -/
def pathParts (path : String) : List String :=
  ((path.toList.splitOn '/').filter fun part => !part.isEmpty && part ≠ ['.']).map String.ofList

/-- A path without its empty and single-dot parts. Two slashes in front stay two. -/
def normalPath (path : String) : String :=
  let slashes := (path.toList.takeWhile (· == '/')).length
  let root := if slashes = 2 then "//" else if slashes = 0 then "" else "/"
  let normal := root ++ "/".intercalate (pathParts path)
  if normal = "" then "." else normal

/-- The greatest size in bytes of a path. -/
def pathLimit : Nat := 4095

/-- The greatest size in bytes of a part of a path. -/
def partLimit : Nat := 255

/-- Why nothing can be read at a path where no file was put. A path that leads upwards only is a
directory, and of any other the first part that leads down is looked for. -/
def absence (path : String) : ReadFailure :=
  if pathLimit < path.utf8ByteSize then .nameTooLong
  else
    match ((pathParts path).dropWhile (· == "..")).head? with
    | none => .isDirectory
    | some part => if partLimit < part.utf8ByteSize then .nameTooLong else .noSuchFile

namespace Config

/-- The key of a setting, if it is one. -/
def settingName? : Value → Option String
  | .text name => if settingNames.contains name then some name else none
  | _ => none

/-- The text of a key, if it is one. -/
def keyText? : Value → Option String
  | .text name => some name
  | _ => none

/-- The settings among the entries of a mapping. -/
def settings (entries : List (Value × Value)) : List (String × Value) :=
  entries.filterMap fun (key, value) => (settingName? key).map fun name => (name, value)

/-- The keys that are no settings. -/
def unknownKeys (entries : List (Value × Value)) : List Value :=
  (entries.map (·.1)).filter fun key => (settingName? key).isNone

/-- The configuration that the value of a document describes. A value that counts as false describes
the standard one. -/
def ofDocument (path : String) (document : Value) : Except Fault Config :=
  if !document.isTruthy then .ok standard
  else
    match document with
    | .map entries =>
      let unknown := unknownKeys entries
      if unknown.isEmpty then .ok (standard.setAll (settings entries))
      else
        match unknown.mapM keyText? with
        | some names =>
          let ordered := names.mergeSort fun left right => !decide (right < left)
          .error (.config (.unknownKeys path ordered))
        | none => .error (.wrongType (.notText 0 (unknown.headD .null).kindName))
    | _ => .error (.config (.notMapping path))

/-- The fault of a file whose document has no value. -/
def documentFault (path : String) : LoadFailure → Fault
  | .malformed reason => .config (.unreadable path (.malformed reason))
  | .stray fault => fault

/-- The configuration in a file. No path holds the null character. -/
def load (loader : Loader) (path : String) (content : FileContent) : Except Fault Config :=
  let path := normalPath path
  if path.contains '\x00' then .error .badValue
  else
    match content with
    | .missing => .error (.config (.unreadable path (absence path)))
    | .directory => .error (.config (.unreadable path .isDirectory))
    | .bytes content =>
      match loader content with
      | .ok document => ofDocument path document
      | .error failure => .error (documentFault path failure)

/-- The environment variables and the settings they give, apart from the one for echoing. -/
def settingVariables : List (String × String) :=
  [("ROADSCHEMA_URL", "url"), ("ROADSCHEMA_PREFIX", "prefix"), ("ROADSCHEMA_ENGINE", "engine"),
    ("ROADSCHEMA_CHARSET", "charset"), ("ROADSCHEMA_COLLATION", "collation"),
    ("ROADSCHEMA_MIGRATIONS_TABLE", "migrations_table")]

/-- Whether the text is a word for yes, in letters of any case. -/
def isYes (text : String) : Bool :=
  ["1", "true", "yes"].contains text.toLower

/-- The configuration in environment variables. -/
def ofEnvironment (environment : List (String × String)) : Config :=
  let given := settingVariables.filterMap fun (name, setting) =>
    (environment.lookup name).map fun value => (setting, Value.text value)
  let echo := ((environment.lookup "ROADSCHEMA_ECHO").map isYes).getD false
  (standard.setAll given).set "echo" (.bool echo)

end Config

end Tablewright
