import Tablewright.Config.Basic
import Tablewright.Notice

/-! # Opening a connection

The statements are written for two backends, so only their URLs are accepted. URLs are parsed and
engines are made by a toolkit that the project does not bring along: all that is said of it here is
what it is asked for and what it can answer. Opening makes an engine but does not connect yet.
-/

namespace Tablewright

/-- The backends that statements are written for. -/
def supportedBackends : List String :=
  ["mysql", "mariadb"]

/-- Why a value is not parsed as a URL. -/
inductive UrlFailure where
  /-- It is none, in the words of the toolkit. -/
  | refused (reason : String)
  /-- Anything else that comes up on the way. -/
  | stray (fault : Fault)
deriving DecidableEq

/-- What databases are opened with. -/
structure Toolkit (Url Engine : Type) where
  parse : Value → Except UrlFailure Url
  backend : Url → String
  build : Url → (echo : Value) → Except Fault Engine
  /-- The URL of an engine as a text that does not give away the password. -/
  urlText : Engine → String

/-- An engine that was made, and what is noted about it. -/
structure Connection (Engine : Type) where
  engine : Engine
  notice : Notice
deriving DecidableEq

namespace Connection

variable {Url Engine : Type} (toolkit : Toolkit Url Engine)

/-- The URL that a value is parsed as. A value that is refused is a fault of the configuration. -/
def parseUrl (value : Value) : Except Fault Url :=
  match toolkit.parse value with
  | .ok url => .ok url
  | .error (.refused reason) => do throw (.config (.refusedUrl (← value.quoted) reason))
  | .error (.stray fault) => .error fault

/-- Opens a connection for a configuration. -/
def ofConfig (config : Config) : Except Fault (Connection Engine) := do
  let url ← parseUrl toolkit config.url
  let backend := toolkit.backend url
  if !supportedBackends.contains backend then
    throw (.config (.unsupportedBackend backend supportedBackends))
  let engine ← toolkit.build url config.echo
  return ⟨engine, .connected (toolkit.urlText engine)⟩

end Connection

end Tablewright
