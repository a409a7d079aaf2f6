import Mathlib.Data.List.TakeWhile
import Tablewright.Connection.Driver
import Tablewright.Proofs.Success

/-! # What a toolkit is documented to do

The toolkit that parses URLs and makes engines is not part of the project. What connections rely on
is written down here for any toolkit: how it answers a text that does not match its pattern, a text
for the number of the port, and a driver that it does not know. The toolkit that is used where
nothing else is there keeps to it.
-/

namespace Tablewright

/-- What is found in a text that matches the pattern of URLs, as far as opening depends on it: the
names in front between plus signs, a backend and perhaps a driver, and the text for the number of
the port. -/
structure UrlParts where
  names : List String
  portText : Option String
deriving DecidableEq

/-- The backend that is named. -/
def UrlParts.backend (parts : UrlParts) : String :=
  parts.names.headD ""

/-- Whether the text for the number of the port is not a whole number. -/
def UrlParts.HasBadPort (parts : UrlParts) : Prop :=
  ∃ text ∈ parts.portText, readInteger? text.toList = none

/-- The pattern of URLs and the drivers that are known. -/
structure UrlGrammar where
  /-- What is found in a text, if it matches the pattern. -/
  parts? : String → Option UrlParts
  /-- Whether something is found by the name of a driver in a backend. -/
  Knows (backend driver : String) : Prop

/-- Whether a toolkit keeps to what is documented of it for a grammar. -/
structure Toolkit.Documented {Url Engine : Type} (toolkit : Toolkit Url Engine)
    (grammar : UrlGrammar) : Prop where
  /-- A text that does not match the pattern is refused. -/
  refuses : ∀ text, grammar.parts? text = none →
    ∃ reason, toolkit.parse (.text text) = .error (.refused reason)
  /-- The text for the number of the port is converted to a whole number. -/
  converts : ∀ text parts, grammar.parts? text = some parts → parts.HasBadPort →
    toolkit.parse (.text text) = .error (.stray .badValue)
  /-- Every other text is parsed, and the backend is the first of its names. -/
  parses : ∀ text parts, grammar.parts? text = some parts → ¬ parts.HasBadPort →
    ∃ url, toolkit.parse (.text text) = .ok url ∧ toolkit.backend url = parts.backend
  /-- In a supported backend there is nothing to load for a driver that is not known. -/
  unknown : ∀ text parts url driver echo, grammar.parts? text = some parts →
    toolkit.parse (.text text) = .ok url → parts.backend ∈ supportedBackends →
    parts.names = [parts.backend, driver] → ¬ grammar.Knows parts.backend driver →
    toolkit.build url echo = .error .noSuchDriver
  /-- No engine is made for a backend with two names behind it. -/
  tangled : ∀ text parts url echo engine, grammar.parts? text = some parts →
    toolkit.parse (.text text) = .ok url → 2 < parts.names.length →
    toolkit.build url echo ≠ .ok engine
  /-- The faults of the configuration are not the toolkit's to give. -/
  foreign : ∀ url echo error, toolkit.build url echo ≠ .error (.config error)

/-! ## URLs that are read -/

namespace DatabaseUrl

/-- What stands for the number of the port in what follows the name and the slashes. -/
def portChars? (rest : List Char) : Option (List Char) :=
  (splitPart ':' (fun char => char == '/' || char == '?') (splitHost (splitUser rest).2).2).1

/-- The names between plus signs. -/
def namesOf (scheme : List Char) : List String :=
  (scheme.splitOn '+').map String.ofList

/-- The pattern by which database URLs are read, and what is found in their backends. -/
def grammar : UrlGrammar where
  parts? text := (splitScheme? text.toList).map fun (scheme, rest) =>
    ⟨namesOf scheme, (portChars? rest).map String.ofList⟩
  Knows backend driver := driver ∈ knownDrivers ∨ isNoDriver backend driver = true

variable {text : String} {parts : UrlParts}

theorem hasBadPort_iff {names : List String} {digits? : Option (List Char)} :
    UrlParts.HasBadPort ⟨names, digits?.map String.ofList⟩ ↔
      ∃ digits ∈ digits?, readInteger? digits = none := by
  simp [UrlParts.HasBadPort]

/-- A text is read as its parts say, unless the number of its port is bad. -/
theorem read_of_parts (found : grammar.parts? text = some parts) :
    (parts.HasBadPort ∧ read text = .error .badPortNumber) ∨
      (¬ parts.HasBadPort ∧ ∃ url, read text = .ok url ∧ url.schemeParts = parts.names) := by
  obtain ⟨⟨scheme, rest⟩, split, rfl⟩ := Option.map_eq_some_iff.mp found
  rw [hasBadPort_iff]
  unfold portChars?
  simp only [read, split, Option.elim_some, Bind.bind, Except.bind]
  generalize (splitPart ':' (fun char => char == '/' || char == '?')
    (splitHost (splitUser rest).2).2).1 = digits?
  have same (url : DatabaseUrl) (named : url.scheme = String.ofList scheme) :
      url.schemeParts = namesOf scheme := by
    rw [schemeParts, named, String.toList_ofList, namesOf]
  cases digits? with
  | none => exact .inr ⟨by simp, _, rfl, same _ rfl⟩
  | some digits =>
    dsimp only
    cases number : readInteger? digits with
    | none => exact .inl ⟨⟨digits, rfl, number⟩, rfl⟩
    | some value => exact .inr ⟨by simp [number], _, rfl, same _ rfl⟩

theorem read_of_unmatched (unmatched : grammar.parts? text = none) :
    read text = .error .noScheme := by
  have unsplit : splitScheme? text.toList = none := Option.map_eq_none_iff.mp unmatched
  rw [read, unsplit]
  rfl

/-- A text that is parsed has the names that are found in it. -/
theorem schemeParts_of_parse {url : DatabaseUrl} (found : grammar.parts? text = some parts)
    (parsed : parse (.text text) = .ok url) : url.schemeParts = parts.names := by
  obtain ⟨-, unread⟩ | ⟨-, other, done, names⟩ := read_of_parts found
  · rw [parse, unread] at parsed
    cases parsed
  · rw [parse, done] at parsed
    cases parsed
    exact names

/-! ## Drivers that are looked for -/

theorem findDriver_of_unknown {url : DatabaseUrl} {driver : String}
    (named : url.schemeParts = [url.backend, driver])
    (unknown : ¬ grammar.Knows url.backend driver) : findDriver url = .error .noSuchDriver := by
  obtain ⟨absent, nothing⟩ := not_or.mp unknown
  have other : driver ≠ installedDriver := by
    rintro rfl
    exact absent (by decide)
  unfold findDriver
  rw [named]
  dsimp only
  rw [if_neg other, if_neg (by simpa using absent), if_neg nothing]

theorem findDriver_of_tangled {url : DatabaseUrl} (tangled : 2 < url.schemeParts.length) :
    findDriver url = .error .badValue := by
  unfold findDriver
  split
  · rename_i alone
    simp [alone] at tangled
  · rename_i named
    simp [named] at tangled
  · rfl

theorem findDriver_not_config (url : DatabaseUrl) (error : ConfigError) :
    findDriver url ≠ .error (.config error) := by
  unfold findDriver
  split
  · simp
  · split_ifs <;> simp
  · simp

theorem SettingKind.check_not_config (kind : SettingKind) (values : List String)
    (error : ConfigError) : kind.check values ≠ .error (.config error) := by
  rcases values with - | ⟨value, - | ⟨next, values⟩⟩
  · cases kind <;> simp [check]
  · cases kind <;> simp only [check] <;> split_ifs <;> simp
  · cases kind <;> simp [check]

theorem checkSettings_not_config (url : DatabaseUrl) (error : ConfigError) :
    checkSettings url ≠ .error (.config error) := by
  intro failed
  obtain ⟨setting, -, refused⟩ := exists_of_forM_eq_error failed
  exact setting.2.check_not_config _ error refused

end DatabaseUrl

namespace DriverEngine

open DatabaseUrl

/-- An engine is made if no plugin is named, the driver is found and the settings are checked. -/
theorem build_eq (url : DatabaseUrl) :
    build url =
      if url.settings.any fun setting => setting.1 == "plugin" then .error .noSuchDriver
      else (findDriver url).bind fun driver => (checkSettings url).bind fun _ =>
        .ok ⟨driver,
          { url with settings := url.settings.filter fun setting => setting.1 != "plugins" }⟩ := by
  unfold build
  split <;> rfl

theorem build_of_unfound {url : DatabaseUrl} {fault : Fault}
    (unfound : findDriver url = .error fault) :
    build url = .error .noSuchDriver ∨ build url = .error fault := by
  rw [build_eq, unfound]
  split
  · exact .inl rfl
  · exact .inr rfl

theorem build_not_config (url : DatabaseUrl) (error : ConfigError) :
    build url ≠ .error (.config error) := by
  rw [build_eq]
  split
  · simp
  · cases found : findDriver url with
    | error fault =>
      rintro ⟨⟩
      exact findDriver_not_config url error found
    | ok driver =>
      cases checked : checkSettings url with
      | error fault =>
        rintro ⟨⟩
        exact checkSettings_not_config url error checked
      | ok _ => simp [Except.bind]

/-- The toolkit that is used where nothing else is there keeps to what is documented. -/
theorem toolkit_documented : toolkit.Documented grammar where
  refuses text unmatched := by
    refine ⟨"Could not parse SQLAlchemy URL from given URL string", ?_⟩
    change DatabaseUrl.parse (.text text) = _
    rw [DatabaseUrl.parse, read_of_unmatched unmatched]
  converts text parts found bad := by
    change DatabaseUrl.parse (.text text) = _
    obtain ⟨-, unread⟩ | ⟨good, -⟩ := read_of_parts found
    · rw [DatabaseUrl.parse, unread]
    · exact absurd bad good
  parses text parts found good := by
    obtain ⟨bad, -⟩ | ⟨-, url, done, names⟩ := read_of_parts found
    · exact absurd bad good
    · refine ⟨url, ?_, congrArg (List.headD · "") names⟩
      change DatabaseUrl.parse (.text text) = _
      rw [DatabaseUrl.parse, done]
  unknown text parts url driver echo found parsed supported named unknown := by
    have names := schemeParts_of_parse found parsed
    have backend : url.backend = parts.backend := congrArg (List.headD · "") names
    have unfound := findDriver_of_unknown (names.trans (backend ▸ named)) (backend ▸ unknown)
    exact or_self_iff.mp (build_of_unfound unfound)
  tangled text parts url echo engine found parsed many := by
    have names := schemeParts_of_parse found parsed
    intro made
    rcases build_of_unfound (findDriver_of_tangled (names ▸ many)) with failed | failed
    · cases made.symm.trans failed
    · cases made.symm.trans failed
  foreign url echo := build_not_config url

end DriverEngine

end Tablewright
