import Tablewright.Proofs.Connection.Toolkit

/-! # What comes of a connection

A toolkit parses the text for a URL, the backend is looked at, and the toolkit makes an engine. A
text that does not match the pattern of URLs, and a backend that statements are not written for, are
reported as faults of the configuration. What the toolkit finds out on the way or later, about the
number of the port and the driver, is passed on as it comes up.
-/

namespace Tablewright

namespace Connection

variable {Url Engine : Type} {toolkit : Toolkit Url Engine} {grammar : UrlGrammar}

/-! ## Texts -/

/-- Whether the names in front are a backend, or a backend and a driver that is known for it. -/
def NamesDriver (grammar : UrlGrammar) (parts : UrlParts) : Prop :=
  parts.names = [parts.backend] ∨
    ∃ driver, parts.names = [parts.backend, driver] ∧ grammar.Knows parts.backend driver

/-- Whether a text is malformed as a URL: it does not match the pattern, or it does and its port is
bad or what stands in the name behind the backend is not one driver that is known. -/
def IsMalformed (grammar : UrlGrammar) (text : String) : Prop :=
  grammar.parts? text = none ∨
    ∃ parts, grammar.parts? text = some parts ∧ (parts.HasBadPort ∨ ¬ NamesDriver grammar parts)

/-- Whether a text names a backend that statements are not written for. -/
def NamesOther (grammar : UrlGrammar) (text : String) : Prop :=
  ∃ parts, grammar.parts? text = some parts ∧ parts.backend ∉ supportedBackends

/-! ## Outcomes -/

/-- Whether a connection has an engine that was made for a text, as a URL of a backend that
statements are written for. -/
def IsOpened (toolkit : Toolkit Url Engine) (echo : Value) (text : String)
    (connection : Connection Engine) : Prop :=
  ∃ url, toolkit.parse (.text text) = .ok url ∧ toolkit.backend url ∈ supportedBackends ∧
    toolkit.build url echo = .ok connection.engine

/-- Whether an outcome is one of the two that are provided for: a connection to a backend that
statements are written for, or a fault of the configuration, which a text has to give that is
malformed or names another backend. -/
structure Settles (toolkit : Toolkit Url Engine) (grammar : UrlGrammar) (echo : Value)
    (text : String) (outcome : Except Fault (Connection Engine)) : Prop where
  ends : (∃ connection, outcome = .ok connection ∧ IsOpened toolkit echo text connection) ∨
    ∃ error, outcome = .error (.config error)
  refuses : IsMalformed grammar text ∨ NamesOther grammar text →
    ∃ error, outcome = .error (.config error)

theorem settles_of_config {echo : Value} {text : String} {error : ConfigError} :
    Settles toolkit grammar echo text (.error (.config error)) :=
  ⟨.inr ⟨error, rfl⟩, fun _ => ⟨error, rfl⟩⟩

/-- No other fault is provided for. -/
theorem not_settles_of_fault {echo : Value} {text : String} {fault : Fault}
    (other : ∀ error, fault ≠ .config error) :
    ¬ Settles toolkit grammar echo text (.error fault) := by
  rintro ⟨⟨connection, ⟨⟩, -⟩ | ⟨error, failed⟩, -⟩
  exact other error (Except.error.inj failed)

variable (config : Config) {text : String} {parts : UrlParts} {url : Url}

theorem ofConfig_refused {reason : String}
    (refused : toolkit.parse (.text text) = .error (.refused reason)) :
    ∃ error, ofConfig toolkit { config with url := .text text } = .error (.config error) := by
  have quoted : (Value.text text).quoted = .ok (Value.text text).quotedForm :=
    Value.quoted_eq_ok.mpr ⟨by simp [Value.isWritten], rfl⟩
  refine ⟨.refusedUrl (Value.text text).quotedForm reason, ?_⟩
  simp only [ofConfig, parseUrl, refused, quoted]
  rfl

theorem ofConfig_stray {fault : Fault}
    (failed : toolkit.parse (.text text) = .error (.stray fault)) :
    ofConfig toolkit { config with url := .text text } = .error fault := by
  simp only [ofConfig, parseUrl, failed]
  rfl

theorem ofConfig_unsupported (parsed : toolkit.parse (.text text) = .ok url)
    (unsupported : toolkit.backend url ∉ supportedBackends) :
    ofConfig toolkit { config with url := .text text } =
      .error (.config (.unsupportedBackend (toolkit.backend url) supportedBackends)) := by
  have refused : (!supportedBackends.contains (toolkit.backend url)) = true := by
    simpa using unsupported
  simp only [ofConfig, parseUrl, parsed]
  exact if_pos refused

/-- In a supported backend, what comes of a URL is what comes of making an engine for it. -/
theorem ofConfig_supported (parsed : toolkit.parse (.text text) = .ok url)
    (supported : toolkit.backend url ∈ supportedBackends) :
    ofConfig toolkit { config with url := .text text } =
      (toolkit.build url config.echo).map fun engine =>
        ⟨engine, .connected (toolkit.urlText engine)⟩ := by
  have taken : ¬ (!supportedBackends.contains (toolkit.backend url)) = true := by
    simpa using supported
  simp only [ofConfig, parseUrl, parsed]
  refine (if_neg taken).trans ?_
  cases toolkit.build url config.echo <;> rfl

/-! ## Texts that are opened -/

/-- An engine is made for a supported backend only if it is named alone or with a driver that is
known. -/
theorem namesDriver_of_build (documented : toolkit.Documented grammar)
    (found : grammar.parts? text = some parts) (parsed : toolkit.parse (.text text) = .ok url)
    (supported : parts.backend ∈ supportedBackends) {echo : Value} {engine : Engine}
    (made : toolkit.build url echo = .ok engine) : NamesDriver grammar parts := by
  have first : parts.backend = parts.names.headD "" := rfl
  rcases named : parts.names with - | ⟨backend, - | ⟨driver, - | ⟨next, others⟩⟩⟩
  · rw [named] at first
    rw [first] at supported
    exact absurd supported (by decide)
  · rw [named] at first
    exact .inl (by rw [named, first, List.headD_cons])
  · rw [named] at first
    have names : parts.names = [parts.backend, driver] := by rw [named, first, List.headD_cons]
    by_contra missing
    have unknown : ¬ grammar.Knows parts.backend driver := fun known =>
      missing (.inr ⟨driver, names, known⟩)
    have failed := documented.unknown text parts url driver echo found parsed supported names
      unknown
    cases made.symm.trans failed
  · exact absurd made (documented.tangled text parts url echo engine found parsed
      (by simp [named]))

/-- What comes of a URL of a supported backend is provided for exactly if an engine is made. -/
theorem settles_supported_iff (documented : toolkit.Documented grammar)
    (found : grammar.parts? text = some parts) (good : ¬ parts.HasBadPort)
    (parsed : toolkit.parse (.text text) = .ok url) (backend : toolkit.backend url = parts.backend)
    (supported : parts.backend ∈ supportedBackends) :
    Settles toolkit grammar config.echo text (ofConfig toolkit { config with url := .text text }) ↔
      ∃ engine, toolkit.build url config.echo = .ok engine := by
  rw [ofConfig_supported config parsed (backend ▸ supported)]
  cases built : toolkit.build url config.echo with
  | error fault =>
    have other (error : ConfigError) : fault ≠ .config error := by
      rintro rfl
      exact documented.foreign url config.echo error built
    exact iff_of_false (not_settles_of_fault other) (by simp)
  | ok engine =>
    refine iff_of_true ⟨.inl ⟨_, rfl, url, parsed, backend ▸ supported, built⟩, ?_⟩ ⟨engine, rfl⟩
    have driver := namesDriver_of_build documented found parsed supported built
    rintro ((unmatched | ⟨_, found', flaw⟩) | ⟨_, found', unsupported⟩)
    · cases found.symm.trans unmatched
    · obtain rfl := Option.some.inj (found.symm.trans found')
      exact (flaw.elim good fun missing => missing driver).elim
    · obtain rfl := Option.some.inj (found.symm.trans found')
      exact absurd supported unsupported

/-- What comes of a text is provided for exactly if it does not match the pattern, or its port is
not bad and it names another backend, or an engine is made for it. A bad port and a driver that is
not known come up as faults of other kinds. -/
theorem settles_iff (documented : toolkit.Documented grammar) (text : String) :
    let outcome := ofConfig toolkit { config with url := .text text }
    (Settles toolkit grammar config.echo text outcome ↔
        grammar.parts? text = none ∨
          ∃ parts, grammar.parts? text = some parts ∧ ¬ parts.HasBadPort ∧
            (parts.backend ∉ supportedBackends ∨
              ∃ url engine, toolkit.parse (.text text) = .ok url ∧
                toolkit.build url config.echo = .ok engine)) ∧
      ∀ parts, grammar.parts? text = some parts →
        (parts.HasBadPort → outcome = .error .badValue) ∧
          ∀ driver, ¬ parts.HasBadPort → parts.backend ∈ supportedBackends →
            parts.names = [parts.backend, driver] → ¬ grammar.Knows parts.backend driver →
            outcome = .error .noSuchDriver := by
  intro outcome
  cases found : grammar.parts? text with
  | none =>
    obtain ⟨reason, refused⟩ := documented.refuses text found
    obtain ⟨error, failed⟩ := ofConfig_refused config refused
    have failed : outcome = .error (.config error) := failed
    rw [failed]
    exact ⟨iff_of_true settles_of_config (.inl rfl), nofun⟩
  | some parts =>
    simp only [reduceCtorEq, false_or, Option.some.injEq, exists_eq_left', forall_eq']
    by_cases bad : parts.HasBadPort
    · have failed : outcome = .error .badValue :=
        ofConfig_stray config (documented.converts text parts found bad)
      rw [failed]
      refine ⟨iff_of_false (not_settles_of_fault nofun) fun holds => holds.1 bad, fun _ => rfl, ?_⟩
      exact fun driver good => absurd bad good
    · obtain ⟨url, parsed, backend⟩ := documented.parses text parts found bad
      by_cases supported : parts.backend ∈ supportedBackends
      · refine ⟨?_, fun h => absurd h bad, fun driver _ _ named unknown => ?_⟩
        · rw [settles_supported_iff config documented found bad parsed backend supported]
          simp [bad, supported, parsed]
        · have made : outcome = _ := ofConfig_supported config parsed (backend ▸ supported)
          rw [made, documented.unknown text parts url driver config.echo found parsed supported
            named unknown]
          rfl
      · have failed : outcome = _ :=
          ofConfig_unsupported config parsed (backend ▸ supported)
        rw [failed]
        refine ⟨iff_of_true settles_of_config ⟨bad, .inl supported⟩, fun h => absurd h bad, ?_⟩
        exact fun driver _ taken => absurd taken supported

/-- A URL of a supported backend and the driver that is there. -/
def standardUrl : String := "mysql+pymysql://root@localhost:3306/roadschema"

/-- A URL whose port is no number. -/
def spelledPort : String := "mysql+pymysql://localhost:abc/db"

/-- A URL with a driver that nobody knows. -/
def unknownDriver : String := "mysql+nosuch://localhost/db"

/-- The URL of a supported backend and the driver that is there is settled, and a driver that nobody
knows comes up as one. -/
theorem standardUrl_settled :
    Settles DriverEngine.toolkit DatabaseUrl.grammar (.bool false) standardUrl
        (ofConfig DriverEngine.toolkit { Config.standard with url := .text standardUrl }) ∧
      ofConfig DriverEngine.toolkit { Config.standard with url := .text unknownDriver } =
        .error .noSuchDriver := by
  have standard : DatabaseUrl.grammar.parts? standardUrl =
      some ⟨["mysql", "pymysql"], some "3306"⟩ := by decide +kernel
  have whole : ¬ UrlParts.HasBadPort ⟨["mysql", "pymysql"], some "3306"⟩ := by
    rintro ⟨_, ⟨⟩, bad⟩
    exact absurd bad (by decide +kernel)
  have unknown : DatabaseUrl.grammar.parts? unknownDriver = some ⟨["mysql", "nosuch"], none⟩ := by
    decide +kernel
  let url : DatabaseUrl := ⟨"mysql+pymysql", some "root", none, some "localhost", some 3306,
    some "roadschema", []⟩
  have parsed : DriverEngine.toolkit.parse (.text standardUrl) = .ok url := by decide +kernel
  have made : DriverEngine.toolkit.build url (.bool false) = .ok ⟨"pymysql", url⟩ := by
    decide +kernel
  constructor
  · refine (settles_iff Config.standard DriverEngine.toolkit_documented standardUrl).1.mpr ?_
    exact .inr ⟨_, standard, whole, .inr ⟨_, _, parsed, made⟩⟩
  · refine ((settles_iff Config.standard DriverEngine.toolkit_documented unknownDriver).2 _
      unknown).2 "nosuch" ?_ (by decide) rfl ?_
    · rintro ⟨_, ⟨⟩, -⟩
    · simp only [DatabaseUrl.grammar]
      decide

theorem spelledPort_unsettled :
    ofConfig DriverEngine.toolkit { Config.standard with url := .text spelledPort } =
        .error .badValue ∧
      ofConfig DriverEngine.toolkit { Config.standard with url := .text unknownDriver } =
        .error .noSuchDriver ∧
      ¬ Settles DriverEngine.toolkit DatabaseUrl.grammar (.bool false) spelledPort
          (ofConfig DriverEngine.toolkit { Config.standard with url := .text spelledPort }) := by
  have failed : ofConfig DriverEngine.toolkit
      { Config.standard with url := .text spelledPort } = .error .badValue := by
    decide +kernel
  refine ⟨failed, by decide +kernel, ?_⟩
  rw [failed]
  exact not_settles_of_fault nofun

end Connection

end Tablewright
