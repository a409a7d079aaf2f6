import Mathlib.Data.List.Basic
import Tablewright.Yaml.Loader

/-! # Documents and configurations

A document of a configuration is null or a mapping from names of settings. Everything else is
refused, except for what counts as false: an empty list, an empty text, zero and a false truth value
pass for null, and the configuration is the standard one. This holds for every loader that never
puts two entries with one key into a mapping.
-/

namespace Tablewright

/-- Whether no text is the key of two entries. -/
def KeysDiffer (entries : List (Value × Value)) : Prop :=
  entries.Pairwise fun one other => ∀ name, one.1 = .text name → other.1 ≠ .text name

/-! ## Settings that are changed -/

namespace Config

variable {name : String} {value : Value}

theorem get?_set (config : Config) (member : name ∈ settingNames) (value : Value) :
    (config.set name value).get? name = some value := by
  simp only [settingNames, List.mem_cons, List.not_mem_nil, or_false] at member
  rcases member with rfl | rfl | rfl | rfl | rfl | rfl | rfl <;> rfl

theorem get?_set_of_ne (config : Config) {changed : String} (other : changed ≠ name)
    (value : Value) : (config.set changed value).get? name = config.get? name := by
  unfold set
  split
  case h_8 => rfl
  all_goals
    unfold get?
    split <;> first | rfl | exact absurd rfl other

theorem setAll_cons (config : Config) (setting : String × Value)
    (settings : List (String × Value)) :
    config.setAll (setting :: settings) = (config.set setting.1 setting.2).setAll settings := rfl

/-- A setting that is not among those changed stays as it is. -/
theorem get?_setAll_of_absent {settings : List (String × Value)}
    (absent : ∀ setting ∈ settings, setting.1 ≠ name) (config : Config) :
    (config.setAll settings).get? name = config.get? name := by
  induction settings generalizing config with
  | nil => rfl
  | cons setting settings ih =>
    obtain ⟨other, others⟩ := List.forall_mem_cons.mp absent
    rw [setAll_cons, ih others, get?_set_of_ne _ other]

/-- Of settings with different names each one is changed to its value. -/
theorem get?_setAll_of_mem {settings : List (String × Value)} (member : (name, value) ∈ settings)
    (differ : settings.Pairwise fun one other => other.1 ≠ one.1) (known : name ∈ settingNames)
    (config : Config) : (config.setAll settings).get? name = some value := by
  induction settings generalizing config with
  | nil => cases member
  | cons setting settings ih =>
    obtain ⟨apart, rest⟩ := List.pairwise_cons.mp differ
    rw [setAll_cons]
    rcases List.mem_cons.mp member with rfl | later
    · rw [get?_setAll_of_absent apart, get?_set _ known]
    · exact ih later rest _

/-! ## Documents that are taken -/

theorem settingName?_eq_some {key : Value} :
    settingName? key = some name ↔ key = .text name ∧ name ∈ settingNames := by
  cases key with
  | text content =>
    simp only [settingName?, List.contains_iff_mem, Option.ite_none_right_eq_some,
      Option.some.injEq, Value.text.injEq]
    constructor
    · rintro ⟨known, rfl⟩
      exact ⟨rfl, known⟩
    · rintro ⟨rfl, known⟩
      exact ⟨known, rfl⟩
  | _ => simp [settingName?]

theorem mem_settings {entries : List (Value × Value)} :
    (name, value) ∈ settings entries ↔ (.text name, value) ∈ entries ∧ name ∈ settingNames := by
  simp only [settings, List.mem_filterMap, Option.map_eq_some_iff, Prod.mk.injEq,
    settingName?_eq_some]
  constructor
  · rintro ⟨⟨key, _⟩, member, _, ⟨rfl, known⟩, rfl, rfl⟩
    exact ⟨member, known⟩
  · rintro ⟨member, known⟩
    exact ⟨_, member, name, ⟨rfl, known⟩, rfl, rfl⟩

/-- The names of the settings of a mapping differ like its keys. -/
theorem settings_differ {entries : List (Value × Value)} (differ : KeysDiffer entries) :
    (settings entries).Pairwise fun one other => other.1 ≠ one.1 := by
  refine List.pairwise_filterMap.mpr (differ.imp fun {one other} apart => ?_)
  rintro first shown second shown' same
  obtain ⟨name, found, rfl⟩ := Option.map_eq_some_iff.mp shown
  obtain ⟨name', found', rfl⟩ := Option.map_eq_some_iff.mp shown'
  obtain rfl : name' = name := same
  exact apart _ (settingName?_eq_some.mp found).1 (settingName?_eq_some.mp found').1

/-- Whether all keys are names of settings. -/
def AllKnown (entries : List (Value × Value)) : Prop :=
  ∀ entry ∈ entries, ∃ name ∈ settingNames, entry.1 = .text name

theorem unknownKeys_isEmpty {entries : List (Value × Value)} :
    (unknownKeys entries).isEmpty = true ↔ AllKnown entries := by
  simp only [unknownKeys, List.isEmpty_iff, List.filter_eq_nil_iff, List.forall_mem_map,
    Option.isNone_iff_eq_none, ← Option.isSome_iff_ne_none, Option.isSome_iff_exists,
    settingName?_eq_some, ← ne_eq]
  refine forall₂_congr fun entry _ => exists_congr fun name => and_comm

theorem ofDocument_of_falsy {document : Value} (falsy : document.isTruthy = false)
    (path : String) : ofDocument path document = .ok standard := by
  simp [ofDocument, falsy]

theorem ofDocument_of_allKnown {entries : List (Value × Value)} (known : AllKnown entries)
    (path : String) :
    ofDocument path (.map entries) = .ok (standard.setAll (settings entries)) := by
  cases entries with
  | nil => rfl
  | cons entry entries =>
    unfold ofDocument
    rw [if_neg (by simp [Value.isTruthy])]
    dsimp only
    rw [if_pos (unknownKeys_isEmpty.mpr known)]

theorem allKnown_of_ofDocument {entries : List (Value × Value)} {path : String} {config : Config}
    (taken : ofDocument path (.map entries) = .ok config) : AllKnown entries := by
  unfold ofDocument at taken
  split at taken
  · rename_i falsy
    obtain rfl : entries = [] := by simpa [Value.isTruthy] using falsy
    simp [AllKnown]
  · dsimp only at taken
    split at taken
    · rename_i known
      exact unknownKeys_isEmpty.mp known
    · split at taken
      · cases taken
      · cases taken

/-- Whether a document describes a configuration: it is null or a mapping from names of settings. -/
def Describes (document : Value) : Prop :=
  document = .null ∨ ∃ entries, document = .map entries ∧ AllKnown entries

/-- How a document is to be loaded: there is a configuration exactly if the document describes one,
with the document's value for each setting in it and the standard value for every other one. -/
structure Follows (document : Value) (outcome : Except Fault Config) : Prop where
  accepted : (∃ config, outcome = .ok config) ↔ Describes document
  present : ∀ config entries, outcome = .ok config → document = .map entries →
    ∀ name value, (.text name, value) ∈ entries → config.get? name = some value
  absent : ∀ config name, outcome = .ok config →
    (∀ entries, document = .map entries → ∀ entry ∈ entries, entry.1 ≠ .text name) →
    config.get? name = standard.get? name

theorem follows_null (path : String) : Follows .null (ofDocument path .null) where
  accepted := iff_of_true ⟨standard, rfl⟩ (.inl rfl)
  present := by rintro _ _ _ ⟨⟩
  absent := by
    rintro _ name ⟨⟩ _
    rfl

theorem follows_map {entries : List (Value × Value)} (differ : KeysDiffer entries)
    (path : String) : Follows (.map entries) (ofDocument path (.map entries)) where
  accepted := by
    constructor
    · rintro ⟨config, taken⟩
      exact .inr ⟨entries, rfl, allKnown_of_ofDocument taken⟩
    · rintro (empty | ⟨_, ⟨⟩, known⟩)
      · cases empty
      · exact ⟨_, ofDocument_of_allKnown known path⟩
  present := by
    rintro config _ taken ⟨⟩ name value member
    have known := allKnown_of_ofDocument taken
    rw [ofDocument_of_allKnown known] at taken
    obtain rfl := Except.ok.inj taken
    obtain ⟨_, named, same⟩ := known _ member
    obtain rfl := Value.text.inj same
    exact get?_setAll_of_mem (mem_settings.mpr ⟨member, named⟩) (settings_differ differ) named _
  absent := by
    intro config name taken missing
    have known := allKnown_of_ofDocument taken
    rw [ofDocument_of_allKnown known] at taken
    obtain rfl := Except.ok.inj taken
    refine get?_setAll_of_absent ?_ _
    rintro ⟨_, value⟩ member rfl
    exact missing entries rfl _ (mem_settings.mp member).1 rfl

/-- What is neither a mapping nor false is refused, and it describes nothing. -/
theorem follows_of_truthy {document : Value} (truthy : document.isTruthy = true)
    (other : ∀ entries, document ≠ .map entries) (path : String) :
    Follows document (ofDocument path document) := by
  have refused : ofDocument path document = .error (.config (.notMapping path)) := by
    unfold ofDocument
    rw [if_neg (by simp [truthy])]
    split
    · exact absurd rfl (other _)
    · rfl
  rw [refused]
  refine ⟨iff_of_false ?_ ?_, ?_, ?_⟩
  · rintro ⟨_, ⟨⟩⟩
  · rintro (rfl | ⟨entries, rfl, -⟩)
    · cases truthy
    · exact other entries rfl
  · rintro _ _ ⟨⟩
  · rintro _ _ ⟨⟩

/-- A document is loaded as it should be unless it counts as false and is neither null nor an empty
mapping. -/
theorem ofDocument_follows_iff {document : Value}
    (differ : ∀ entries, document = .map entries → KeysDiffer entries) (path : String) :
    Follows document (ofDocument path document) ↔
      document.isTruthy = true ∨ document = .null ∨ document = .map [] := by
  constructor
  · intro follows
    by_cases truthy : document.isTruthy = true
    · exact .inl truthy
    · have falsy : document.isTruthy = false := by simpa using truthy
      have described := follows.accepted.mp ⟨standard, ofDocument_of_falsy falsy path⟩
      obtain rfl | ⟨entries, rfl, -⟩ := described
      · exact .inr (.inl rfl)
      · obtain rfl : entries = [] := by simpa [Value.isTruthy] using falsy
        exact .inr (.inr rfl)
  · rintro (truthy | rfl | rfl)
    · by_cases mapping : ∃ entries, document = .map entries
      · obtain ⟨entries, rfl⟩ := mapping
        exact follows_map (differ entries rfl) path
      · exact follows_of_truthy truthy (by simpa using mapping) path
    · exact follows_null path
    · exact follows_map List.Pairwise.nil path

section Files

variable {loader : Loader} {path : String} {content : List UInt8} {document : Value}

theorem load_eq_ofDocument (named : (normalPath path).contains '\x00' = false)
    (loaded : loader content = .ok document) :
    load loader path (.bytes content) = ofDocument (normalPath path) document := by
  simp [load, named, loaded]

/-- A file with a document is loaded as it should be, whatever the document is, unless the document
counts as false and is neither null nor an empty mapping. -/
theorem load_follows_iff (named : (normalPath path).contains '\x00' = false)
    (loaded : loader content = .ok document)
    (differ : ∀ entries, document = .map entries → KeysDiffer entries) :
    Follows document (load loader path (.bytes content)) ↔
      document.isTruthy = true ∨ document = .null ∨ document = .map [] := by
  rw [load_eq_ofDocument named loaded]
  exact ofDocument_follows_iff differ _

end Files

/-- The path of a file. -/
def filePath : String := "roadschema.yaml"

theorem filePath_named : (normalPath filePath).contains '\x00' = false := by
  have normal : normalPath filePath = "roadschema.yaml" := by decide +kernel
  rw [normal]
  simp

/-- A file with a prefix and a word for yes. -/
def prefixedFile : List UInt8 :=
  "prefix: wp_\necho: yes\n".toList.map fun char => char.toNat.toUInt8

theorem prefixedFile_followed :
    Follows (.map [(.text "prefix", .text "wp_"), (.text "echo", .bool true)])
        (load Yaml.loader filePath (.bytes prefixedFile)) ∧
      load Yaml.loader filePath (.bytes prefixedFile) =
        .ok { standard with tablePrefix := .text "wp_", echo := .bool true } := by
  have loaded : Yaml.loader prefixedFile =
      .ok (.map [(.text "prefix", .text "wp_"), (.text "echo", .bool true)]) := by
    decide +kernel
  have differ : ∀ entries,
      Value.map [(.text "prefix", .text "wp_"), (.text "echo", .bool true)] = .map entries →
        KeysDiffer entries := by
    rintro _ ⟨⟩
    simp [KeysDiffer]
  refine ⟨(load_follows_iff filePath_named loaded differ).mpr (.inl rfl), ?_⟩
  rw [load_eq_ofDocument filePath_named loaded]
  decide +kernel

/-- A file with an empty list. -/
def emptyListFile : List UInt8 :=
  "[]".toList.map fun char => char.toNat.toUInt8

theorem emptyListFile_taken :
    Yaml.loader emptyListFile = .ok (.list []) ∧
      load Yaml.loader filePath (.bytes emptyListFile) = .ok standard ∧
      ¬ Follows (.list []) (load Yaml.loader filePath (.bytes emptyListFile)) := by
  have loaded : Yaml.loader emptyListFile = .ok (.list []) := by decide +kernel
  have taken : load Yaml.loader filePath (.bytes emptyListFile) = .ok standard := by
    rw [load_eq_ofDocument filePath_named loaded]
    exact ofDocument_of_falsy rfl _
  refine ⟨loaded, taken, fun follows => ?_⟩
  obtain null | ⟨entries, mapping, -⟩ := follows.accepted.mp ⟨standard, taken⟩
  · cases null
  · cases mapping

end Config

end Tablewright
