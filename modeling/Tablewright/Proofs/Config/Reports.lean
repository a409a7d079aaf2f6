import Tablewright.Proofs.Config.Documents
import Tablewright.Proofs.Success

/-! # What a file is refused for

A file without a configuration is to be refused with a fault of the configuration, and one with
unknown keys by a message that names them all. A path that cannot be one, an unknown key that is no
text, and whatever keeps a loader from a value other than a malformed document, such as bytes that
are no text, give other faults.
-/

namespace Tablewright

/-! ## Characters of joined parts -/

/-- An element that joints do not have is in joined parts exactly if it is in one of them. -/
theorem mem_intercalate_iff {α : Type} {joint : List α} {element : α} (apart : element ∉ joint)
    (parts : List (List α)) :
    element ∈ joint.intercalate parts ↔ ∃ part ∈ parts, element ∈ part := by
  induction parts with
  | nil => simp
  | cons part parts ih =>
    cases parts with
    | nil => simp
    | cons next parts =>
      rw [List.intercalate_cons_cons, List.mem_append, List.mem_append, ih]
      simp [apart]

/-- Every part is found in the joined parts. -/
theorem infix_intercalate_of_mem {joint : String} {texts : List String} {text : String}
    (member : text ∈ texts) : text.toList <:+: (joint.intercalate texts).toList := by
  induction texts with
  | nil => cases member
  | cons first texts ih =>
    cases texts with
    | nil =>
      obtain rfl := List.mem_singleton.mp member
      exact ⟨[], [], by rw [String.intercalate_singleton, List.nil_append, List.append_nil]⟩
    | cons next texts =>
      rw [String.intercalate_cons_cons, String.toList_append]
      rcases List.mem_cons.mp member with rfl | later
      · rw [String.toList_append, List.append_assoc]
        exact (List.prefix_append _ _).isInfix
      · exact (ih later).trans (List.suffix_append _ _).isInfix

/-- A character other than a slash or a dot is in the parts of a path exactly if it is in the
path. -/
theorem mem_pathParts_iff {char : Char} (noSlash : char ≠ '/') (noDot : char ≠ '.')
    (path : String) : (∃ part ∈ pathParts path, char ∈ part.toList) ↔ char ∈ path.toList := by
  have whole := mem_intercalate_iff (mt List.mem_singleton.mp noSlash) (path.toList.splitOn '/')
  rw [List.intercalate_splitOn] at whole
  simp only [pathParts, List.mem_map, List.mem_filter, Bool.and_eq_true, whole]
  constructor
  · rintro ⟨_, ⟨part, ⟨member, -⟩, rfl⟩, found⟩
    exact ⟨part, member, by simpa using found⟩
  · rintro ⟨part, member, found⟩
    have some : part ≠ [] := List.ne_nil_of_mem found
    have other : part ≠ ['.'] := by
      rintro rfl
      exact noDot (List.mem_singleton.mp found)
    exact ⟨String.ofList part, ⟨part, ⟨member, by simpa using some, by simpa using other⟩, rfl⟩,
      by simpa using found⟩

/-- A path and its normal form have the same characters, apart from slashes and dots. -/
theorem mem_normalPath_iff {char : Char} (noSlash : char ≠ '/') (noDot : char ≠ '.')
    (path : String) : char ∈ (normalPath path).toList ↔ char ∈ path.toList := by
  have joined : char ∈ ("/".intercalate (pathParts path)).toList ↔ char ∈ path.toList := by
    rw [String.toList_intercalate, mem_intercalate_iff (by simpa using noSlash),
      ← mem_pathParts_iff noSlash noDot path]
    simp
  have normal (root : String) (bare : char ∉ root.toList) :
      char ∈ (if root ++ "/".intercalate (pathParts path) = "" then "."
        else root ++ "/".intercalate (pathParts path)).toList ↔ char ∈ path.toList := by
    rw [← joined]
    split
    · rename_i empty
      have nothing : "/".intercalate (pathParts path) = "" :=
        (String.append_eq_empty_iff.mp empty).2
      rw [nothing]
      simp [noDot]
    · simp [bare]
  unfold normalPath
  refine normal _ ?_
  split_ifs <;> simp [noSlash]

/-! ## Documents without a value -/

/-- Whether a failure to load is to come up as a fault of the configuration. -/
def LoadFailure.IsReported : LoadFailure → Prop
  | .malformed _ => True
  | .stray fault => ∃ error, fault = .config error

/-- What a loader makes of what stands where a file is: the value of its document, or why there is
none. -/
def FileContent.document? (loader : Loader) : FileContent → Option (Except LoadFailure Value)
  | .bytes content => some (loader content)
  | .missing | .directory => none

namespace Config

/-- A malformed document gives a fault of the configuration, and any other fault stays as it is. -/
theorem documentFault_config_iff {path : String} {failure : LoadFailure} :
    (∃ error, documentFault path failure = .config error) ↔ failure.IsReported := by
  cases failure <;> simp [documentFault, LoadFailure.IsReported]

/-! ## Unknown keys -/

/-- Keys have texts if they all are texts, and otherwise there is one that is none. -/
theorem mapM_keyText?_cases (keys : List Value) :
    (∃ names, keys.mapM keyText? = some names ∧ keys = names.map .text) ∨
      keys.mapM keyText? = none ∧ ∃ key ∈ keys, ∀ name, key ≠ .text name := by
  induction keys with
  | nil => exact .inl ⟨[], rfl, rfl⟩
  | cons key keys ih =>
    rw [List.mapM_cons]
    cases key with
    | text name =>
      obtain ⟨names, listed, rfl⟩ | ⟨unlisted, other, member, notText⟩ := ih
      · exact .inl ⟨name :: names, by rw [listed]; rfl, rfl⟩
      · exact .inr ⟨by rw [unlisted]; rfl, other, List.mem_cons_of_mem _ member, notText⟩
    | _ => exact .inr ⟨rfl, _, List.mem_cons_self .., fun _ => Value.noConfusion⟩

/-- Whether all unknown keys of a mapping are texts. -/
def UnknownAreTexts (entries : List (Value × Value)) : Prop :=
  ∀ key ∈ unknownKeys entries, ∃ name, key = .text name

/-- Unknown keys that are texts are all listed, in order, and others give a mismatch. -/
theorem ofDocument_of_unknown {entries : List (Value × Value)}
    (unknown : unknownKeys entries ≠ []) (path : String) :
    (UnknownAreTexts entries ∧ ∃ names : List String,
        ofDocument path (.map entries) = .error (.config (.unknownKeys path names)) ∧
        (names.map Value.text).Perm (unknownKeys entries) ∧
        names.Pairwise fun left right => ¬ right < left) ∨
      ¬ UnknownAreTexts entries ∧
        ∃ mismatch, ofDocument path (.map entries) = .error (.wrongType mismatch) := by
  have some : entries ≠ [] := by
    rintro rfl
    exact unknown rfl
  have truthy : ¬ (!(Value.map entries).isTruthy) = true := by simpa [Value.isTruthy] using some
  have unsettled : ¬ (unknownKeys entries).isEmpty = true := by simpa using unknown
  unfold ofDocument
  rw [if_neg truthy]
  dsimp only
  rw [if_neg unsettled]
  obtain ⟨names, listed, same⟩ | ⟨unlisted, key, member, notText⟩ :=
    mapM_keyText?_cases (unknownKeys entries)
  · rw [listed]
    refine .inl ⟨fun key member => ?_, _, rfl, ?_, ?_⟩
    · rw [same] at member
      obtain ⟨name, -, rfl⟩ := List.mem_map.mp member
      exact ⟨name, rfl⟩
    · rw [same]
      exact (List.mergeSort_perm _ _).map _
    · have inOrder {left right : String} : (!decide (right < left)) = true ↔ ¬ right < left := by
        rw [Bool.not_eq_true', decide_eq_false_iff_not]
      refine (List.pairwise_mergeSort ?_ ?_ names).imp inOrder.mp
      · intro first second third ascending further
        exact inOrder.mpr (String.le_trans (inOrder.mp ascending) (inOrder.mp further))
      · intro first second
        rw [Bool.or_eq_true, inOrder, inOrder]
        exact String.le_total first second
  · rw [unlisted]
    refine .inr ⟨fun texts => ?_, _, rfl⟩
    obtain ⟨name, rfl⟩ := texts key member
    exact notText name rfl

/-- A document that is no mapping with unknown keys is taken, or it is refused with a fault of the
configuration. -/
theorem ofDocument_of_known {document : Value}
    (known : ∀ entries, document = .map entries → unknownKeys entries = []) {path : String}
    {fault : Fault} (failed : ofDocument path document = .error fault) :
    ∃ error, fault = .config error := by
  unfold ofDocument at failed
  split at failed
  · cases failed
  · split at failed
    · rw [if_pos (List.isEmpty_iff.mpr (known _ rfl))] at failed
      cases failed
    · exact ⟨_, (Except.error.inj failed).symm⟩

/-- How a file is to be refused: with faults of the configuration only, and if its document is a
mapping with unknown keys, then by a message that names every one of them. -/
structure Reports (loader : Loader) (content : FileContent) (outcome : Except Fault Config) :
    Prop where
  only : ∀ fault, outcome = .error fault → ∃ error, fault = .config error
  names : ∀ entries, content.document? loader = some (.ok (.map entries)) →
    unknownKeys entries ≠ [] → ∃ error, outcome = .error (.config error) ∧
      ∀ key ∈ unknownKeys entries, ∃ text, key.shown = .ok text ∧
        text.toList <:+: error.message.toList

section Files

variable {loader : Loader}

/-- A document is refused as it should be exactly if all unknown keys of a mapping are texts. -/
theorem ofDocument_reports_iff {content : FileContent} {document : Value}
    (loaded : content.document? loader = some (.ok document)) (path : String) :
    Reports loader content (ofDocument path document) ↔
      ∀ entries, document = .map entries → UnknownAreTexts entries := by
  have only (entries : List (Value × Value)) :
      content.document? loader = some (.ok (.map entries)) ↔ document = .map entries := by
    simp [loaded]
  by_cases mapped : ∃ entries, document = .map entries ∧ unknownKeys entries ≠ []
  · obtain ⟨entries, rfl, unknown⟩ := mapped
    obtain ⟨texts, names, refused, listed, -⟩ | ⟨others, mismatch, refused⟩ :=
      ofDocument_of_unknown unknown path
    · rw [refused]
      refine iff_of_true ⟨?_, ?_⟩ ?_
      · rintro _ ⟨⟩
        exact ⟨_, rfl⟩
      · intro found mapping _
        obtain rfl := Value.map.inj ((only found).mp mapping)
        refine ⟨_, rfl, fun key member => ?_⟩
        obtain ⟨name, present, rfl⟩ := List.mem_map.mp (listed.mem_iff.mpr member)
        refine ⟨name, Value.shown_text name, ?_⟩
        change name.toList <:+: (_ ++ ", ".intercalate names).toList
        rw [String.toList_append]
        exact (infix_intercalate_of_mem present).trans (List.suffix_append _ _).isInfix
      · rintro _ ⟨⟩
        exact texts
    · rw [refused]
      refine iff_of_false (fun reports => ?_) fun texts => others (texts entries rfl)
      obtain ⟨error, ⟨⟩⟩ := reports.only _ rfl
  · have known (entries : List (Value × Value)) (mapping : document = .map entries) :
        unknownKeys entries = [] := by
      by_contra unknown
      exact mapped ⟨entries, mapping, unknown⟩
    refine iff_of_true ⟨fun fault failed => ofDocument_of_known known failed, ?_⟩ ?_
    · intro entries mapping unknown
      exact absurd (known entries ((only entries).mp mapping)) unknown
    · intro entries mapping key member
      rw [known entries mapping] at member
      cases member

theorem load_of_failure {path : String} {content : List UInt8} {failure : LoadFailure}
    (named : (normalPath path).contains '\x00' = false)
    (failed : loader content = .error failure) :
    load loader path (.bytes content) = .error (documentFault (normalPath path) failure) := by
  simp [load, named, failed]

/-- A file whose document has no value is refused as it should be exactly if the loader's failure
is to come up as a fault of the configuration. -/
theorem load_failure_reports_iff {path : String} {content : List UInt8} {failure : LoadFailure}
    (named : (normalPath path).contains '\x00' = false)
    (failed : loader content = .error failure) :
    Reports loader (.bytes content) (load loader path (.bytes content)) ↔ failure.IsReported := by
  have document : FileContent.document? loader (.bytes content) = some (.error failure) :=
    congrArg some failed
  rw [load_of_failure named failed]
  constructor
  · intro reports
    exact documentFault_config_iff.mp (reports.only _ rfl)
  · intro reported
    refine ⟨?_, fun entries mapping => ?_⟩
    · rintro _ ⟨⟩
      exact documentFault_config_iff.mpr reported
    · rw [document] at mapping
      cases mapping

end Files

/-- A file is refused as it should be exactly if the path has no null character, the loader fails
only with what is to come up as a fault of the configuration, and all unknown keys of a mapping are
texts. -/
theorem load_reports_iff (loader : Loader) (path : String) (content : FileContent) :
    Reports loader content (load loader path content) ↔
      '\x00' ∉ path.toList ∧
        (∀ failure, content.document? loader = some (.error failure) → failure.IsReported) ∧
        ∀ entries, content.document? loader = some (.ok (.map entries)) →
          UnknownAreTexts entries := by
  by_cases named : '\x00' ∈ path.toList
  · have contained : (normalPath path).contains '\x00' = true := by
      simpa [mem_normalPath_iff] using named
    have refused : load loader path content = .error .badValue := by simp [load, contained]
    rw [refused]
    refine iff_of_false (fun reports => ?_) fun holds => holds.1 named
    obtain ⟨error, ⟨⟩⟩ := reports.only _ rfl
  · have absent : (normalPath path).contains '\x00' = false := by
      simpa [mem_normalPath_iff] using named
    rw [and_iff_right named]
    cases content with
    | missing | directory =>
      simp only [load, absent, Bool.false_eq_true, if_false]
      refine iff_of_true ⟨?_, by rintro _ ⟨⟩⟩ ⟨by rintro _ ⟨⟩, by rintro _ ⟨⟩⟩
      rintro _ ⟨⟩
      exact ⟨_, rfl⟩
    | bytes content =>
      cases loaded : loader content with
      | error failure =>
        have document : FileContent.document? loader (.bytes content) = some (.error failure) :=
          congrArg some loaded
        rw [load_failure_reports_iff absent loaded, document]
        simp
      | ok document =>
        have document? : FileContent.document? loader (.bytes content) = some (.ok document) :=
          congrArg some loaded
        rw [load_eq_ofDocument absent loaded, ofDocument_reports_iff document?, document?]
        simp

/-- A file with a number for its only key. -/
def numberedKeyFile : List UInt8 :=
  "1: a".toList.map fun char => char.toNat.toUInt8

/-- A file with an impossible date. -/
def impossibleDateFile : List UInt8 :=
  "prefix: 2023-02-30".toList.map fun char => char.toNat.toUInt8

theorem numberedKeyFile_unreported :
    Yaml.loader numberedKeyFile = .ok (.map [(.int 1, .text "a")]) ∧
      load Yaml.loader filePath (.bytes numberedKeyFile) =
        .error (.wrongType (.notText 0 "int")) ∧
      load Yaml.loader filePath (.bytes impossibleDateFile) = .error .badValue ∧
      load Yaml.loader filePath (.bytes [0xff]) = .error .undecodable ∧
      ¬ Reports Yaml.loader (.bytes numberedKeyFile)
          (load Yaml.loader filePath (.bytes numberedKeyFile)) := by
  have loaded : Yaml.loader numberedKeyFile = .ok (.map [(.int 1, .text "a")]) := by
    decide +kernel
  have refused : load Yaml.loader filePath (.bytes numberedKeyFile) =
      .error (.wrongType (.notText 0 "int")) := by
    rw [load_eq_ofDocument filePath_named loaded]
    decide +kernel
  have noDate : Yaml.loader impossibleDateFile = .error (.stray .badValue) := by decide +kernel
  have noText : Yaml.loader [0xff] = .error (.stray .undecodable) := by decide +kernel
  refine ⟨loaded, refused, ?_, ?_, ?_⟩
  · rw [load_of_failure filePath_named noDate, documentFault]
  · rw [load_of_failure filePath_named noText, documentFault]
  rw [refused]
  rintro ⟨only, -⟩
  obtain ⟨error, ⟨⟩⟩ := only _ rfl

end Config

end Tablewright
