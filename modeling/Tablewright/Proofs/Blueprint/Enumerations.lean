import Mathlib.Data.List.Induction
import Tablewright.Proofs.Blueprint.Defaults
import Tablewright.Proofs.Blueprint.Drafts
import Tablewright.Proofs.Blueprint.Modifiers
import Tablewright.Proofs.Literal

/-! # Reading enumerations back

The declaration of an enumeration is read back by its marks alone: a literal is between two of them,
two in a row stand for one, and there is a comma between literals. What is read back is the texts of
the values, each at its first mention. So an enumeration takes a text as a default exactly if the
text is one of those that are read back from its declaration.
-/

namespace Tablewright

/-! ## A reader -/

/-- Where a reader of literals is: in front of one, inside one, or behind a mark inside one. -/
inductive ReadingPhase where
  | opening
  | inside
  | closing

/-- Reads literals with commas between them up to a closing parenthesis, which must be the end:
what is left of the literal that is being read, and those after it. -/
def readLiterals : ReadingPhase → List Char → Option (List Char × List (List Char))
  | _, [] => none
  | .opening, char :: rest =>
    if char = Text.singleMark then readLiterals .inside rest else none
  | .inside, char :: rest =>
    if char = Text.singleMark then readLiterals .closing rest
    else (readLiterals .inside rest).map fun (value, values) => (char :: value, values)
  | .closing, char :: rest =>
    if char = Text.singleMark then
      (readLiterals .inside rest).map fun (value, values) => (Text.singleMark :: value, values)
    else if char = ',' then
      (readLiterals .opening rest).map fun (value, values) => ([], value :: values)
    else if char = ')' ∧ rest = [] then some ([], [])
    else none

/-- Reads the declaration of an enumeration. -/
def readEnum? : List Char → Option (List String)
  | 'E' :: 'N' :: 'U' :: 'M' :: '(' :: rest =>
    (readLiterals .opening rest).map fun (value, values) =>
      (value :: values).map String.ofList
  | _ => none

/-- A literal is read up to its closing mark, and what is behind that decides how it goes on. -/
theorem readLiterals_inside (text rest : List Char) :
    readLiterals .inside (doubleMarks text ++ Text.singleMark :: rest) =
      (readLiterals .closing rest).map fun (value, values) => (text ++ value, values) := by
  induction text with
  | nil =>
    rw [doubleMarks_nil, List.nil_append, readLiterals, if_pos rfl]
    exact Option.map_id'.symm
  | cons char text ih =>
    by_cases mark : char = Text.singleMark
    · subst mark
      rw [doubleMarks_mark, List.cons_append, List.cons_append, readLiterals, if_pos rfl,
        readLiterals, if_pos rfl, ih, Option.map_map]
      rfl
    · rw [doubleMarks_other mark, List.cons_append, readLiterals, if_neg mark, ih, Option.map_map]
      rfl

/-- Literals with commas between them, up to the closing parenthesis. -/
def literals (value : String) : List String → List Char
  | [] => (quoteLiteral value).toList ++ [')']
  | other :: values => (quoteLiteral value).toList ++ ',' :: literals other values

/-- Reading a literal comes to what is behind it. -/
theorem readLiterals_quoteLiteral (value : String) (rest : List Char) :
    readLiterals .opening ((quoteLiteral value).toList ++ rest) =
      (readLiterals .closing rest).map fun (more, values) => (value.toList ++ more, values) := by
  rw [quoteLiteral, String.toList_ofList, List.cons_append, List.cons_append, readLiterals,
    if_pos rfl, List.append_assoc]
  exact readLiterals_inside value.toList rest

theorem readLiterals_literals (value : String) (values : List String) :
    readLiterals .opening (literals value values) =
      some (value.toList, values.map String.toList) := by
  induction values generalizing value with
  | nil =>
    rw [literals, readLiterals_quoteLiteral]
    simp [readLiterals, Text.singleMark]
  | cons other values ih =>
    have next : readLiterals .closing (',' :: literals other values) =
        some ([], other.toList :: values.map String.toList) := by
      rw [readLiterals, if_neg (by decide), if_pos rfl, ih]
      rfl
    rw [literals, readLiterals_quoteLiteral, next]
    simp

/-- The literals of a declaration come with commas between them. -/
theorem literals_eq (value : String) (values : List String) :
    literals value values =
      (",".intercalate ((value :: values).map quoteLiteral)).toList ++ [')'] := by
  induction values generalizing value with
  | nil => rfl
  | cons other values ih =>
    simp only [literals, ih, List.map_cons, String.intercalate_cons_cons, String.toList_append,
      List.append_assoc]
    rfl

/-- Whether the declaration of a type is read back as values. -/
def ColumnType.ReadsBack (type : ColumnType) (values : List String) : Prop :=
  ∃ text, type.sql = .ok text ∧ readEnum? text.toList = some values

/-- The declaration of an enumeration is read back. -/
theorem enum_readsBack {values : List String} (several : values ≠ []) :
    (ColumnType.enum values).ReadsBack values := by
  obtain ⟨value, values, rfl⟩ := List.exists_cons_of_ne_nil several
  refine ⟨_, rfl, ?_⟩
  have written :
      ("ENUM(" ++ ",".intercalate ((value :: values).map quoteLiteral) ++ ")").toList =
        'E' :: 'N' :: 'U' :: 'M' :: '(' :: literals value values := by
    rw [String.toList_append, String.toList_append, literals_eq]
    rfl
  rw [written, readEnum?, readLiterals_literals]
  simp [Function.comp_def]

theorem ColumnType.ReadsBack.unique {type : ColumnType} {values others : List String}
    (reads : type.ReadsBack values) (again : type.ReadsBack others) : values = others := by
  obtain ⟨text, declared, read⟩ := reads
  obtain ⟨_, same, reread⟩ := again
  obtain rfl := Except.ok.inj (declared.symm.trans same)
  exact Option.some.inj (read.symm.trans reread)

/-! ## First mentions -/

/-- Whether texts are those of a list, each once, in the order of their first mentions. -/
structure FirstMentions (texts firsts : List String) : Prop where
  mentioned : ∀ text, text ∈ firsts ↔ text ∈ texts
  inOrder : firsts.Pairwise fun earlier later => texts.idxOf earlier < texts.idxOf later

theorem firstMentions_eraseDups (texts : List String) : FirstMentions texts texts.eraseDups := by
  refine ⟨fun text => List.mem_eraseDups, ?_⟩
  induction texts using List.reverseRecOn with
  | nil => exact List.Pairwise.nil
  | append_singleton texts text ih =>
    have earlier : texts.eraseDups.Pairwise fun first second =>
        (texts ++ [text]).idxOf first < (texts ++ [text]).idxOf second := by
      refine ih.imp_of_mem fun {first second} here there before => ?_
      rw [List.idxOf_append, List.idxOf_append, if_pos (List.mem_eraseDups.mp here),
        if_pos (List.mem_eraseDups.mp there)]
      exact before
    rw [List.eraseDups_append]
    by_cases known : text ∈ texts
    · have nothing : [text].removeAll texts = [] := by simp [List.removeAll, known]
      rw [nothing]
      simpa using earlier
    · have one : ([text].removeAll texts).eraseDups = [text] := by
        simp [List.removeAll, known, List.eraseDups_cons]
      rw [one, List.pairwise_append]
      refine ⟨earlier, List.pairwise_singleton _ _, ?_⟩
      intro first member second last
      obtain rfl := List.mem_singleton.mp last
      rw [List.idxOf_append, List.idxOf_append, if_pos (List.mem_eraseDups.mp member),
        if_neg known]
      have inside := List.idxOf_lt_length_iff.mpr (List.mem_eraseDups.mp member)
      omega

/-! ## Values -/

/-- Values that have texts make an enumeration, which is read back as the first mentions of
these. -/
theorem ofValues_read {values : Value} {elements : List Value} {texts : List String}
    (listed : values.elements = .ok elements) (shown : elements.mapM Value.shown = .ok texts)
    (several : texts ≠ []) :
    ∃ decoded, ColumnType.ofValues values = .ok (.enum decoded) ∧
      (ColumnType.enum decoded).ReadsBack decoded ∧ FirstMentions texts decoded := by
  have firsts := firstMentions_eraseDups texts
  have some : texts.eraseDups ≠ [] := by
    intro none
    obtain ⟨text, member⟩ := List.exists_mem_of_ne_nil texts several
    have first := (firsts.mentioned text).mpr member
    rw [none] at first
    exact absurd first List.not_mem_nil
  refine ⟨_, ?_, enum_readsBack some, firsts⟩
  refine bind_eq_ok.mpr ⟨elements, listed, bind_eq_ok.mpr ⟨texts, shown, ?_⟩⟩
  dsimp only
  rw [if_neg (by simpa using some)]
  rfl

/-- Values have texts if all of them can be written out. -/
theorem mapM_shown_of_isWritten {elements : List Value} (written : elements.all Value.isWritten) :
    elements.mapM Value.shown = .ok (elements.map Value.plainForm) :=
  (Value.mapM_written_eq_ok Value.plainForm).mpr ⟨written, rfl⟩

/-- There is no enumeration with a value that cannot be written out. -/
theorem ofValues_of_tooLong {values : Value} {elements : List Value}
    (listed : values.elements = .ok elements) (tooLong : elements.all Value.isWritten = false) :
    ColumnType.ofValues values = .error .badValue := by
  have shown : GivenIf (elements.all Value.isWritten) (elements.mapM Value.shown) :=
    .mapM fun element _ => element.givenIf_shown
  rw [tooLong] at shown
  rw [ColumnType.ofValues, listed]
  change elements.mapM Value.shown >>= _ = _
  rw [shown.error]
  rfl

namespace Blueprint

variable {blueprint : Blueprint}

/-- What is read like texts is put into words first. -/
theorem mapM_shown {values : List Value} {texts : List String}
    (shown : values.mapM blueprint.shown = .ok texts) :
    ∃ worded, values.mapM blueprint.words = .ok worded ∧ worded.mapM Value.shown = .ok texts := by
  have each := mapM_eq_ok.mp shown
  clear shown
  induction each with
  | nil => exact ⟨[], rfl, rfl⟩
  | cons first rest ih =>
    obtain ⟨word, read, written⟩ := except_bind_eq_ok.mp first
    obtain ⟨worded, reads, writes⟩ := ih
    exact ⟨word :: worded, mapM_eq_ok.mpr (.cons read (mapM_eq_ok.mp reads)),
      mapM_eq_ok.mpr (.cons written (mapM_eq_ok.mp writes))⟩

/-- Values that mention something make their enumeration of what they read like. -/
theorem columnType_read {values : Value} {elements : List Value} {texts : List String}
    (listed : (blueprint.viewed values).elements = .ok elements)
    (shown : elements.mapM blueprint.shown = .ok texts) (several : texts ≠ []) :
    ∃ decoded, blueprint.columnType (.enum values) = .ok (.enum decoded) ∧
      (ColumnType.enum decoded).ReadsBack decoded ∧ FirstMentions texts decoded := by
  obtain ⟨worded, read, written⟩ := mapM_shown shown
  have again : (Value.list worded).elements = .ok worded := rfl
  obtain ⟨decoded, made, decodes⟩ := ofValues_read again written several
  exact ⟨decoded, bind_eq_ok.mpr ⟨elements, listed, bind_eq_ok.mpr ⟨worded, read, made⟩⟩, decodes⟩

/-- Whether a call has defined a column with a text as its default. -/
def HasDefaulted (outcome : CallOutcome) (default : String) : Prop :=
  ∃ ref column, outcome.result = .ok (.ofColumn ref) ∧
    outcome.blueprint.column? ref = some column ∧ column.defaultClause = .value (.text default)

/-- The definition of an enumeration with a default sets the default if it is a value, and is
refused otherwise. -/
theorem callTable_enum {values : Value} {decoded : List String}
    (typed : blueprint.columnType (.enum values) = .ok (.enum decoded)) (name default : String) :
    let outcome := blueprint.callTable (.define (.enum values) (.text name) (.text default))
    (default ∈ decoded → HasDefaulted outcome default) ∧
      (default ∉ decoded →
        ∃ message, outcome.result = .error (.invalidInput message)) := by
  intro outcome
  obtain ⟨defined, ref, made⟩ := blueprint.define_text name (.enum decoded)
  obtain ⟨found, present, type, -⟩ := define_column made
  have goes : outcome =
      defined.attempt (defined.setDefault ref (.text default)) (.column ref) :=
    callDefine_eq typed made (.text default)
  have problems : found.defaultProblems (.text default) =
      if default ∈ decoded then [] else [⟨.text default, decoded⟩] :=
    Column.defaultProblems_of_type type _
  constructor
  · intro known
    rw [if_pos known] at problems
    rw [goes, setDefault_of_taken present problems]
    refine ⟨ref, found.withDefault (.text default), rfl, ?_, rfl⟩
    change (defined.updateColumn ref _).column? ref = _
    rw [column?_updateColumn, present]
    rfl
  · intro unknown
    rw [if_neg unknown] at problems
    obtain ⟨column, here, named⟩ := define_names made
    obtain rfl := Option.some.inj (present.symm.trans here)
    have refused : defined.setDefault ref (.text default) = .error
        (.invalidInput (.defaultNotAllowed name (Value.text default).quotedForm decoded)) := by
      simp only [setDefault, present, problems, refuseDefault, named, shown_text]
      rfl
    rw [goes, refused]
    exact ⟨_, rfl⟩

theorem hasDefaulted_iff {values : Value} {decoded : List String}
    (typed : blueprint.columnType (.enum values) = .ok (.enum decoded)) (name default : String) :
    let outcome := blueprint.callTable (.define (.enum values) (.text name) (.text default))
    (HasDefaulted outcome default ↔ default ∈ decoded) ∧
      (¬ HasDefaulted outcome default →
        ∃ message, outcome.result = .error (.invalidInput message)) := by
  intro outcome
  obtain ⟨known, unknown⟩ := callTable_enum typed name default
  refine ⟨⟨?_, known⟩, fun refused => unknown (mt known refused)⟩
  rintro ⟨ref, column, taken, -⟩
  by_contra missing
  obtain ⟨message, refused⟩ := unknown missing
  cases refused.symm.trans taken

/-- Texts make the same enumeration in every blueprint. -/
theorem columnType_texts (blueprint : Blueprint) (texts : List String) :
    blueprint.columnType (.enum (.list (texts.map .text))) =
      ColumnType.ofValues (.list (texts.map .text)) := by
  have plain : ∀ value ∈ texts.map Value.text, value.MentionsNothing := by
    intro value member
    obtain ⟨text, -, rfl⟩ := List.mem_map.mp member
    exact fun _ => rfl
  have read : (texts.map Value.text).mapM blueprint.words = .ok (texts.map .text) :=
    mapM_words plain
  rw [columnType]
  change ((texts.map Value.text).mapM blueprint.words >>= fun worded =>
    ColumnType.ofValues (.list worded)) = _
  rw [read]
  rfl

/-- A text is taken as the default of an enumeration of texts exactly if it is one of those that are
read back. -/
theorem hasDefaulted_texts_iff (blueprint : Blueprint) (texts : List String)
    (name default : String) :
    let values := Value.list (texts.map .text)
    let outcome := blueprint.callTable (.define (.enum values) (.text name) (.text default))
    (HasDefaulted outcome default ↔
      ∃ type decoded, ColumnType.ofValues values = .ok type ∧
        type.ReadsBack decoded ∧ default ∈ decoded) ∧
      (¬ HasDefaulted outcome default →
        ∃ message, outcome.result = .error (.invalidInput message)) := by
  intro values outcome
  have typed : blueprint.columnType (.enum values) = ColumnType.ofValues values :=
    blueprint.columnType_texts texts
  by_cases none : texts = []
  · subst none
    have refused : outcome.result = .error (.invalidInput .noEnumValues) := rfl
    constructor
    · constructor
      · rintro ⟨ref, column, taken, -⟩
        cases refused.symm.trans taken
      · rintro ⟨type, decoded, made, -⟩
        cases made
    · exact fun _ => ⟨_, refused⟩
  · have listed : values.elements = .ok (texts.map .text) := rfl
    have shown : (texts.map Value.text).mapM Value.shown = .ok texts := by
      simp [mapM_eq_ok]
    obtain ⟨decoded, made, reads, -⟩ := ofValues_read listed shown none
    obtain ⟨taken, refused⟩ := hasDefaulted_iff (typed.trans made) name default
    refine ⟨taken.trans ⟨fun member => ⟨_, decoded, made, reads, member⟩, ?_⟩, refused⟩
    rintro ⟨type, others, same, again, member⟩
    obtain rfl := Except.ok.inj (made.symm.trans same)
    exact reads.unique again ▸ member

/-- The declaration of an enumeration is read back. For every list of values that is not empty,
mentions included, and that have texts: what is read back is the text of every value at its first
mention, in the order of the values, whatever marks, commas and parentheses the texts contain. There
is no enumeration where a value has no text. And for every list of texts, a text is taken as the
default exactly if it is one of those that are read back. -/
theorem enumeration_read (blueprint : Blueprint) :
    (∀ values elements, values.elements = .ok elements → elements ≠ [] →
      if elements.all Value.isWritten then
        ∃ type decoded, ColumnType.ofValues values = .ok type ∧ type.ReadsBack decoded ∧
          FirstMentions (elements.map Value.plainForm) decoded
      else ColumnType.ofValues values = .error .badValue) ∧
      (∀ values elements texts, (blueprint.viewed values).elements = .ok elements →
        elements.mapM blueprint.shown = .ok texts → texts ≠ [] →
        ∃ type decoded, blueprint.columnType (.enum values) = .ok type ∧
          type.ReadsBack decoded ∧ FirstMentions texts decoded) ∧
      ∀ (texts : List String) (name default : String),
        let values := Value.list (texts.map .text)
        let outcome := blueprint.callTable (.define (.enum values) (.text name) (.text default))
        (HasDefaulted outcome default ↔
          ∃ type decoded, ColumnType.ofValues values = .ok type ∧
            type.ReadsBack decoded ∧ default ∈ decoded) ∧
          (¬ HasDefaulted outcome default →
            ∃ message, outcome.result = .error (.invalidInput message)) := by
  refine ⟨?_, ?_, hasDefaulted_texts_iff blueprint⟩
  · intro values elements listed several
    split
    · rename_i written
      have some : elements.map Value.plainForm ≠ [] := by simpa using several
      obtain ⟨decoded, made, reads, firsts⟩ :=
        ofValues_read listed (mapM_shown_of_isWritten written) some
      exact ⟨_, decoded, made, reads, firsts⟩
    · rename_i tooLong
      exact ofValues_of_tooLong listed (by simpa using tooLong)
  · intro values elements texts listed shown several
    obtain ⟨decoded, made, reads, firsts⟩ := columnType_read listed shown several
    exact ⟨_, decoded, made, reads, firsts⟩

/-- Values that consist of marks, commas and parentheses, that are empty, and that come twice. -/
def markedValues : List String :=
  ["it's", "a','b", "", "')", "it's", ",", "'", ""]

theorem markedValues_read :
    let values := Value.list (markedValues.map .text)
    let defined (default : String) := (empty "" "posts").callTable
      (.define (.enum values) (.text "state") (.text default))
    (∃ type, ColumnType.ofValues values = .ok type ∧
      type.sql = .ok "ENUM('it''s','a'',''b','',''')',',','''')" ∧
      type.ReadsBack ["it's", "a','b", "", "')", ",", "'"]) ∧
      HasDefaulted (defined "a','b") "a','b" ∧ ¬ HasDefaulted (defined "b") "b" := by
  intro values defined
  obtain ⟨declared, -, taken⟩ := enumeration_read (empty "" "posts")
  have listed : values.elements = .ok (markedValues.map .text) := rfl
  have several : markedValues.map Value.text ≠ [] := by decide
  have written : (markedValues.map Value.text).all Value.isWritten := by decide
  obtain ⟨type, decoded, made, reads, -⟩ := (if_pos written).mp (declared values _ listed several)
  have same : type = .enum ["it's", "a','b", "", "')", ",", "'"] :=
    Except.ok.inj (made.symm.trans (by decide +kernel))
  subst same
  have back : (ColumnType.enum ["it's", "a','b", "", "')", ",", "'"]).ReadsBack
      ["it's", "a','b", "", "')", ",", "'"] :=
    ⟨_, rfl, by decide +kernel⟩
  refine ⟨⟨_, made, by decide +kernel, back⟩, ?_, ?_⟩
  · exact (taken markedValues "state" "a','b").1.mpr ⟨_, _, made, back, by decide⟩
  · intro given
    obtain ⟨other, others, remade, reread, member⟩ := (taken markedValues "state" "b").1.mp given
    obtain rfl := Except.ok.inj (made.symm.trans remade)
    obtain rfl := back.unique reread
    exact absurd member (by decide)

/-- Values without a text: a number that is too long to be written, and a column that cannot be
rendered because its comment is a number. -/
theorem textlessValues_refused :
    ColumnType.ofValues (.list [.longNumber]) = .error .badValue ∧
      let commented := (empty "" "posts").movedAll
        [.call (.table (.define .date (.text "day") .null)),
          .call (.column (.attached 0) (.comment (.int 5)))]
      commented.columnType (.enum (.list [.ofColumn (.attached 0)])) =
        .error (.noSuchMember "int" "replace") := by
  decide +kernel

end Blueprint

end Tablewright
