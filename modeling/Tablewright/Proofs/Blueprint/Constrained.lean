import Tablewright.Proofs.Blueprint.Drafts
import Tablewright.Proofs.Blueprint.Wording

/-! # More constraints

A constraint has its text from the start. So what can be put into words and written out in a
blueprint still can when there are constraints behind its specs, although it may read differently
then: the specs are one of the lists to mention, and their number is part of how the blueprint
reads. The same goes for whether a foreign key becomes a constraint itself.
-/

namespace Tablewright

/-- Whether a result is no fault if another one is none. -/
def SucceedsWith {α β : Type} (first : Except Fault α) (second : Except Fault β) : Prop :=
  (∃ value, first = .ok value) → ∃ value, second = .ok value

namespace SucceedsWith

variable {α β γ δ : Type}

theorem refl (result : Except Fault α) : SucceedsWith result result :=
  id

theorem bind {first : Except Fault α} {second : Except Fault β} {next : α → Except Fault γ}
    {further : β → Except Fault δ} (steps : SucceedsWith first second)
    (each : ∀ value other, first = .ok value → second = .ok other →
      SucceedsWith (next value) (further other)) :
    SucceedsWith (first >>= next) (second >>= further) := by
  rintro ⟨result, given⟩
  obtain ⟨value, here, then'⟩ := bind_eq_ok.mp given
  obtain ⟨other, there⟩ := steps ⟨value, here⟩
  obtain ⟨last, found⟩ := each value other here there ⟨result, then'⟩
  exact ⟨last, bind_eq_ok.mpr ⟨other, there, found⟩⟩

theorem pure (value : α) (other : β) :
    SucceedsWith (.ok value : Except Fault α) (.ok other : Except Fault β) :=
  fun _ => ⟨other, rfl⟩

end SucceedsWith

/-- Elements are written out one by one. -/
theorem Value.areWritten_eq_all (values : List Value) :
    Value.areWritten values = values.all Value.isWritten := by
  induction values with
  | nil => rfl
  | cons value values ih => rw [areWritten, List.all_cons, ih]

/-- The values of a list are put into words one by one. -/
theorem Value.fillAll_eq_mapM (words : Mention → Except Fault Value) (values : List Value) :
    Value.fillAll words values = values.mapM (Value.fill words) := by
  induction values with
  | nil => rfl
  | cons value values ih =>
    rw [List.mapM_cons, ← ih]
    rfl

/-- A list has a text exactly if each of its elements has one. -/
theorem Value.exists_shown_fill_list_iff {words : Mention → Except Fault Value}
    {values : List Value} :
    (∃ text, ((Value.list values).fill words).bind Value.shown = .ok text) ↔
      ∀ value ∈ values, ∃ text, (value.fill words).bind Value.shown = .ok text := by
  simp only [exists_shown_iff]
  rw [fill, fillAll_eq_mapM]
  constructor
  · rintro ⟨read, given, written⟩
    obtain ⟨reads, found, rfl⟩ := map_eq_ok.mp given
    rw [isWritten, areWritten_eq_all, List.all_eq_true] at written
    intro value member
    obtain ⟨other, among, read⟩ := exists_of_mem_mapM found member
    exact ⟨other, read, written other among⟩
  · intro each
    obtain ⟨reads, found, written⟩ := mapM_ok_of_forall each
    refine ⟨.list reads, map_eq_ok.mpr ⟨reads, found, rfl⟩, ?_⟩
    rw [isWritten, areWritten_eq_all, List.all_eq_true]
    exact written

mutual

theorem Value.shown_fill_succeeds {words further : Mention → Except Fault Value}
    (each : ∀ something, SucceedsWith ((words something).bind Value.shown)
      ((further something).bind Value.shown)) :
    (value : Value) → SucceedsWith ((value.fill words).bind Value.shown)
      ((value.fill further).bind Value.shown)
  | .mention something => each something
  | .list values => by
    rw [SucceedsWith, exists_shown_fill_list_iff, exists_shown_fill_list_iff]
    exact fun all value member => shown_fillAll_succeeds each values value member (all value member)
  | .null | .bool _ | .int _ | .float _ | .decimal _ | .text _ | .bytes _ | .date _ | .dateTime _
  | .map _ | .action _ => .refl _

theorem Value.shown_fillAll_succeeds {words further : Mention → Except Fault Value}
    (each : ∀ something, SucceedsWith ((words something).bind Value.shown)
      ((further something).bind Value.shown)) :
    (values : List Value) → ∀ value ∈ values,
      SucceedsWith ((value.fill words).bind Value.shown) ((value.fill further).bind Value.shown)
  | [] => by simp
  | value :: values =>
    List.forall_mem_cons.mpr ⟨shown_fill_succeeds each value, shown_fillAll_succeeds each values⟩

end

namespace Blueprint

variable {blueprint other : Blueprint}

/-! ## Specs -/

/-- The blueprint with constraints behind its specs. -/
def withConstraints (blueprint : Blueprint) (texts : List String) : Blueprint :=
  { blueprint with specs := blueprint.specs ++ texts.map Spec.constraint }

section Constraints

variable (texts : List String)

theorem specs_withConstraints {index : Nat} {spec : Spec}
    (found : blueprint.specs[index]? = some spec) :
    (blueprint.withConstraints texts).specs[index]? = some spec := by
  have within := (List.getElem?_eq_some_iff.mp found).1
  rw [withConstraints, List.getElem?_append_left within]
  exact found

/-- Where there was no spec, there is at most a constraint now. -/
theorem ask_withConstraints {α : Type} (answer : Option Spec → α)
    (same : ∀ text, answer (some (.constraint text)) = answer none) (index : Nat) :
    answer (blueprint.withConstraints texts).specs[index]? = answer blueprint.specs[index]? := by
  cases found : blueprint.specs[index]? with
  | some spec => rw [specs_withConstraints texts found]
  | none =>
    rw [withConstraints, List.getElem?_append_right (List.getElem?_eq_none_iff.mp found),
      List.getElem?_map]
    cases texts[index - blueprint.specs.length]? with
    | none => rfl
    | some text => exact same text

theorem column?_withConstraints (ref : ColumnRef) :
    (blueprint.withConstraints texts).column? ref = blueprint.column? ref := by
  cases ref with
  | attached index => exact ask_withConstraints texts (·.bind Spec.column?) (fun _ => rfl) index
  | detached index => rfl

theorem keyColumnName_withConstraints (key : ForeignKey) :
    (blueprint.withConstraints texts).keyColumnName key = blueprint.keyColumnName key := by
  have specName (index : Nat) :
      ((blueprint.withConstraints texts).specs[index]?.map Spec.columnName).getD .null =
        (blueprint.specs[index]?.map Spec.columnName).getD .null :=
    ask_withConstraints texts (fun found => (found.map Spec.columnName).getD .null)
      (fun _ => rfl) index
  unfold keyColumnName
  split
  case h_2 ref _ =>
    rw [columnName, column?_withConstraints]
    rfl
  case h_3 index _ => rw [specName]
  all_goals rfl

/-- The specs are one list, now longer by the constraints; the other lists are as they were. -/
theorem listed?_withConstraints {something : Mention} {values : List Value}
    (listed : blueprint.listed? something = some values) :
    ∃ more, (blueprint.withConstraints texts).listed? something = some (values ++ more) ∧
      ∀ value ∈ more, ∃ index text, value = .ofTarget (.spec index) ∧
        (blueprint.withConstraints texts).specs[index]? = some (.constraint text) := by
  cases something with
  | specs =>
    obtain rfl := Option.some.inj listed
    let behind := (texts.map Spec.constraint).zipIdx blueprint.specs.length
    refine ⟨behind.map fun placed => .ofTarget (specTarget placed.2 placed.1), ?_, ?_⟩
    · simp only [listed?, specValues, withConstraints, List.zipIdx_append, List.map_append,
        Nat.zero_add, behind]
    · intro value member
      obtain ⟨⟨spec, index⟩, placed, rfl⟩ := List.mem_map.mp member
      obtain ⟨late, found⟩ := List.mk_mem_zipIdx_iff_le_and_getElem?_sub.mp placed
      obtain ⟨text, -, rfl⟩ := List.mem_map.mp (List.mem_of_getElem? found)
      refine ⟨index, text, rfl, ?_⟩
      rw [withConstraints, List.getElem?_append_right late]
      exact found
  | keys | list =>
    obtain rfl := Option.some.inj listed
    exact ⟨[], congrArg some (List.append_nil _).symm, by simp⟩
  | target | kind | type | wording => cases listed

theorem unlisted_withConstraints {something : Mention}
    (unlisted : blueprint.listed? something = none) :
    (blueprint.withConstraints texts).listed? something = none := by
  cases something with
  | specs | keys | list => cases unlisted
  | target | kind | type | wording => rfl

section Reading

variable {words further : Value → Except Fault Value}
variable (each : ∀ value, SucceedsWith ((words value).bind Value.shown)
  ((further value).bind Value.shown))
include each

theorem columnSqlBy_succeeds (column : Column) :
    SucceedsWith (blueprint.columnSqlBy words column)
      ((blueprint.withConstraints texts).columnSqlBy further column) := by
  rw [SucceedsWith, exists_columnSqlBy_iff, exists_columnSqlBy_iff]
  rintro ⟨name, default, rest⟩
  exact ⟨each column.name name, fun value given => each value (default value given), rest⟩

theorem quotedSpecBy_succeeds (spec : Spec) :
    SucceedsWith (blueprint.quotedSpecBy words spec)
      ((blueprint.withConstraints texts).quotedSpecBy further spec) := by
  unfold quotedSpecBy
  split
  · exact .refl _
  cases spec with
  | plain spec =>
    refine (SucceedsWith.refl _).bind fun fragment other here there => ?_
    obtain rfl := Except.ok.inj (here.symm.trans there)
    by_cases empty : fragment = ""
    · simp only [if_pos empty]
      exact (each spec.column).bind fun _ _ _ _ => .pure _ _
    · simp only [if_neg empty]
      exact .refl _
  | column column =>
    refine (columnSqlBy_succeeds texts each column).bind fun fragment other here _ => ?_
    have shown := ((blueprint.exists_columnSqlBy_iff words column).mp ⟨fragment, here⟩).1
    obtain ⟨name, named⟩ := each column.name shown
    rintro -
    by_cases empty : other = ""
    · simp only [if_pos empty, Spec.columnName, named]
      exact ⟨_, rfl⟩
    · simp only [if_neg empty]
      exact ⟨_, rfl⟩

theorem quotedTargetBy_succeeds (target : Target) :
    SucceedsWith (blueprint.quotedTargetBy words target)
      ((blueprint.withConstraints texts).quotedTargetBy further target) := by
  cases target with
  | blueprint => exact .pure _ _
  | column ref =>
    simp only [quotedTargetBy, column?_withConstraints]
    split
    · exact quotedSpecBy_succeeds texts each _
    · exact .refl _
  | spec index =>
    simp only [quotedTargetBy]
    cases found : blueprint.specs[index]? with
    | some spec =>
      rw [specs_withConstraints texts found]
      exact quotedSpecBy_succeeds texts each spec
    | none => simp [SucceedsWith]
  | key index =>
    simp only [quotedTargetBy, withConstraints]
    split
    · rename_i key _
      unfold quotedKeyBy
      rw [show ({ blueprint with specs := _ } : Blueprint).keyColumnName key =
        blueprint.keyColumnName key from keyColumnName_withConstraints texts key]
      refine (SucceedsWith.refl _).bind fun name other here there => ?_
      obtain rfl := Except.ok.inj (here.symm.trans there)
      exact (each _).bind fun _ _ _ _ => (each _).bind fun _ _ _ _ => .pure _ _
    · exact .refl _

theorem mentionBy_succeeds (something : Mention) :
    SucceedsWith ((blueprint.mentionBy words something).bind Value.shown)
      (((blueprint.withConstraints texts).mentionBy further something).bind Value.shown) := by
  cases something with
  | target target =>
    refine SucceedsWith.bind ?_ fun value other _ there => ?_
    · exact (quotedTargetBy_succeeds texts each target).bind fun _ _ _ _ => .pure _ _
    · obtain ⟨text, -, same⟩ := bind_eq_ok.mp there
      obtain rfl := Except.ok.inj same
      exact fun _ => ⟨text, Value.shown_of_isWritten rfl⟩
  | _ => exact .refl _

end Reading

/-- A constraint that is mentioned reads at once. -/
theorem wordsWithin_constraint {index : Nat} {text : String}
    (found : other.specs[index]? = some (.constraint text)) (depth : Nat) (around : List Mention) :
    ∃ read,
      (other.wordsWithin (depth + 1) around (.ofTarget (.spec index))).bind Value.shown =
        .ok read := by
  have blank : other.wordsWithin depth around .null = .ok .null := wordsWithin_eq depth around _
  have quoted : ∃ quoted, other.quotedSpecBy (other.wordsWithin depth around) (.constraint text) =
      .ok quoted := by
    simp only [quotedSpecBy, Spec.constraint, Spec.kind, specSqlBy, Spec.columnName, blank]
    by_cases empty : text = ""
    · exact ⟨_, by rw [bind_eq_ok]; exact ⟨text, rfl, by rw [if_pos empty]; rfl⟩⟩
    · exact ⟨_, by rw [bind_eq_ok]; exact ⟨text, rfl, by rw [if_neg empty]; rfl⟩⟩
  obtain ⟨quoted, given⟩ := quoted
  refine ⟨quoted, ?_⟩
  rw [Value.ofTarget, wordsWithin_unlisted rfl, mentionBy, quotedTargetBy, found]
  simp only [given]
  rfl

/-- What can be read can still be read with the constraints. Going through them takes one level. -/
theorem wordsWithin_succeeds (depth : Nat) (around : List Mention) (value : Value) :
    SucceedsWith ((blueprint.wordsWithin depth around value).bind Value.shown)
      (((blueprint.withConstraints texts).wordsWithin (depth + 1) around value).bind
        Value.shown) := by
  induction depth generalizing around value with
  | zero =>
    rw [wordsWithin_eq, wordsWithin_eq 1]
    exact Value.shown_fill_succeeds (fun _ => by rintro ⟨_, ⟨⟩⟩) value
  | succ depth ih =>
    rw [wordsWithin_eq, wordsWithin_eq (depth + 2)]
    refine Value.shown_fill_succeeds (fun something => ?_) value
    cases listed : blueprint.listed? something with
    | none =>
      rw [wordsWithin_unlisted listed,
        wordsWithin_unlisted (unlisted_withConstraints texts listed)]
      exact mentionBy_succeeds texts (ih around) something
    | some values =>
      obtain ⟨more, there, constraints⟩ := listed?_withConstraints texts listed
      rw [wordsWithin_listed listed, wordsWithin_listed there]
      split
      · exact .refl _
      intro read
      have each := ih (something :: around) (.list values) read
      rw [wordsWithin_eq, Value.exists_shown_fill_list_iff] at each ⊢
      refine List.forall_mem_append.mpr ⟨each, fun value member => ?_⟩
      obtain ⟨index, text, rfl, found⟩ := constraints value member
      exact wordsWithin_constraint found depth _

theorem shown_succeeds (value : Value) :
    SucceedsWith (blueprint.shown value) ((blueprint.withConstraints texts).shown value) := by
  let depth := max blueprint.mentionDepth (blueprint.withConstraints texts).mentionDepth
  rw [shown, shown, ← wordsWithin_eq_words (Nat.le_max_left ..) value,
    ← wordsWithin_eq_words (Nat.le_succ_of_le (Nat.le_max_right ..)) value]
  exact wordsWithin_succeeds texts depth [] value

/-! ## Keys -/

theorem keyColumnText_succeeds (key : ForeignKey) :
    SucceedsWith (blueprint.keyColumnText key)
      ((blueprint.withConstraints texts).keyColumnText key) := by
  rw [keyColumnText, keyColumnText, keyColumnName_withConstraints]
  refine (SucceedsWith.refl _).bind fun name other here there => ?_
  obtain rfl := Except.ok.inj (here.symm.trans there)
  exact shown_succeeds texts name

/-- A key becomes a constraint exactly if its column and the one that it refers to have texts. -/
theorem exists_keySql_iff {key : ForeignKey} :
    (∃ text, blueprint.keySql key = .ok text) ↔
      (∃ column, blueprint.keyColumnText key = .ok column) ∧
        ∃ referenced, blueprint.shown key.referencedColumn = .ok referenced := by
  simp only [keySql, constraintName, bind_eq_ok]
  constructor
  · rintro ⟨_, _, _, column, named, referenced, shown, -⟩
    exact ⟨⟨column, named⟩, referenced, shown⟩
  · rintro ⟨⟨column, named⟩, referenced, shown⟩
    exact ⟨_, _, ⟨column, named, rfl⟩, column, named, referenced, shown, rfl⟩

theorem keySql_succeeds (key : ForeignKey) :
    SucceedsWith (blueprint.keySql key) ((blueprint.withConstraints texts).keySql key) := by
  intro given
  obtain ⟨column, referenced⟩ := exists_keySql_iff.mp given
  exact exists_keySql_iff.mpr
    ⟨keyColumnText_succeeds texts key column, shown_succeeds texts _ referenced⟩

/-- A key that counts as complete still does. One that did not may only refer to the specs, of
which there were none, and these can be put into words. -/
theorem isComplete_withConstraints (blueprint : Blueprint) (key : ForeignKey) :
    (blueprint.withConstraints texts).isComplete key = blueprint.isComplete key ∨
      ((blueprint.withConstraints texts).isComplete key = true ∧
        ∃ read, blueprint.shown key.referencedColumn = .ok read) := by
  by_cases all : key.referencedColumn = .mention .specs
  · have listed (other : Blueprint) :
        other.isTruthy (.mention .specs) = !other.specs.isEmpty := by
      change (!other.specValues.isEmpty) = _
      rw [specValues, List.isEmpty_map]
      cases other.specs <;> rfl
    simp only [isComplete, all, listed]
    cases there : blueprint.specs with
    | nil =>
      have read : blueprint.shown (.mention .specs) = .ok "[]" := by
        rw [shown, ← wordsWithin_eq_words (Nat.le_add_right _ 2), wordsWithin_listed rfl,
          specValues, there]
        rfl
      cases table : key.referencedTable.getD "" != "" with
      | false => exact .inl (by simp)
      | true =>
        cases texts with
        | nil => exact .inl (by simp [withConstraints, there])
        | cons text texts => exact .inr ⟨by simp [withConstraints], _, read⟩
    | cons spec specs => exact .inl (by simp [withConstraints, there])
  · have viewed : (blueprint.withConstraints texts).viewed key.referencedColumn =
        blueprint.viewed key.referencedColumn := by
      cases referenced : key.referencedColumn with
      | mention something =>
        cases something with
        | specs => exact absurd referenced all
        | _ => rfl
      | _ => rfl
    refine .inl ?_
    rw [isComplete, isComplete, isTruthy, isTruthy, viewed]

end Constraints

end Blueprint

end Tablewright
