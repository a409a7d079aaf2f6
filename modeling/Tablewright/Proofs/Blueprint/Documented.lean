import Tablewright.Proofs.Blueprint.Modifiers

/-! # Documented columns

A column with a type comes about in one of two ways. A call defines it, or a change of it is
announced by its name and gets its type later, from the next definition of that name. Calls on the
column may come before and after that. As long as the arguments of these calls are of their
documented types, so is what the column holds: its name and its comment are texts, whether null is
allowed is a truth value, and its position is first or after a name. Whatever else happens to the
blueprint does not matter.
-/

namespace Tablewright

/-- Where a column stands among the others of its table. -/
inductive Position where
  | first
  | after (name : String)

/-- The words of a position. -/
def Position.words : Position → List String
  | .first => ["FIRST"]
  | .after name => ["AFTER", quoteName name]

namespace Column

/-- Whether what a column holds is of the documented types, its type and its default apart. -/
structure IsDocumented (column : Column) : Prop where
  name : ∃ name, column.name = .text name
  definition : column.definition = .null
  nullability : column.nullability = .null ∨ ∃ allowed, column.nullability = .bool allowed
  comment : ∃ comment, column.comment = .ofText? comment
  position : ∃ position : Option Position,
    column.position = position.map fun position => " ".intercalate position.words

theorem bare_isDocumented (name : String) (kind : SpecKind) :
    (bare (.text name) kind).IsDocumented :=
  ⟨⟨name, rfl⟩, rfl, .inl rfl, ⟨none, rfl⟩, ⟨none, rfl⟩⟩

theorem typed_isDocumented (name : String) (type : ColumnType) :
    (typed (.text name) type).IsDocumented :=
  ⟨⟨name, rfl⟩, rfl, .inr ⟨false, rfl⟩, ⟨none, rfl⟩, ⟨none, rfl⟩⟩

variable {column : Column}

theorem IsDocumented.withType (documented : column.IsDocumented) (type : ColumnType) :
    (column.withType type).IsDocumented := by
  refine ⟨documented.name, documented.definition, .inr ?_, documented.comment,
    documented.position⟩
  obtain null | ⟨allowed, given⟩ := documented.nullability
  · exact ⟨false, by rw [Column.withType, if_pos null]⟩
  · exact ⟨allowed, by rw [Column.withType, if_neg (by simp [given]), given]⟩

/-- A documented call leaves a column documented. -/
theorem IsDocumented.edit (documented : column.IsDocumented) {call : ColumnCall}
    (also : call.isDocumented) : (call.edit column).IsDocumented := by
  obtain ⟨name, definition, nullability, comment, position⟩ := documented
  cases call with
  | nullable value =>
    cases value with
    | bool allowed => exact ⟨name, definition, .inr ⟨allowed, rfl⟩, comment, position⟩
    | _ => cases also
  | comment text =>
    cases text with
    | text text => exact ⟨name, definition, nullability, ⟨some text, rfl⟩, position⟩
    | _ => cases also
  | after other =>
    cases other with
    | text other => exact ⟨name, definition, nullability, comment, ⟨some (.after other), rfl⟩⟩
    | _ => cases also
  | first => exact ⟨name, definition, nullability, comment, ⟨some .first, rfl⟩⟩
  | sql | setDefault | defaultRaw | useCurrent | useCurrentOnUpdate | addIndex | change =>
    exact ⟨name, definition, nullability, comment, position⟩

end Column

/-- Whether a value is a text. -/
def Value.isText : Value → Bool
  | .text _ => true
  | _ => false

theorem Value.exists_of_isText {value : Value} (isText : value.isText) :
    ∃ text, value = .text text := by
  cases value with
  | text text => exact ⟨text, rfl⟩
  | _ => cases isText

/-- Whether a call on the blueprint defines columns, or announces a change of one, whose names are
texts. -/
def TableCall.isDocumented : TableCall → Bool
  | .define _ name _ | .softDeletes name | .foreignId name | .modifyColumn name => name.isText
  | .timestamps => true
  | _ => false

namespace Blueprint

variable {blueprint : Blueprint} {index : Nat}

/-- A column at a position comes about by a documented call that adds it. Moves go on with it, among
them documented calls on the column and the definition that gives it its type. -/
inductive Makes (index : Nat) : Blueprint → Prop
  | begun {blueprint : Blueprint} {call : TableCall} (documented : call.isDocumented)
    (fresh : blueprint.specs.length ≤ index)
    (added : HasColumn (blueprint.callTable call).blueprint.specs index) :
    Makes index (blueprint.callTable call).blueprint
  | moved {blueprint : Blueprint} {move : Move} (makes : Makes index blueprint)
    (documented : ∀ call ∈ blueprint.aimed? index move, call.isDocumented) :
    Makes index (blueprint.moved move)

theorem Makes.movedAll (makes : Makes index blueprint) {moves : List Move}
    (documented : ∀ call ∈ blueprint.aimedOn index moves, call.isDocumented) :
    Makes index (blueprint.movedAll moves) := by
  induction moves generalizing blueprint with
  | nil => exact makes
  | cons move moves ih =>
    rw [aimedOn] at documented
    obtain ⟨first, rest⟩ := List.forall_mem_append.mp documented
    exact ih (.moved makes fun call aimed => first call (Option.mem_toList.mpr aimed)) rest

/-- Whether the column at a position is documented, if there is one. -/
def DocumentedAt (blueprint : Blueprint) (index : Nat) : Prop :=
  ∀ column, blueprint.column? (.attached index) = some column → column.IsDocumented

/-! ## Definitions -/

theorem DocumentedAt.update (documented : blueprint.DocumentedAt index) (ref : ColumnRef)
    {change : Column → Column}
    (keeps : ∀ column, column.IsDocumented → (change column).IsDocumented) :
    (blueprint.updateColumn ref change).DocumentedAt index := by
  intro column found
  by_cases here : .attached index = ref
  · subst here
    rw [column?_updateColumn] at found
    obtain ⟨before, present, rfl⟩ := Option.map_eq_some_iff.mp found
    exact keeps before (documented before present)
  · rw [column?_updateColumn_ne here] at found
    exact documented column found

theorem DocumentedAt.append (documented : blueprint.DocumentedAt index) {column : Column}
    (added : blueprint.specs.length ≤ index → column.IsDocumented) :
    (blueprint.appendColumn column).DocumentedAt index := by
  intro other found
  rw [column?_attached] at found
  change (blueprint.specs ++ [.column column])[index]? = _ at found
  by_cases inside : index < blueprint.specs.length
  · rw [List.getElem?_append_left inside] at found
    exact documented other (column?_attached.mpr found)
  · rw [List.getElem?_append_right (by omega), List.getElem?_singleton] at found
    split at found
    · obtain rfl := Spec.column.inj (Option.some.inj found)
      exact added (by omega)
    · cases found

/-- A definition leaves a column documented, or adds one that is, if its name is a text. -/
theorem DocumentedAt.define (documented : blueprint.DocumentedAt index) {name : Value}
    {type : ColumnType} (named : blueprint.specs.length ≤ index → ∃ text, name = .text text)
    {defined : Blueprint} {ref : ColumnRef}
    (made : blueprint.define name type = .ok (defined, ref)) : defined.DocumentedAt index := by
  obtain ⟨position, -, -, rfl⟩ | ⟨-, -, rfl⟩ := define_cases made
  · exact documented.update _ fun column also => also.withType type
  · refine documented.append fun fresh => ?_
    obtain ⟨text, rfl⟩ := named fresh
    exact Column.typed_isDocumented text type

theorem DocumentedAt.numbered (documented : blueprint.DocumentedAt index) (ref : ColumnRef)
    (column : TypedColumn) : (blueprint.numbered ref column).DocumentedAt index := by
  unfold Blueprint.numbered
  split
  · exact documented.update ref fun _ also => ⟨also.name, also.definition, also.nullability,
      also.comment, also.position⟩
  · exact documented

theorem DocumentedAt.setDefault (documented : blueprint.DocumentedAt index) {ref : ColumnRef}
    {value : Value} {after : Blueprint} (made : blueprint.setDefault ref value = .ok after) :
    after.DocumentedAt index := by
  obtain ⟨-, rfl⟩ | ⟨column, -, -, rfl⟩ := setDefault_cases made
  · exact documented
  · have given : ColumnCall.isDocumented (.setDefault value) := rfl
    exact documented.update ref fun _ also => also.edit given

theorem DocumentedAt.addTimestamps (documented : blueprint.DocumentedAt index)
    {after : Blueprint} (made : blueprint.addTimestamps = .ok after) :
    after.DocumentedAt index := by
  have stamped : ColumnCall.useCurrent.isDocumented := rfl
  have refreshed : ColumnCall.useCurrentOnUpdate.isDocumented := rfl
  obtain ⟨⟨first, firstRef⟩, defined, made⟩ := bind_eq_ok.mp made
  obtain ⟨⟨second, secondRef⟩, further, made⟩ := bind_eq_ok.mp made
  obtain rfl := Except.ok.inj made
  have created := (documented.define (fun _ => ⟨"created_at", rfl⟩) defined).update firstRef
    fun _ also => also.edit stamped
  exact (created.define (fun _ => ⟨"updated_at", rfl⟩) further).update secondRef
    fun _ also => (also.edit stamped).edit refreshed

/-- A definition leaves columns documented, and adds none that is not if it is documented
itself. -/
theorem DocumentedAt.definition (documented : blueprint.DocumentedAt index) {call : TableCall}
    (definition : call.IsDefinition) (named : blueprint.specs.length ≤ index → call.isDocumented) :
    (blueprint.callTable call).blueprint.DocumentedAt index := by
  cases call with
  | define column name default =>
    have text := fun fresh => Value.exists_of_isText (named fresh)
    obtain ⟨fault, -, outcome⟩ | ⟨type, defined, ref, typed, made⟩ :=
      blueprint.callDefine_cases column name default
    · rw [callTable, outcome]
      exact documented
    · have begun := (documented.define text made).numbered ref column
      rw [callTable, callDefine_eq typed made]
      split
      · exact begun
      · exact attempt_keeps begun (fun _ given => begun.setDefault given) _
  | timestamps =>
    exact attempt_keeps documented (fun _ made => documented.addTimestamps made) _
  | softDeletes name =>
    have text := fun fresh => Value.exists_of_isText (named fresh)
    have deleted : ColumnCall.isDocumented (.nullable (.bool true)) := rfl
    simp only [callTable]
    cases made : blueprint.defineMoment name with
    | error fault => exact documented
    | ok defined => exact (documented.define text made).update _ fun _ also => also.edit deleted
  | foreignId name =>
    have text := fun fresh => Value.exists_of_isText (named fresh)
    simp only [callTable]
    cases made : blueprint.define name .unsignedInteger with
    | error fault => exact documented
    | ok defined =>
      have begun := documented.define text made
      exact fun column found => begun column found
  | _ => exact absurd definition not_false

/-! ## Moves -/

theorem Edit.hasColumn {gives : ColumnType → Prop} {edited : Blueprint}
    (edit : Edit gives blueprint edited) (has : HasColumn blueprint.specs index) :
    HasColumn edited.specs index := by
  cases edit with
  | plain spec => exact (hasColumn_plain blueprint.specs spec index).mpr has
  | @column column added => exact (hasColumn_column blueprint.specs column index).mpr (.inl has)
  | @update ref change each =>
    cases ref with
    | attached position => exact (hasColumn_modify blueprint.specs position change index).mpr has
    | detached position => exact has
  | key | opened | openedDetached | settled | kept => exact has

/-- A move leaves a column documented if the call that it is on the column is. -/
theorem DocumentedAt.moved (documented : blueprint.DocumentedAt index)
    (has : HasColumn blueprint.specs index) {move : Move}
    (also : ∀ call ∈ blueprint.aimed? index move, call.isDocumented) :
    (blueprint.moved move).DocumentedAt index := by
  obtain ⟨column, present⟩ := has
  have found := column?_attached.mpr present
  -- Whatever is not aimed at the column and does not define it leaves it as it is.
  have kept {after : Blueprint} (keeps : KeepsColumns (· ≠ .attached index) blueprint after) :
      after.DocumentedAt index := by
    intro other reached
    obtain rfl := Option.some.inj ((keeps _ column (not_not.mpr rfl) found).symm.trans reached)
    exact documented column found
  cases aimed : blueprint.aimed? index move with
  | some call =>
    have given := also call aimed
    have reached := (callColumn_edits_column found given).1
    rw [(moved_aimed aimed).1]
    intro other present
    obtain rfl := Option.some.inj (reached.symm.trans present)
    split
    · exact (documented column found).edit given
    · exact documented column found
  | none =>
    cases move with
    | keep values => exact kept (blueprint.keepAll_keepsColumns values)
    | call call =>
      have apart : ∀ ref made, call.aim? blueprint = some (ref, made) → ref ≠ .attached index := by
        rintro ref made aim rfl
        simp [aimed?, aim] at aimed
      by_cases definition : ∃ made, call = .table made ∧ made.IsDefinition
      · obtain ⟨made, rfl, definition⟩ := definition
        have inside : index < blueprint.specs.length := HasColumn.lt ⟨column, present⟩
        exact documented.definition definition fun fresh => absurd inside (by omega)
      · refine kept (perform_keepsColumns_undefining call apart fun made same definite => ?_)
        exact definition ⟨made, same, definite⟩

/-- A column that comes about by documented calls is documented. -/
theorem Makes.documentedAt (makes : Makes index blueprint) :
    HasColumn blueprint.specs index ∧ blueprint.DocumentedAt index := by
  induction makes with
  | @begun blueprint call documented fresh added =>
    refine ⟨added, ?_⟩
    have absent : blueprint.DocumentedAt index := by
      intro column found
      have present := List.getElem?_eq_some_iff.mp (column?_attached.mp found)
      exact absurd present.1 (by omega)
    by_cases definition : call.IsDefinition
    · exact absent.definition definition fun _ => documented
    · cases call with
      | modifyColumn name =>
        obtain ⟨text, rfl⟩ := Value.exists_of_isText documented
        exact absent.append fun _ => Column.bare_isDocumented text .modify
      | define | timestamps | softDeletes | foreignId => exact absurd trivial definition
      | _ => cases documented
  | @moved blueprint move _ also ih =>
    obtain ⟨has, documented⟩ := ih
    refine ⟨?_, documented.moved has also⟩
    exact movedAll_keeps (fun _ _ _ edit has => edit.hasColumn has) has [move]

end Blueprint

end Tablewright
