import Mathlib.Data.List.Induction
import Tablewright.Proofs.Blueprint.Edits

/-! # Defaults of enumerations

An enumeration takes null and its own values as a default. Whoever gives a default to an enumeration
is told so, and so is whoever defines one with a default. A change that awaits its type takes every
default, and nothing is checked when it becomes an enumeration: that is the one way in which an
enumeration gets a default outside its values. A history keeps all defaults within their values
exactly if that never happens in it.
-/

namespace Tablewright

/-- Whether the column has no default that is a value outside its enumeration. -/
def Column.DefaultAllowed (column : Column) : Prop :=
  ∀ allowed value, column.type = some (.enum allowed) → column.defaultClause = .value value →
    value = .null ∨ ∃ word ∈ allowed, value = .text word

/-- Whether no column of the blueprint has a default outside its enumeration. -/
def Blueprint.DefaultsAllowed (blueprint : Blueprint) : Prop :=
  ∀ column, Spec.column column ∈ blueprint.specs → column.DefaultAllowed

/-- An enumeration takes null and its values. -/
theorem ColumnType.defaultProblems_enum (allowed : List String) (value : Value) :
    (ColumnType.enum allowed).defaultProblems value = [] ↔
      value = .null ∨ ∃ word ∈ allowed, value = .text word := by
  cases value with
  | text word => by_cases known : word ∈ allowed <;> simp [defaultProblems, known]
  | _ => simp [defaultProblems]

namespace Column

variable {column : Column}

/-- A default is allowed exactly if the type takes it. -/
theorem defaultAllowed_iff :
    column.DefaultAllowed ↔
      ∀ value, column.defaultClause = .value value → column.defaultProblems value = [] := by
  constructor
  · intro allowed value given
    unfold defaultProblems
    cases typed : column.type with
    | none => rfl
    | some type =>
      cases type with
      | enum words =>
        exact (ColumnType.defaultProblems_enum words value).mpr (allowed words value typed given)
      | _ => rfl
  · intro taken words value typed given
    have fine := taken value given
    rw [defaultProblems, typed] at fine
    exact (ColumnType.defaultProblems_enum words value).mp fine

theorem defaultProblems_of_type {type : ColumnType} (typed : column.type = some type)
    (value : Value) : column.defaultProblems value = type.defaultProblems value := by
  rw [defaultProblems, typed]
  rfl

theorem defaultAllowed_of_no_value (none : column.defaultClause.value? = none) :
    column.DefaultAllowed := by
  intro words value _ given
  rw [given] at none
  cases none

/-- A default that the type takes is allowed. -/
theorem defaultAllowed_withDefault {value : Value} (taken : column.defaultProblems value = []) :
    (column.withDefault value).DefaultAllowed := by
  refine defaultAllowed_iff.mpr fun other given => ?_
  obtain rfl := DefaultClause.value.inj given
  exact taken

theorem Added.defaultAllowed {gives : ColumnType → Prop} (added : column.Added gives) :
    column.DefaultAllowed := by
  cases added <;> exact defaultAllowed_of_no_value rfl

/-- Only giving a column an enumeration for its type can make its default wrong. -/
theorem Edit.defaultAllowed {gives : ColumnType → Prop} {edited : Column}
    (edit : column.Edit gives edited) (others : ∀ words, ¬ gives (.enum words))
    (allowed : column.DefaultAllowed) : edited.DefaultAllowed := by
  cases edit with
  | @typed type given awaits =>
    intro words value typed
    obtain rfl := Option.some.inj typed
    exact absurd given (others words)
  | default taken => exact defaultAllowed_withDefault taken
  | clause name type definition kind default =>
    rcases default with same | none
    · intro words value typed given
      exact allowed words value (type ▸ typed) (same ▸ given)
    · exact defaultAllowed_of_no_value none

end Column

namespace Blueprint

variable {blueprint : Blueprint}

/-- The defaults of a blueprint are allowed if they are at every position. -/
theorem defaultsAllowed_iff_column? :
    blueprint.DefaultsAllowed ↔
      ∀ index column, blueprint.column? (.attached index) = some column →
        column.DefaultAllowed := by
  constructor
  · intro allowed index column found
    exact allowed column (List.mem_of_getElem? (column?_attached.mp found))
  · intro allowed column member
    obtain ⟨index, found⟩ := List.mem_iff_getElem?.mp member
    exact allowed index column (column?_attached.mpr found)

/-- Whether no column but one may have a default outside its enumeration. -/
def AllowedApart (blueprint : Blueprint) (index : Nat) : Prop :=
  ∀ position column, position ≠ index → blueprint.column? (.attached position) = some column →
    column.DefaultAllowed

theorem DefaultsAllowed.apart (allowed : blueprint.DefaultsAllowed) (index : Nat) :
    blueprint.AllowedApart index :=
  fun position column _ found => defaultsAllowed_iff_column?.mp allowed position column found

theorem AllowedApart.updateColumn {index : Nat} (apart : blueprint.AllowedApart index)
    (change : Column → Column) :
    (blueprint.updateColumn (.attached index) change).AllowedApart index := by
  intro position column other found
  rw [column?_updateColumn_other other] at found
  exact apart position column other found

theorem AllowedApart.numbered {index : Nat} (apart : blueprint.AllowedApart index)
    (column : TypedColumn) : (blueprint.numbered (.attached index) column).AllowedApart index := by
  unfold Blueprint.numbered
  split
  · exact apart.updateColumn _
  · exact apart

/-- A change of the remaining column makes defaults allowed if that column's default is. -/
theorem AllowedApart.defaultsAllowed {index : Nat} (apart : blueprint.AllowedApart index)
    {change : Column → Column}
    (changed : ∀ column, blueprint.column? (.attached index) = some column →
      (change column).DefaultAllowed) :
    (blueprint.updateColumn (.attached index) change).DefaultsAllowed := by
  refine defaultsAllowed_iff_column?.mpr fun position column found => ?_
  by_cases here : position = index
  · subst here
    rw [column?_updateColumn] at found
    obtain ⟨before, present, rfl⟩ := Option.map_eq_some_iff.mp found
    exact changed before present
  · exact apart.updateColumn change position column here found

theorem DefaultsAllowed.append (allowed : blueprint.DefaultsAllowed) {edited : Blueprint}
    {spec : Spec} (specs : edited.specs = blueprint.specs ++ [spec])
    (fine : ∀ column, spec = .column column → column.DefaultAllowed) :
    edited.DefaultsAllowed := by
  intro column member
  rw [specs] at member
  rcases List.mem_append.mp member with before | last
  · exact allowed column before
  · exact fine column (List.mem_singleton.mp last).symm

theorem Edit.defaultsAllowed {gives : ColumnType → Prop} {edited : Blueprint}
    (edit : Edit gives blueprint edited) (others : ∀ words, ¬ gives (.enum words))
    (allowed : blueprint.DefaultsAllowed) : edited.DefaultsAllowed := by
  cases edit with
  | plain spec =>
    refine allowed.append rfl ?_
    rintro column ⟨⟩
  | column added =>
    refine allowed.append rfl ?_
    rintro column ⟨⟩
    exact added.defaultAllowed
  | @update ref change each =>
    cases ref with
    | detached index => exact allowed
    | attached index =>
      exact (allowed.apart index).defaultsAllowed fun column found =>
        (each column found).defaultAllowed others
          (defaultsAllowed_iff_column?.mp allowed index column found)
  | key position change => exact allowed
  | opened column => exact allowed
  | openedDetached name => exact allowed
  | settled => exact allowed
  | kept lists => exact allowed

/-- Only a call that gives a column an enumeration for its type can make a default wrong. -/
theorem Edits.defaultsAllowed {gives : ColumnType → Prop} {edited : Blueprint}
    (edits : Edits gives blueprint edited) (others : ∀ words, ¬ gives (.enum words))
    (allowed : blueprint.DefaultsAllowed) : edited.DefaultsAllowed :=
  edits.keeps (fun _ _ edit kept => edit.defaultsAllowed others kept) allowed

/-! ## Completed changes -/

/-- Whether a call completes a change whose default its type does not take, and gives it no default
that the type takes. -/
def OverlooksDefault (blueprint : Blueprint) : Call → Prop
  | .table (.define definition name default) =>
    ∃ index column value type, blueprint.awaiting? name = .ok (some index) ∧
      blueprint.column? (.attached index) = some column ∧ column.defaultClause = .value value ∧
      blueprint.columnType definition = .ok type ∧ type.defaultProblems value ≠ [] ∧
      (default = .null ∨ type.defaultProblems default ≠ [])
  | _ => False

/-- The types that a call other than a definition gives are no enumerations. -/
theorem not_gives_enum {call : Call}
    (other : ∀ definition name default, call ≠ .table (.define definition name default))
    (words : List String) : ¬ call.Gives blueprint (.enum words) := by
  cases call with
  | table call =>
    cases call with
    | define definition name default => exact absurd rfl (other definition name default)
    | timestamps => rintro ⟨⟩
    | softDeletes name => rintro ⟨⟩
    | foreignId column => rintro ⟨⟩
    | _ => exact id
  | column ref call => exact id
  | key index call => exact id

/-- What is done to a column after it was defined keeps defaults allowed. -/
theorem callDefine_defaultsAllowed {column : TypedColumn} {name : Value} {type : ColumnType}
    {defined : Blueprint} {ref : ColumnRef} (typed : blueprint.columnType column = .ok type)
    (made : blueprint.define name type = .ok (defined, ref)) (default : Value)
    (allowed : defined.DefaultsAllowed) :
    (blueprint.callDefine column name default).blueprint.DefaultsAllowed := by
  have numbers : Edits (fun _ => False) defined (defined.numbered ref column) :=
    numbered_edits defined ref column
  have numbered := numbers.defaultsAllowed (fun _ => id) allowed
  rw [callDefine_eq typed made]
  split
  · exact numbered
  · have attempts : Edits (fun _ => False) (defined.numbered ref column)
        ((defined.numbered ref column).attempt
          ((defined.numbered ref column).setDefault ref default) (.column ref)).blueprint :=
      attempt_keeps .refl (fun _ given => setDefault_edits given) _
    exact attempts.defaultsAllowed (fun _ => id) numbered

/-- A change that is completed has an allowed default afterwards exactly if the call gives it one,
where its own is not taken by the type. -/
theorem completed_defaultsAllowed_iff (allowed : blueprint.DefaultsAllowed) {column : TypedColumn}
    {name : Value} {type : ColumnType} (typed : blueprint.columnType column = .ok type)
    {index : Nat} (awaited : blueprint.awaiting? name = .ok (some index)) {before : Column}
    (present : blueprint.column? (.attached index) = some before) {value : Value}
    (given : before.defaultClause = .value value) (problems : type.defaultProblems value ≠ [])
    (default : Value) :
    (blueprint.callDefine column name default).blueprint.DefaultsAllowed ↔
      default ≠ .null ∧ type.defaultProblems default = [] := by
  let defined := blueprint.updateColumn (.attached index) (Column.withType · type)
  have made : blueprint.define name type = .ok (defined, .attached index) := by
    rw [define, awaited]
    rfl
  have completed : defined.column? (.attached index) = some (before.withType type) := by
    rw [column?_updateColumn, present]
    rfl
  obtain ⟨found, there, same⟩ := column?_numbered completed column
  have core := Column.Core.mk.inj same
  have kept : found.type = some type := core.2.2.1
  have takes (other : Value) : found.defaultProblems other = type.defaultProblems other :=
    Column.defaultProblems_of_type kept other
  have disallowed : ¬ (defined.numbered (.attached index) column).DefaultsAllowed := by
    intro fine
    have still := defaultsAllowed_iff_column?.mp fine index found there
    have taken := Column.defaultAllowed_iff.mp still value (core.2.2.2.2.trans given)
    exact problems (takes value ▸ taken)
  rw [callDefine_eq typed made]
  by_cases null : default = .null
  · rw [if_pos null]
    exact ⟨fun fine => absurd fine disallowed, fun gives => absurd null gives.1⟩
  rw [if_neg null]
  by_cases taken : type.defaultProblems default = []
  · have set : (defined.numbered (.attached index) column).setDefault (.attached index) default =
        .ok ((defined.numbered (.attached index) column).updateColumn (.attached index)
          (Column.withDefault · default)) := by
      simp [setDefault, there, takes, taken]
    have apart := (((allowed.apart index).updateColumn (Column.withType · type)).numbered column)
    rw [set]
    refine ⟨fun _ => ⟨null, taken⟩, fun _ => apart.defaultsAllowed fun other present' => ?_⟩
    obtain rfl := Option.some.inj (there.symm.trans present')
    exact Column.defaultAllowed_withDefault ((takes default).trans taken)
  · cases refused : (defined.numbered (.attached index) column).setDefault (.attached index)
      default with
    | error fault => exact ⟨fun fine => absurd fine disallowed, fun gives => absurd gives.2 taken⟩
    | ok changed =>
      obtain ⟨missing, -⟩ | ⟨other, present', fine, -⟩ := setDefault_cases refused
      · cases there.symm.trans missing
      · obtain rfl := Option.some.inj (there.symm.trans present')
        exact absurd ((takes default).symm.trans fine) taken

theorem callDefine_defaultsAllowed_iff (allowed : blueprint.DefaultsAllowed)
    (column : TypedColumn) (name default : Value) :
    (blueprint.callDefine column name default).blueprint.DefaultsAllowed ↔
      ¬ blueprint.OverlooksDefault (.table (.define column name default)) := by
  constructor
  · rintro fine ⟨index, before, value, type, awaited, present, given, typed, problems, refused⟩
    rw [completed_defaultsAllowed_iff allowed typed awaited present given problems] at fine
    exact refused.elim fine.1 fun refuses => refuses fine.2
  · intro noticed
    obtain ⟨fault, -, outcome⟩ | ⟨type, defined, ref, typed, made⟩ :=
      blueprint.callDefine_cases column name default
    · rw [outcome]
      exact allowed
    obtain ⟨index, awaited, rfl, rfl⟩ | ⟨-, rfl, rfl⟩ := define_cases made
    · obtain ⟨-, before, present, -⟩ := awaiting?_eq_some awaited
      by_cases fits : (before.withType type).DefaultAllowed
      · refine callDefine_defaultsAllowed typed made default
          ((allowed.apart index).defaultsAllowed fun other present' => ?_)
        obtain rfl := Option.some.inj (present.symm.trans present')
        exact fits
      · rw [Column.defaultAllowed_iff] at fits
        push Not at fits
        obtain ⟨value, given, problems⟩ := fits
        rw [completed_defaultsAllowed_iff allowed typed awaited present given problems]
        refine ⟨fun null => noticed ?_, by_contra fun refuses => noticed ?_⟩
        · exact ⟨index, before, value, type, awaited, present, given, typed, problems, .inl null⟩
        · exact ⟨index, before, value, type, awaited, present, given, typed, problems, .inr refuses⟩
    · refine callDefine_defaultsAllowed typed made default (allowed.append rfl ?_)
      rintro column ⟨⟩
      exact Column.defaultAllowed_of_no_value rfl

/-- A call keeps defaults allowed exactly if it does not overlook one. -/
theorem perform_defaultsAllowed_iff (allowed : blueprint.DefaultsAllowed) (call : Call) :
    (blueprint.perform call).blueprint.DefaultsAllowed ↔ ¬ blueprint.OverlooksDefault call := by
  have kept (other : ∀ definition name default, call ≠ .table (.define definition name default)) :
      (blueprint.perform call).blueprint.DefaultsAllowed :=
    (blueprint.perform_edits call).defaultsAllowed (not_gives_enum other) allowed
  cases call with
  | table call =>
    cases call with
    | define definition name default =>
      exact callDefine_defaultsAllowed_iff allowed definition name default
    | _ => exact ⟨fun _ => id, fun _ => kept (by simp)⟩
  | column ref call => exact ⟨fun _ => id, fun _ => kept (by simp)⟩
  | key index call => exact ⟨fun _ => id, fun _ => kept (by simp)⟩

theorem empty_defaultsAllowed (tablePrefix table : String) :
    (empty tablePrefix table).DefaultsAllowed := by
  intro column member
  cases member

/-- Throughout a history no enumeration has a default outside its values, exactly if no call in it
completes a change whose default the enumeration does not take. -/
theorem history_defaultsAllowed_iff (tablePrefix table : String) (moves : List Move) :
    (∀ earlier, earlier <+: moves → ((empty tablePrefix table).movedAll earlier).DefaultsAllowed) ↔
      ∀ earlier call, earlier ++ [.call call] <+: moves →
        ¬ ((empty tablePrefix table).movedAll earlier).OverlooksDefault call := by
  constructor
  · intro allowed earlier call reached
    have before := allowed earlier ((List.prefix_append _ _).trans reached)
    have after := allowed _ reached
    rw [movedAll_append, movedAll_cons, movedAll_nil] at after
    exact (perform_defaultsAllowed_iff before call).mp after
  · intro noticed earlier reached
    induction earlier using List.reverseRecOn with
    | nil => exact empty_defaultsAllowed tablePrefix table
    | append_singleton earlier move ih =>
      have before := ih ((List.prefix_append _ _).trans reached)
      rw [movedAll_append, movedAll_cons, movedAll_nil]
      cases move with
      | call call =>
        exact (perform_defaultsAllowed_iff before call).mpr (noticed earlier call reached)
      | keep values =>
        obtain ⟨lists, same⟩ :=
          keepAll_lists ((empty tablePrefix table).movedAll earlier) values
        rw [moved, same]
        exact before

/-- A change that has a default before it becomes an enumeration. -/
def defaultedChange : List Move :=
  [.call (.table (.modifyColumn (.text "status"))),
    .call (.table (.setDefault (.text "gone"))),
    .call (.table (.define (.enum (.list [.text "draft"])) (.text "status") .null))]

/-- The enumeration keeps a default that is none of its values, and says so in its statement. -/
theorem defaultedChange_disallowed :
    ¬ ((empty "" "posts").movedAll defaultedChange).DefaultsAllowed ∧
      ((empty "" "posts").movedAll defaultedChange).toAlter.result =
        .ok ["ALTER TABLE `posts` MODIFY COLUMN `status` " ++
          "ENUM('draft') NOT NULL DEFAULT 'gone'"] := by
  have specs : ((empty "" "posts").movedAll defaultedChange).specs =
      [.column { Column.typed (.text "status") (.enum ["draft"]) with
        kind := .modify
        defaultClause := .value (.text "gone") }] := by
    decide +kernel
  refine ⟨fun allowed => ?_, by decide +kernel⟩
  have fine := allowed _ (specs ▸ List.mem_singleton_self _) ["draft"] (.text "gone") rfl rfl
  simp at fine

end Blueprint

end Tablewright
