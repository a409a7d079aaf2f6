import Tablewright.Proofs.ColumnType
import Tablewright.Proofs.Statement.Fragments

/-! # Harmless blueprints

A blueprint is harmless if its names hold no marks of names, its types and defaults come from the
values they are meant for, and whatever it keeps as text is sealed. Nothing is asked of the texts
of defaults, comments and enumerations. Editing a harmless blueprint by harmless parts leaves it
harmless.
-/

namespace Tablewright

/-- Whether a value can be a name: no mark of a name is in it. -/
def Value.IsName : Value → Prop
  | .null => True
  | .text name => Unmarked name
  | _ => False

/-- Whether a value can be a comment: null or any text. -/
def Value.IsNote : Value → Prop
  | .null | .text _ => True
  | _ => False

theorem Value.IsName.isNote {value : Value} (name : value.IsName) : value.IsNote := by
  cases value with
  | null | text _ => trivial
  | _ => exact name.elim

theorem Value.IsName.unmarked {value : Value} (name : value.IsName) : Unmarked value.plainForm := by
  cases value with
  | null => decide
  | text _ => exact name
  | _ => exact name.elim

theorem Value.IsNote.isWritten {value : Value} (note : value.IsNote) : value.isWritten := by
  cases value with
  | null | text _ => rfl
  | _ => exact note.elim

theorem Value.IsNote.shown {value : Value} (note : value.IsNote) :
    value.shown = .ok value.plainForm :=
  shown_of_isWritten note.isWritten

theorem Value.asTexts_unmarked {values : List Value} (each : ∀ value ∈ values, value.IsName)
    {position : Nat} {texts : List String} (listed : Value.asTexts position values = .ok texts) :
    ∀ text ∈ texts, Unmarked text := by
  induction values generalizing position texts with
  | nil =>
    obtain rfl := Except.ok.inj listed
    simp
  | cons value values ih =>
    obtain ⟨named, others⟩ := List.forall_mem_cons.mp each
    cases value with
    | text name =>
      obtain ⟨rest, further, same⟩ := bind_eq_ok.mp listed
      obtain rfl := Except.ok.inj same
      exact List.forall_mem_cons.mpr ⟨named, ih others further⟩
    | _ => cases listed

theorem Value.asSuffix_unmarked {value : Value} (name : value.IsName) {text : String}
    (found : value.asSuffix = .ok text) : Unmarked text := by
  cases value with
  | text _ => exact Except.ok.inj found ▸ name
  | _ => cases found

/-- Whether the default of a column is none, a literal or the current moment. -/
def DefaultClause.IsHarmless : DefaultClause → Prop
  | .none => True
  | .value given => given.IsLiteral
  | .expression given => given = .text currentMoment

/-- Whether a column has nothing but texts of its own that stay within their marks. -/
structure Column.IsHarmless (column : Column) : Prop where
  name : column.name.IsName
  definition : column.definition = .null
  type : ∀ type ∈ column.type, type.IsSealed
  defaultClause : column.defaultClause.IsHarmless
  comment : column.comment.IsNote
  position : ∀ position ∈ column.position, Sealed position

/-- Whether a spec is a harmless column, or adds nothing but a fragment. -/
def Spec.IsHarmless : Spec → Prop
  | .column definition => definition.IsHarmless
  | .plain spec => spec.kind = .add → IsFragment spec.text

/-- Whether a foreign key is on a column and its names hold no marks. -/
structure ForeignKey.IsHarmless (key : ForeignKey) : Prop where
  column : ∃ ref, key.column = .ofColumn ref
  referencedColumn : key.referencedColumn.IsName
  referencedTable : ∀ table ∈ key.referencedTable, Unmarked table
  deleteAction : ∀ action ∈ key.deleteAction, Sealed action
  updateAction : ∀ action ∈ key.updateAction, Sealed action

/-- Whether a blueprint has harmless parts only. -/
structure Blueprint.IsHarmless (blueprint : Blueprint) : Prop where
  table : Unmarked blueprint.table
  specs : ∀ spec ∈ blueprint.specs, spec.IsHarmless
  detached : ∀ column ∈ blueprint.detached, column.IsHarmless
  keys : ∀ key ∈ blueprint.foreignKeys, key.IsHarmless

/-! ## What is harmless as it is made -/

theorem Column.bare_isHarmless {name : Value} (named : name.IsName) (kind : SpecKind) :
    (bare name kind).IsHarmless where
  name := named
  definition := rfl
  type := by simp [bare]
  defaultClause := trivial
  comment := trivial
  position := by simp [bare]

theorem Column.typed_isHarmless {name : Value} (named : name.IsName) {type : ColumnType}
    (declared : type.IsSealed) : (typed name type).IsHarmless where
  name := named
  definition := rfl
  type := by
    rintro _ ⟨⟩
    exact declared
  defaultClause := trivial
  comment := trivial
  position := by simp [typed, bare]

namespace Column.IsHarmless

variable {column : Column}

theorem withType (harmless : column.IsHarmless) {type : ColumnType} (declared : type.IsSealed) :
    (column.withType type).IsHarmless :=
  { harmless with
    type := by
      rintro _ ⟨⟩
      exact declared }

theorem withDefault (harmless : column.IsHarmless) {value : Value} (literal : value.IsLiteral) :
    (column.withDefault value).IsHarmless :=
  { harmless with defaultClause := literal }

theorem withMoment (harmless : column.IsHarmless) :
    (column.withExpression (.text currentMoment)).IsHarmless :=
  { harmless with defaultClause := rfl }

theorem placed (harmless : column.IsHarmless) {place : String} (sealed : Sealed place) :
    { column with position := some place }.IsHarmless :=
  { harmless with
    position := by
      rintro _ ⟨⟩
      exact sealed }

end Column.IsHarmless

theorem ForeignKey.start_isHarmless (ref : ColumnRef) : (start (.ofColumn ref)).IsHarmless where
  column := ⟨ref, rfl⟩
  referencedColumn := trivial
  referencedTable := by simp [start]
  deleteAction := by simp [start]
  updateAction := by simp [start]

namespace Blueprint

theorem empty_isHarmless {tablePrefix name : String} (unmarked : Unmarked (tablePrefix ++ name)) :
    (empty tablePrefix name).IsHarmless where
  table := unmarked
  specs := by simp [empty]
  detached := by simp [empty]
  keys := by simp [empty]

/-! ## What edits keep -/

theorem forall_mem_append_single {α : Type} {property : α → Prop} {items : List α}
    (each : ∀ item ∈ items, property item) (last : α) (holds : property last) :
    ∀ item ∈ items ++ [last], property item := by
  intro item member
  rcases List.mem_append.mp member with found | found
  · exact each item found
  · exact List.mem_singleton.mp found ▸ holds

theorem forall_mem_modify {α : Type} {property : α → Prop} {items : List α}
    (each : ∀ item ∈ items, property item) (index : Nat) {change : α → α}
    (keeps : ∀ item, property item → property (change item)) :
    ∀ item ∈ items.modify index change, property item := by
  intro item member
  obtain ⟨other, found⟩ := List.mem_iff_getElem?.mp member
  rw [List.getElem?_modify] at found
  obtain ⟨original, present, same⟩ := Option.map_eq_some_iff.mp found
  have kept := each original (List.mem_of_getElem? present)
  split at same
  · exact same ▸ keeps original kept
  · exact same ▸ kept

namespace IsHarmless

variable {blueprint : Blueprint}

theorem appendPlain (harmless : blueprint.IsHarmless) {spec : PlainSpec}
    (fragment : spec.kind = .add → IsFragment spec.text) :
    (blueprint.appendPlain spec).IsHarmless :=
  { harmless with specs := forall_mem_append_single harmless.specs (.plain spec) fragment }

theorem appendConstraint (harmless : blueprint.IsHarmless) {text : String}
    (fragment : IsFragment text) : (blueprint.appendConstraint text).IsHarmless :=
  { harmless with
    specs := forall_mem_append_single harmless.specs (.constraint text) fun _ => fragment }

theorem appendColumn (harmless : blueprint.IsHarmless) {column : Column}
    (added : column.IsHarmless) : (blueprint.appendColumn column).IsHarmless :=
  { harmless with specs := forall_mem_append_single harmless.specs (.column column) added }

theorem openKey (harmless : blueprint.IsHarmless) (ref : ColumnRef) :
    (blueprint.openKey (.ofColumn ref)).IsHarmless :=
  { harmless with
    keys := forall_mem_append_single harmless.keys _ (ForeignKey.start_isHarmless ref) }

theorem openDetachedKey (harmless : blueprint.IsHarmless) {name : String}
    (unmarked : Unmarked name) : (blueprint.openDetachedKey name).IsHarmless := by
  have named : Value.IsName (.text name) := unmarked
  exact { harmless with
    detached := forall_mem_append_single harmless.detached _ (Column.bare_isHarmless named .add)
    keys := forall_mem_append_single harmless.keys _ (ForeignKey.start_isHarmless _) }

theorem updateColumn (harmless : blueprint.IsHarmless) (ref : ColumnRef)
    {change : Column → Column} (keeps : ∀ column, column.IsHarmless → (change column).IsHarmless) :
    (blueprint.updateColumn ref change).IsHarmless := by
  cases ref with
  | attached index =>
    refine { harmless with specs := forall_mem_modify harmless.specs index ?_ }
    intro spec kept
    cases spec with
    | column column => exact keeps column kept
    | plain spec => exact kept
  | detached index =>
    exact { harmless with detached := forall_mem_modify harmless.detached index keeps }

theorem updateKey (harmless : blueprint.IsHarmless) (index : Nat)
    {change : ForeignKey → ForeignKey} (keeps : ∀ key, key.IsHarmless → (change key).IsHarmless) :
    (blueprint.updateKey index change).IsHarmless :=
  { harmless with keys := forall_mem_modify harmless.keys index keeps }

theorem closeRound (harmless : blueprint.IsHarmless) : blueprint.closeRound.IsHarmless :=
  { harmless with }

end IsHarmless

end Blueprint

end Tablewright
