import Tablewright.Blueprint.Wording
import Tablewright.Proofs.Value.Written

/-! # Columns that can be written out

A number that cannot be written may be the length in a type or the default of a column, and is found
out only when the column is rendered. So a type has a declaration, a default has a literal and a
column has its clauses exactly if the numbers in them are short.

In a blueprint the name and the default of a column are put into words first. What its type and its
nullability mean there changes no number.
-/

namespace Tablewright

/-- A default has a literal if its numbers can be written out. -/
theorem givenIf_defaultLiteral (value : Value) :
    GivenIf value.isWritten (defaultLiteral value) := by
  cases value with
  | null | bool _ | text _ => exact givenIf_ok _
  | _ => exact Value.givenIf_shown _

/-! ## Types and columns -/

namespace ColumnType

/-- Whether the numbers in the declaration of a type can be written out. -/
def isWritten : ColumnType → Bool
  | .decimal precision scale => precision.isWritten && scale.isWritten
  | .string length | .char length => length.isWritten
  | _ => true

theorem isWritten_mapSign (type : ColumnType) (change : Value → Value) :
    (type.mapSign change).isWritten = type.isWritten := by
  cases type <;> rfl

/-- A type has a declaration if its numbers can be written out. -/
theorem givenIf_sql (type : ColumnType) : GivenIf type.isWritten type.sql := by
  cases type with
  | decimal precision scale =>
    exact precision.givenIf_shown.bind fun _ => scale.givenIf_shown.map _
  | string length => exact length.givenIf_shown.map _
  | char length => exact length.givenIf_shown.map _
  | _ => exact givenIf_ok _

end ColumnType

/-- Whether the numbers in a default can be written out. -/
def DefaultClause.isWritten : DefaultClause → Bool
  | .none => true
  | .value given | .expression given => given.isWritten

namespace Column

/-- Whether the numbers in the type of a column can be written out, where no definition stands in
its place. -/
def typeIsWritten (column : Column) : Bool :=
  match column.definition, column.type with
  | .null, some type => type.isWritten
  | _, _ => true

/-- Whether the numbers in the type and in the default of a column can be written out. -/
def isWritten (column : Column) : Bool :=
  column.typeIsWritten && column.defaultClause.isWritten

theorem isWritten_mapSign (column : Column) (change : Value → Value) (nullability : Value) :
    { column with
      type := column.type.map fun type => type.mapSign change
      nullability := nullability : Column }.isWritten = column.isWritten := by
  unfold isWritten typeIsWritten
  cases column.type with
  | none => rfl
  | some type =>
    cases column.definition with
    | null => exact congrArg (· && _) (type.isWritten_mapSign change)
    | _ => rfl

theorem givenIf_typeClause (column : Column) :
    GivenIf column.typeIsWritten column.typeClause := by
  unfold typeIsWritten typeClause
  cases column.definition with
  | null =>
    cases column.type with
    | none => exact givenIf_ok []
    | some type => exact type.givenIf_sql.map _
  | _ => exact givenIf_ok []

theorem givenIf_defaultClauses (column : Column) :
    GivenIf column.defaultClause.isWritten column.defaultClauses := by
  unfold defaultClauses
  cases column.defaultClause with
  | none => exact givenIf_ok []
  | value value => exact (givenIf_defaultLiteral value).map _
  | expression expression => exact expression.givenIf_shown.map _

/-- A column whose texts are texts has a fragment if its numbers can be written out. -/
theorem givenIf_sql {column : Column} {name : String} {comment definition : List String}
    (named : column.name.shown = .ok name) (commented : column.commentClause = .ok comment)
    (defined : column.definitionClause = .ok definition) :
    GivenIf column.isWritten column.sql := by
  rw [sql, clauses, named, commented, defined]
  exact (column.givenIf_typeClause.bind fun _ => column.givenIf_defaultClauses.map _).map _

/-- A column has a fragment exactly if its name and its comment and definition have texts, and the
numbers in its type and in its default can be written out. -/
theorem exists_sql_iff {column : Column} :
    (∃ text, column.sql = .ok text) ↔
      (∃ name, column.name.shown = .ok name) ∧ column.isWritten ∧
        (∃ comment, column.commentClause = .ok comment) ∧
        ∃ definition, column.definitionClause = .ok definition := by
  constructor
  · rintro ⟨text, rendered⟩
    obtain ⟨clauses, listed, -⟩ := bind_eq_ok.mp rendered
    obtain ⟨name, named, listed⟩ := bind_eq_ok.mp listed
    obtain ⟨type, -, listed⟩ := bind_eq_ok.mp listed
    obtain ⟨default, -, listed⟩ := bind_eq_ok.mp listed
    obtain ⟨comment, commented, listed⟩ := bind_eq_ok.mp listed
    obtain ⟨definition, defined, -⟩ := bind_eq_ok.mp listed
    exact ⟨⟨name, named⟩, (givenIf_sql named commented defined).ok.mp ⟨text, rendered⟩,
      ⟨comment, commented⟩, definition, defined⟩
  · rintro ⟨⟨name, named⟩, written, ⟨comment, commented⟩, definition, defined⟩
    exact (givenIf_sql named commented defined).ok.mpr written

end Column

/-! ## Columns in a blueprint -/

/-- What is put into words has a text if the words can be written out. -/
theorem exists_shown_iff {result : Except Fault Value} :
    (∃ text, result.bind Value.shown = .ok text) ↔
      ∃ value, result = .ok value ∧ value.isWritten := by
  cases result with
  | error fault => simp [Except.bind]
  | ok value => simpa [Except.bind] using value.givenIf_shown.ok

/-- The value that a default shows, if there is one. -/
def DefaultClause.given? : DefaultClause → Option Value
  | .none => Option.none
  | .value given | .expression given => some given

/-- A default that is put into words can be written out exactly if the value that it shows can. -/
theorem DefaultClause.exists_inWords_iff {words : Value → Except Fault Value}
    {clause : DefaultClause} :
    (∃ read, clause.inWords words = .ok read ∧ read.isWritten) ↔
      ∀ value ∈ clause.given?, ∃ text, (words value).bind Value.shown = .ok text := by
  simp only [exists_shown_iff]
  cases clause with
  | none => simp [inWords, given?, isWritten]
  | value given => simp [inWords, given?, isWritten]
  | expression given => simp [inWords, given?, isWritten]

namespace Blueprint

variable (blueprint : Blueprint)

/-- The column as it reads in a blueprint, with a name and a default in words. -/
def wordedColumn (column : Column) (name : Value) (clause : DefaultClause) : Column :=
  { column with
    name := name
    type := column.type.map blueprint.viewedType
    nullability := blueprint.viewed column.nullability
    defaultClause := clause }

theorem isWritten_wordedColumn (column : Column) (name : Value) (clause : DefaultClause) :
    (blueprint.wordedColumn column name clause).isWritten ↔
      column.typeIsWritten ∧ clause.isWritten := by
  have same := { column with name := name, defaultClause := clause }.isWritten_mapSign
    blueprint.viewed (blueprint.viewed column.nullability)
  rw [← Bool.and_eq_true_iff]
  exact same ▸ Iff.rfl

/-- A column is rendered in words. -/
theorem columnSqlBy_eq_ok_iff {words : Value → Except Fault Value} {column : Column}
    {text : String} :
    blueprint.columnSqlBy words column = .ok text ↔
      ∃ name, words column.name = .ok name ∧ ∃ clause,
        column.defaultClause.inWords words = .ok clause ∧
          (blueprint.wordedColumn column name clause).sql = .ok text := by
  simp only [columnSqlBy, Column.inWords, bind_eq_ok, pure_eq_ok, Except.ok.injEq]
  constructor
  · rintro ⟨_, ⟨name, named, clause, given, rfl⟩, rendered⟩
    exact ⟨name, named, clause, given, rendered⟩
  · rintro ⟨name, named, clause, given, rendered⟩
    exact ⟨_, ⟨name, named, clause, given, rfl⟩, rendered⟩

/-- A column in a blueprint has a fragment exactly if what it shows has texts. All but its name and
its default is the same in every blueprint. -/
theorem exists_columnSqlBy_iff (words : Value → Except Fault Value) (column : Column) :
    (∃ text, blueprint.columnSqlBy words column = .ok text) ↔
      (∃ name, (words column.name).bind Value.shown = .ok name) ∧
        (∀ value ∈ column.defaultClause.given?,
          ∃ text, (words value).bind Value.shown = .ok text) ∧
        column.typeIsWritten ∧ (∃ comment, column.commentClause = .ok comment) ∧
        ∃ definition, column.definitionClause = .ok definition := by
  rw [exists_shown_iff, ← DefaultClause.exists_inWords_iff]
  simp only [columnSqlBy_eq_ok_iff]
  constructor
  · rintro ⟨text, name, named, clause, given, rendered⟩
    obtain ⟨shown, long, comment, definition⟩ := Column.exists_sql_iff.mp ⟨text, rendered⟩
    obtain ⟨type, default⟩ := (blueprint.isWritten_wordedColumn column name clause).mp long
    exact ⟨⟨name, named, name.givenIf_shown.ok.mp shown⟩, ⟨clause, given, default⟩, type, comment,
      definition⟩
  · rintro ⟨⟨name, named, shown⟩, ⟨clause, given, default⟩, type, comment, definition⟩
    have long := (blueprint.isWritten_wordedColumn column name clause).mpr ⟨type, default⟩
    obtain ⟨text, rendered⟩ := Column.exists_sql_iff.mpr
      ⟨name.givenIf_shown.ok.mpr shown, long, comment, definition⟩
    exact ⟨text, name, named, clause, given, rendered⟩

end Blueprint

/-- Whether the numbers in a spec can be written out. -/
def Spec.isWritten : Spec → Bool
  | .column definition => definition.isWritten
  | .plain _ => true

end Tablewright
