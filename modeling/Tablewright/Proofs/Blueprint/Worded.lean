import Tablewright.Proofs.Blueprint.Rendered
import Tablewright.Proofs.Blueprint.Spared

/-! # Worded blueprints

A blueprint is worded if whatever its specs keep for a name, a definition, an expression or a
comment is a text or missing. A default may be any value, and so may the numbers in a type. So the
fragment of a worded spec can be rendered exactly if its default can be put into words and these and
the numbers can be written out. Calls whose arguments are of their documented types leave a
blueprint worded, whether they succeed or fail.
-/

namespace Tablewright

/-- Whether a column is added or changed, and has texts where texts are expected. -/
structure Column.IsWorded (column : Column) : Prop where
  name : column.name.IsNote
  kind : column.kind = .add ∨ column.kind = .modify
  definition : column.definition.IsNote
  expression : ∀ expression ∈ column.defaultClause.expression?, expression.IsNote
  comment : column.comment.IsNote

/-- Whether a spec has texts where texts are expected. -/
def Spec.IsWorded : Spec → Prop
  | .column definition => definition.IsWorded
  | .plain spec => spec.column.IsNote ∧ spec.newName.IsNote

/-- The default of a spec, if it is a value. -/
def Spec.default? (spec : Spec) : Option Value :=
  spec.column?.bind fun column => column.defaultClause.value?

/-- Whether a column can be rendered in a blueprint: the numbers in its type can be written out, and
its default, if it is a value, has words that can. -/
structure Column.Reads (blueprint : Blueprint) (column : Column) : Prop where
  type : column.typeIsWritten
  default : ∀ value ∈ column.defaultClause.value?,
    ∃ words, blueprint.words value = .ok words ∧ words.isWritten

/-- Whether a spec, if it is a column, can be rendered in a blueprint. -/
def Spec.Reads (blueprint : Blueprint) (spec : Spec) : Prop :=
  ∀ column ∈ spec.column?, column.Reads blueprint

theorem Spec.constraint_isWorded (text : String) : (constraint text).IsWorded :=
  ⟨trivial, trivial⟩

namespace Column

theorem bare_isWorded {name : Value} (named : name.IsNote) {kind : SpecKind}
    (known : kind = .add ∨ kind = .modify) : (bare name kind).IsWorded where
  name := named
  kind := known
  definition := trivial
  expression := by simp [bare, DefaultClause.expression?]
  comment := trivial

theorem withExpression_isWorded {column : Column} (worded : column.IsWorded) {expression : Value}
    (given : expression.IsNote) : (column.withExpression expression).IsWorded :=
  { worded with
    expression := by
      intro other member
      simp only [withExpression] at member
      split at member
      · cases member
      · exact Option.some.inj member ▸ given }

end Column

/-! ## Rendering -/

/-- A text for an expression has words, so what a default shows has a text exactly if its value, if
it is one, has words that can be written out. -/
theorem DefaultClause.given_ok_iff (blueprint : Blueprint) {clause : DefaultClause}
    (worded : ∀ expression ∈ clause.expression?, expression.IsNote) :
    (∀ value ∈ clause.given?, ∃ text, (blueprint.words value).bind Value.shown = .ok text) ↔
      ∀ value ∈ clause.value?, ∃ words, blueprint.words value = .ok words ∧ words.isWritten := by
  simp only [exists_shown_iff]
  cases clause with
  | none => simp [given?, value?]
  | value given => simp [given?, value?]
  | expression given =>
    have read := blueprint.words_eq_self (worded given rfl).fill
    simp [given?, value?, read, (worded given rfl).isWritten]

namespace Blueprint

theorem columnSql_ok_iff (blueprint : Blueprint) {column : Column} (worded : column.IsWorded) :
    (∃ text, blueprint.columnSql column = .ok text) ↔ column.Reads blueprint := by
  rw [columnSql, exists_columnSqlBy_iff, DefaultClause.given_ok_iff blueprint worded.expression]
  constructor
  · rintro ⟨-, default, type, -⟩
    exact ⟨type, default⟩
  · rintro ⟨type, default⟩
    exact ⟨⟨_, blueprint.shown_note worded.name⟩, default, type,
      Column.exists_commentClause worded.comment,
      Column.exists_definitionClause worded.definition⟩

/-- A worded spec has a fragment exactly if its default has words and these and the numbers in its
type can be written out. -/
theorem specSql_ok_iff (blueprint : Blueprint) {spec : Spec} (worded : spec.IsWorded) :
    (∃ text, blueprint.specSql spec = .ok text) ↔ spec.Reads blueprint := by
  cases spec with
  | column column =>
    exact (blueprint.columnSql_ok_iff worded).trans (by simp [Spec.Reads, Spec.column?])
  | plain spec => simp [specSql, specSqlBy, Spec.Reads, Spec.column?]

/-- Whether all specs of a blueprint are worded. -/
def IsWorded (blueprint : Blueprint) : Prop :=
  ∀ spec ∈ blueprint.specs, spec.IsWorded

theorem empty_isWorded (tablePrefix name : String) : (empty tablePrefix name).IsWorded := by
  simp [IsWorded, empty]

end Blueprint

/-! ## Documented calls -/

/-- Whether the arguments of a call on a blueprint are texts where texts are documented. -/
def TableCall.IsWorded : TableCall → Prop
  | .define _ name _ | .softDeletes name | .foreignId name | .modifyColumn name
  | .dropIndex name => name.IsNote
  | .addColumn name definition => name.IsNote ∧ definition.IsNote
  | .comment text => text.IsNote
  | .renameColumn old new => old.IsNote ∧ new.IsNote
  | .dropColumn names => ∀ name ∈ names, name.IsNote
  | .append spec => spec.column.IsNote ∧ spec.newName.IsNote
  | .timestamps | .foreign _ | .nullable _ | .setDefault _ | .after _ | .first | .addIndex ..
  | .finalize | .addSpecs | .toCreate _ | .toAlter => True

/-- Whether the arguments of a call on a column are texts where texts are documented. -/
def ColumnCall.IsWorded : ColumnCall → Prop
  | .defaultRaw expression => expression.IsNote
  | .comment text => text.IsNote
  | .sql | .nullable _ | .setDefault _ | .useCurrent | .useCurrentOnUpdate | .after _ | .first
  | .addIndex .. | .change => True

namespace Blueprint

/-- Whether a move gives specs texts where texts are documented. Calls on foreign keys give specs
nothing. -/
def Move.IsWorded : Move → Prop
  | .call (.table made) => made.IsWorded
  | .call (.column _ made) => made.IsWorded
  | .call (.key _ _) | .keep _ => True

namespace IsWorded

variable {blueprint : Blueprint}

/-! ## Steps of calls -/

theorem appendSpec (worded : blueprint.IsWorded) {spec : Spec} (added : spec.IsWorded) :
    ∀ other ∈ blueprint.specs ++ [spec], other.IsWorded :=
  forall_mem_append_single worded spec added

theorem updateColumn (worded : blueprint.IsWorded) (ref : ColumnRef) {change : Column → Column}
    (keeps : ∀ column, column.IsWorded → (change column).IsWorded) :
    (blueprint.updateColumn ref change).IsWorded := by
  cases ref with
  | detached index => exact worded
  | attached index =>
    refine forall_mem_modify worded index fun spec kept => ?_
    cases spec with
    | column column => exact keeps column kept
    | plain spec => exact kept

theorem define (worded : blueprint.IsWorded) {name : Value} (named : name.IsNote)
    {type : ColumnType} {defined : Blueprint} {ref : ColumnRef}
    (made : blueprint.define name type = .ok (defined, ref)) : defined.IsWorded := by
  obtain ⟨index, -, -, rfl⟩ | ⟨-, -, rfl⟩ := define_cases made
  · exact worded.updateColumn _ fun _ kept => { kept with }
  · exact worded.appendSpec { Column.bare_isWorded named (.inl rfl) with }

theorem setDefault (worded : blueprint.IsWorded) {ref : ColumnRef} {value : Value}
    {changed : Blueprint} (made : blueprint.setDefault ref value = .ok changed) :
    changed.IsWorded := by
  obtain ⟨-, rfl⟩ | ⟨column, -, -, rfl⟩ := setDefault_cases made
  · exact worded
  · exact worded.updateColumn _ fun _ kept =>
      { kept with expression := by simp [Column.withDefault, DefaultClause.expression?] }

theorem placeAfter (worded : blueprint.IsWorded) {ref : ColumnRef} {other : Value}
    {changed : Blueprint} (made : blueprint.placeAfter ref other = .ok changed) :
    changed.IsWorded := by
  obtain ⟨name, -, made⟩ := bind_eq_ok.mp made
  exact Except.ok.inj made ▸ worded.updateColumn _ fun _ kept => { kept with }

theorem addIndex (worded : blueprint.IsWorded) {kind : IndexKind} {columns name : Value}
    {changed : Blueprint} (made : blueprint.addIndex kind columns name = .ok changed) :
    changed.IsWorded := by
  obtain ⟨names, -, made⟩ := bind_eq_ok.mp made
  split at made
  · exact Except.ok.inj made ▸ worded
  · obtain ⟨label, -, made⟩ := bind_eq_ok.mp made
    obtain ⟨texts, -, made⟩ := bind_eq_ok.mp made
    exact Except.ok.inj made ▸ worded.appendSpec (Spec.constraint_isWorded _)

theorem addTimestamps (worded : blueprint.IsWorded) {changed : Blueprint}
    (made : blueprint.addTimestamps = .ok changed) : changed.IsWorded := by
  have moment (column : Column) (kept : column.IsWorded) :
      (column.withExpression (.text currentMoment)).IsWorded :=
    Column.withExpression_isWorded kept trivial
  have name (text : String) : (Value.text text).IsNote := trivial
  obtain ⟨⟨first, firstRef⟩, defined, made⟩ := bind_eq_ok.mp made
  have stamped := (worded.define (name _) defined).updateColumn firstRef moment
  obtain ⟨⟨second, secondRef⟩, defined, made⟩ := bind_eq_ok.mp made
  exact Except.ok.inj made ▸ (stamped.define (name _) defined).updateColumn secondRef
    fun column kept => { moment column kept with }

theorem callDefine (worded : blueprint.IsWorded) (column : TypedColumn) {name : Value}
    (named : name.IsNote) (default : Value) :
    (blueprint.callDefine column name default).blueprint.IsWorded := by
  obtain ⟨fault, -, outcome⟩ | ⟨type, defined, ref, declared, made⟩ :=
    blueprint.callDefine_cases column name default
  · rw [outcome]
    exact worded
  · have kept := worded.define named made
    have numbered : (defined.numbered ref column).IsWorded := by
      unfold Blueprint.numbered
      split
      · exact kept.updateColumn _ fun _ kept => { kept with }
      · exact kept
    rw [callDefine_eq declared made]
    split
    · exact numbered
    · exact attempt_keeps numbered (fun _ given => numbered.setDefault given) _

theorem editCurrent (worded : blueprint.IsWorded) {change : Column → Column}
    (keeps : ∀ column, column.IsWorded → (change column).IsWorded) :
    (blueprint.editCurrent change).blueprint.IsWorded :=
  onCurrent_keeps worded fun ref _ made => Except.ok.inj made ▸ worded.updateColumn ref keeps

theorem dropColumns (worded : blueprint.IsWorded) {names : List Value}
    (each : ∀ name ∈ names, name.IsNote) :
    (names.foldl (fun dropped name => dropped.appendPlain ⟨.drop, name, "", .null, false⟩)
      blueprint).IsWorded :=
  List.foldlRecOn names _ worded fun _ kept name member =>
    kept.appendSpec ⟨each name member, trivial⟩

theorem callForeign (worded : blueprint.IsWorded) (column : Value) :
    (blueprint.callForeign column).blueprint.IsWorded := by
  simp only [Blueprint.callForeign]
  split <;> exact worded

theorem finalize (worded : blueprint.IsWorded) : blueprint.finalize.blueprint.IsWorded := by
  obtain ⟨texts, settled⟩ := blueprint.settleKeys_specs blueprint.pendingKeys
  have further : ∀ spec ∈ blueprint.specs ++ texts.map Spec.constraint, spec.IsWorded := by
    intro spec member
    rcases List.mem_append.mp member with found | found
    · exact worded spec found
    · obtain ⟨text, -, rfl⟩ := List.mem_map.mp found
      exact Spec.constraint_isWorded text
  simp only [Blueprint.finalize]
  split <;> rw [settled] <;> exact further

/-! ## Moves -/

theorem callTable (worded : blueprint.IsWorded) {call : TableCall} (documented : call.IsWorded) :
    (blueprint.callTable call).blueprint.IsWorded := by
  cases call with
  | define column name default => exact worded.callDefine column documented default
  | timestamps => exact attempt_keeps worded (fun _ made => worded.addTimestamps made) _
  | softDeletes name =>
    simp only [Blueprint.callTable]
    cases made : blueprint.defineMoment name with
    | error fault => exact worded
    | ok defined =>
      exact (worded.define documented made).updateColumn _ fun _ kept => { kept with }
  | addColumn name definition =>
    have bare := Column.bare_isWorded documented.1 (.inl rfl : SpecKind.add = .add ∨ _)
    exact worded.appendSpec { bare with definition := documented.2 }
  | foreignId column =>
    simp only [Blueprint.callTable]
    cases made : blueprint.define column .unsignedInteger with
    | error fault => exact worded
    | ok defined =>
      have kept : defined.1.IsWorded := worded.define documented made
      exact kept
  | «foreign» column => exact worded.callForeign column
  | nullable value => exact worded.editCurrent fun _ kept => { kept with }
  | setDefault value => exact onCurrent_keeps worded fun _ _ made => worded.setDefault made
  | comment text => exact worded.editCurrent fun _ kept => { kept with comment := documented }
  | after column => exact onCurrent_keeps worded fun _ _ made => worded.placeAfter made
  | first => exact worded.editCurrent fun _ kept => { kept with }
  | addIndex kind columns name => exact attempt_keeps worded (fun _ made => worded.addIndex made) _
  | renameColumn old new => exact worded.appendSpec documented
  | modifyColumn name => exact worded.appendSpec (Column.bare_isWorded documented (.inr rfl))
  | dropColumn names => exact worded.dropColumns documented
  | dropIndex name => exact worded.appendSpec ⟨documented, trivial⟩
  | append spec => exact worded.appendSpec documented
  | finalize => exact worded.finalize
  | addSpecs => exact worded
  | toCreate options => exact worded.finalize
  | toAlter =>
    change blueprint.toAlter.blueprint.IsWorded
    rw [toAlter_blueprint]
    exact worded.finalize

theorem callColumn (worded : blueprint.IsWorded) (ref : ColumnRef) {call : ColumnCall}
    (documented : call.IsWorded) : (blueprint.callColumn ref call).blueprint.IsWorded := by
  cases call with
  | sql =>
    simp only [Blueprint.callColumn]
    split <;> exact worded
  | nullable value => exact worded.updateColumn ref fun _ kept => { kept with }
  | setDefault value => exact attempt_keeps worded (fun _ made => worded.setDefault made) _
  | defaultRaw expression =>
    exact worded.updateColumn ref fun _ kept => Column.withExpression_isWorded kept documented
  | useCurrent =>
    exact worded.updateColumn ref fun _ kept => Column.withExpression_isWorded kept trivial
  | useCurrentOnUpdate => exact worded.updateColumn ref fun _ kept => { kept with }
  | comment text => exact worded.updateColumn ref fun _ kept => { kept with comment := documented }
  | after other => exact attempt_keeps worded (fun _ made => worded.placeAfter made) _
  | first => exact worded.updateColumn ref fun _ kept => { kept with }
  | addIndex kind name => exact attempt_keeps worded (fun _ made => worded.addIndex made) _
  | change => exact worded.updateColumn ref fun _ kept => { kept with kind := .inr rfl }

theorem moved (worded : blueprint.IsWorded) {move : Move} (documented : move.IsWorded) :
    (blueprint.moved move).IsWorded := by
  cases move with
  | keep values =>
    obtain ⟨lists, same⟩ := keepAll_lists blueprint values
    rw [Blueprint.moved, same]
    exact worded
  | call call =>
    cases call with
    | table call => exact worded.callTable documented
    | column ref call => exact worded.callColumn ref documented
    | key index call =>
      obtain ⟨foreignKeys, -, same⟩ := blueprint.callKey_specs index call
      change (blueprint.callKey index call).blueprint.IsWorded
      rw [same]
      exact worded

/-- Documented moves in turn leave a worded blueprint. -/
theorem movedAll (worded : blueprint.IsWorded) {moves : List Move}
    (each : ∀ move ∈ moves, move.IsWorded) : (blueprint.movedAll moves).IsWorded := by
  induction moves generalizing blueprint with
  | nil => exact worded
  | cons move moves ih =>
    obtain ⟨documented, others⟩ := List.forall_mem_cons.mp each
    exact ih (worded.moved documented) others

end IsWorded

end Blueprint

end Tablewright
