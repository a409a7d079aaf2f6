import Mathlib.Logic.Relation
import Tablewright.Blueprint.Call
import Tablewright.Proofs.Blueprint.Statement
import Tablewright.Script.Run

/-! # Edits

Whatever a call does to a blueprint, it does by edits of a few kinds: specs are added behind the
others, columns and foreign keys are changed in place, foreign keys are opened and settled. A column
in turn is changed in three ways only. So what every edit keeps is kept by every call, and by any
history of calls, whether they succeed or fail.
-/

namespace Tablewright

open Relation (ReflTransGen)

/-- Whether a column is a change that awaits its type. -/
def Column.AwaitsType (column : Column) : Prop :=
  column.kind = .modify ∧ column.isTyped = false

instance (column : Column) : Decidable column.AwaitsType :=
  inferInstanceAs (Decidable (_ ∧ _))

/-- What a column is apart from its remaining clauses. -/
structure Column.Core where
  name : Value
  kind : SpecKind
  type : Option ColumnType
  definition : Value
  defaultClause : DefaultClause

/-- The name, the kind, the type and the default of a column. -/
def Column.core (column : Column) : Core :=
  ⟨column.name, column.kind, column.type, column.definition, column.defaultClause⟩

/-- The columns that a call adds, when it gives some types. -/
inductive Column.Added (gives : ColumnType → Prop) : Column → Prop
  | change (name : Value) : Added gives (bare name .modify)
  | raw (name definition : Value) : Added gives (raw name definition)
  | typed (name : Value) {type : ColumnType} (given : gives type) : Added gives (typed name type)

/-- What a call does to a column: it gives the type that is awaited, it gives a default that the
type takes, or it changes clauses that have nothing to do with the type. -/
inductive Column.Edit (gives : ColumnType → Prop) (column : Column) : Column → Prop
  | typed {type : ColumnType} (given : gives type) (awaits : column.AwaitsType) :
    Edit gives column (column.withType type)
  | default {value : Value} (taken : column.defaultProblems value = []) :
    Edit gives column (column.withDefault value)
  | clause {edited : Column} (name : edited.name = column.name) (type : edited.type = column.type)
    (definition : edited.definition = column.definition)
    (kind : edited.kind = column.kind ∨ edited.kind = .modify)
    (default : edited.defaultClause = column.defaultClause ∨
      edited.defaultClause.value? = none) :
    Edit gives column edited

/-- The types that a call on a blueprint gives to columns. -/
def TableCall.Gives (blueprint : Blueprint) : TableCall → ColumnType → Prop
  | .define column _ _ => fun type => blueprint.columnType column = .ok type
  | .timestamps | .softDeletes _ => fun type => type = .dateTime
  | .foreignId _ => fun type => type = .unsignedInteger
  | _ => fun _ => False

/-- The types that a call gives to columns. -/
def Call.Gives (blueprint : Blueprint) : Call → ColumnType → Prop
  | .table call => call.Gives blueprint
  | _ => fun _ => False

namespace Blueprint

/-- One thing that is done to a blueprint. -/
inductive Edit (gives : ColumnType → Prop) (blueprint : Blueprint) : Blueprint → Prop
  | plain (spec : PlainSpec) : Edit gives blueprint (blueprint.appendPlain spec)
  | column {column : Column} (added : column.Added gives) :
    Edit gives blueprint (blueprint.appendColumn column)
  | update {ref : ColumnRef} {change : Column → Column}
    (each : ∀ column, blueprint.column? ref = some column → column.Edit gives (change column)) :
    Edit gives blueprint (blueprint.updateColumn ref change)
  | key (index : Nat) (change : ForeignKey → ForeignKey) :
    Edit gives blueprint (blueprint.updateKey index change)
  | opened (column : Value) : Edit gives blueprint (blueprint.openKey column)
  | openedDetached (name : String) : Edit gives blueprint (blueprint.openDetachedKey name)
  | settled : Edit gives blueprint blueprint.closeRound
  | kept (lists : List (List Value)) : Edit gives blueprint { blueprint with lists }

/-- Any number of edits in turn. -/
def Edits (gives : ColumnType → Prop) : Blueprint → Blueprint → Prop :=
  ReflTransGen (Edit gives)

variable {blueprint : Blueprint} {gives : ColumnType → Prop}

theorem Edits.refl : Edits gives blueprint blueprint :=
  ReflTransGen.refl

theorem Edit.edits {edited : Blueprint} (edit : Edit gives blueprint edited) :
    Edits gives blueprint edited :=
  .single edit

theorem Edits.then {edited further : Blueprint} (edits : Edits gives blueprint edited)
    (edit : Edit gives edited further) : Edits gives blueprint further :=
  ReflTransGen.tail edits edit

/-- What every edit keeps, edits in turn keep. -/
theorem Edits.keeps {holds : Blueprint → Prop} {edited : Blueprint}
    (edits : Edits gives blueprint edited)
    (each : ∀ before after, Edit gives before after → holds before → holds after)
    (initially : holds blueprint) : holds edited := by
  induction edits with
  | refl => exact initially
  | tail _ edit ih => exact each _ _ edit ih

/-! ## Edits of columns -/

theorem column?_attached {index : Nat} {column : Column} :
    blueprint.column? (.attached index) = some column ↔
      blueprint.specs[index]? = some (.column column) := by
  simp only [column?, Option.bind_eq_some_iff]
  constructor
  · rintro ⟨spec, found, same⟩
    cases spec with
    | column other => exact Option.some.inj same ▸ found
    | plain other => cases same
  · intro found
    exact ⟨.column column, found, rfl⟩

theorem column?_updateColumn (ref : ColumnRef) (change : Column → Column) :
    (blueprint.updateColumn ref change).column? ref = (blueprint.column? ref).map change := by
  cases ref with
  | attached index =>
    simp only [updateColumn, column?, List.getElem?_modify_eq]
    cases blueprint.specs[index]? with
    | none => rfl
    | some spec => cases spec <;> rfl
  | detached index =>
    simp only [updateColumn, column?, List.getElem?_modify_eq]
    rfl

theorem column?_updateColumn_other {index position : Nat} (apart : position ≠ index)
    (change : Column → Column) :
    (blueprint.updateColumn (.attached index) change).column? (.attached position) =
      blueprint.column? (.attached position) := by
  simp only [updateColumn, column?]
  rw [List.getElem?_modify_ne _ _ (Ne.symm apart)]

/-- A column is awaited by a name if it is the one defined last, awaits its type, and has the name
or an equal one. -/
theorem awaiting?_eq_some {name : Value} {index : Nat}
    (awaited : blueprint.awaiting? name = .ok (some index)) :
    blueprint.current = some index ∧ ∃ column,
      blueprint.column? (.attached index) = some column ∧ column.AwaitsType ∧
        blueprint.equal column.name name = .ok true := by
  unfold awaiting? at awaited
  cases found : blueprint.currentColumn? with
  | none => simp [found, pure, Except.pure] at awaited
  | some column =>
    obtain ⟨position, current, present⟩ := Option.bind_eq_some_iff.mp found
    simp only [found] at awaited
    split at awaited
    · rename_i change
      obtain ⟨isMeant, compared, awaited⟩ := bind_eq_ok.mp awaited
      have meant : (isMeant && !column.isTyped) = true ∧ blueprint.current = some index := by
        split at awaited
        · exact ⟨‹_›, Except.ok.inj awaited⟩
        · cases awaited
      obtain ⟨both, same⟩ := meant
      obtain ⟨rfl, untyped⟩ := Bool.and_eq_true_iff.mp both
      obtain rfl := Option.some.inj (current.symm.trans same)
      exact ⟨same, column, present, ⟨change, by simpa using untyped⟩, compared⟩
    · cases awaited

/-- A definition completes the column that awaits it, or adds a column. -/
theorem define_cases {name : Value} {type : ColumnType} {defined : Blueprint} {ref : ColumnRef}
    (made : blueprint.define name type = .ok (defined, ref)) :
    (∃ index, blueprint.awaiting? name = .ok (some index) ∧ ref = .attached index ∧
      defined = blueprint.updateColumn (.attached index) (Column.withType · type)) ∨
    (blueprint.awaiting? name = .ok none ∧ ref = .attached blueprint.specs.length ∧
      defined = blueprint.appendColumn (Column.typed name type)) := by
  obtain ⟨awaiting, found, made⟩ := bind_eq_ok.mp made
  cases awaiting with
  | some index =>
    obtain ⟨rfl, rfl⟩ := Prod.mk.inj (Except.ok.inj made)
    exact .inl ⟨index, found, rfl, rfl⟩
  | none =>
    obtain ⟨rfl, rfl⟩ := Prod.mk.inj (Except.ok.inj made)
    exact .inr ⟨found, rfl, rfl⟩

/-- The column that is defined has the type afterwards. If it was awaited, it has the default that
it had before. -/
theorem define_column {name : Value} {type : ColumnType} {defined : Blueprint} {ref : ColumnRef}
    (made : blueprint.define name type = .ok (defined, ref)) :
    ∃ found, defined.column? ref = some found ∧ found.type = some type ∧
      ∀ index, blueprint.awaiting? name = .ok (some index) → ref = .attached index ∧
        ∃ before, blueprint.column? ref = some before ∧
          found.defaultClause = before.defaultClause := by
  obtain ⟨index, awaited, rfl, rfl⟩ | ⟨unawaited, rfl, rfl⟩ := define_cases made
  · obtain ⟨-, before, present, -⟩ := awaiting?_eq_some awaited
    refine ⟨before.withType type, ?_, rfl, fun other same => ?_⟩
    · rw [column?_updateColumn, present]
      rfl
    · obtain rfl := Option.some.inj (Except.ok.inj (awaited.symm.trans same))
      exact ⟨rfl, before, present, rfl⟩
  · refine ⟨.typed name type, by simp [column?, appendColumn, Spec.column?], rfl, ?_⟩
    intro index awaited
    cases unawaited.symm.trans awaited

theorem define_edit {name : Value} {type : ColumnType} (given : gives type) {defined : Blueprint}
    {ref : ColumnRef} (made : blueprint.define name type = .ok (defined, ref)) :
    Edit gives blueprint defined := by
  obtain ⟨index, awaited, rfl, rfl⟩ | ⟨-, rfl, rfl⟩ := define_cases made
  · obtain ⟨-, column, present, awaits, -⟩ := awaiting?_eq_some awaited
    refine .update fun other found => ?_
    obtain rfl := Option.some.inj (present.symm.trans found)
    exact .typed given awaits
  · exact .column (.typed name given)

/-- Changing clauses that have nothing to do with the type is an edit. -/
theorem clause_edit (ref : ColumnRef) {change : Column → Column}
    (name : ∀ column, (change column).name = column.name)
    (type : ∀ column, (change column).type = column.type)
    (definition : ∀ column, (change column).definition = column.definition)
    (kind : ∀ column, (change column).kind = column.kind ∨ (change column).kind = .modify)
    (default : ∀ column, (change column).defaultClause = column.defaultClause ∨
      (change column).defaultClause.value? = none) :
    Edit gives blueprint (blueprint.updateColumn ref change) :=
  .update fun column _ => .clause (name column) (type column) (definition column) (kind column)
    (default column)

/-- Changing a clause that is neither the type nor the default is an edit. -/
theorem remark_edit (ref : ColumnRef) {change : Column → Column}
    (same : ∀ column, (change column).core = column.core) :
    Edit gives blueprint (blueprint.updateColumn ref change) := by
  have kept (column : Column) := Column.Core.mk.inj (same column)
  exact clause_edit ref (fun column => (kept column).1) (fun column => (kept column).2.2.1)
    (fun column => (kept column).2.2.2.1) (fun column => .inl (kept column).2.1)
    fun column => .inl (kept column).2.2.2.2

theorem withExpression_value? (column : Column) (expression : Value) :
    (column.withExpression expression).defaultClause.value? = none := by
  simp only [Column.withExpression]
  split <;> rfl

theorem expression_edit (ref : ColumnRef) (expression : Value) :
    Edit gives blueprint (blueprint.updateColumn ref (Column.withExpression · expression)) :=
  clause_edit ref (fun _ => rfl) (fun _ => rfl) (fun _ => rfl) (fun _ => .inl rfl)
    fun column => .inr (withExpression_value? column expression)

theorem refresh_edit (ref : ColumnRef) (expression : Value) :
    Edit gives blueprint (blueprint.updateColumn ref fun column =>
      { column.withExpression expression with refreshed := true }) :=
  clause_edit ref (fun _ => rfl) (fun _ => rfl) (fun _ => rfl) (fun _ => .inl rfl)
    fun column => .inr (withExpression_value? column expression)

/-- A default is given to a column if its type takes it. -/
theorem setDefault_cases {ref : ColumnRef} {value : Value} {changed : Blueprint}
    (made : blueprint.setDefault ref value = .ok changed) :
    (blueprint.column? ref = none ∧ changed = blueprint) ∨
    (∃ column, blueprint.column? ref = some column ∧ column.defaultProblems value = [] ∧
      changed = blueprint.updateColumn ref (Column.withDefault · value)) := by
  unfold setDefault at made
  split at made
  · exact .inl ⟨‹_›, (Except.ok.inj made).symm⟩
  · rename_i column found
    split at made
    · exact .inr ⟨column, found, ‹_›, (Except.ok.inj made).symm⟩
    · obtain ⟨_, -, made⟩ := bind_eq_ok.mp made
      obtain ⟨_, -, made⟩ := bind_eq_ok.mp made
      cases made

theorem setDefault_edits {ref : ColumnRef} {value : Value} {changed : Blueprint}
    (made : blueprint.setDefault ref value = .ok changed) : Edits gives blueprint changed := by
  obtain ⟨-, rfl⟩ | ⟨column, found, taken, rfl⟩ := setDefault_cases made
  · exact .refl
  · refine Edit.edits (.update fun other present => ?_)
    obtain rfl := Option.some.inj (found.symm.trans present)
    exact .default taken

theorem placeAfter_edits {ref : ColumnRef} {other : Value} {changed : Blueprint}
    (made : blueprint.placeAfter ref other = .ok changed) : Edits gives blueprint changed := by
  obtain ⟨name, -, made⟩ := bind_eq_ok.mp made
  obtain rfl := Except.ok.inj made
  exact Edit.edits (remark_edit ref fun _ => rfl)

/-! ## Edits of the list of specs -/

theorem constraint_edit (text : String) :
    Edit gives blueprint (blueprint.appendConstraint text) :=
  .plain ⟨.add, .null, text, .null, true⟩

theorem addIndex_edits {kind : IndexKind} {columns name : Value} {changed : Blueprint}
    (made : blueprint.addIndex kind columns name = .ok changed) :
    Edits gives blueprint changed := by
  obtain ⟨names, -, made⟩ := bind_eq_ok.mp made
  split at made
  · exact Except.ok.inj made ▸ .refl
  · obtain ⟨label, -, made⟩ := bind_eq_ok.mp made
    obtain ⟨texts, -, made⟩ := bind_eq_ok.mp made
    exact Except.ok.inj made ▸ (constraint_edit _).edits

theorem settleKeys_edits (blueprint : Blueprint) (keys : List ForeignKey) :
    Edits gives blueprint (blueprint.settleKeys keys).blueprint := by
  induction keys generalizing blueprint with
  | nil => exact .refl
  | cons key keys ih =>
    simp only [settleKeys]
    split
    · split
      · exact (constraint_edit _).edits.trans (ih _)
      · exact .refl
    · split
      · exact ih blueprint
      · exact .refl

theorem finalize_edits (blueprint : Blueprint) :
    Edits gives blueprint blueprint.finalize.blueprint := by
  have settled : Edits gives blueprint (blueprint.settleKeys blueprint.pendingKeys).blueprint :=
    settleKeys_edits blueprint blueprint.pendingKeys
  simp only [finalize]
  split
  · exact settled.then .settled
  · exact settled

theorem dropColumns_edits (blueprint : Blueprint) (names : List Value) :
    Edits gives blueprint
      (names.foldl (fun dropped name => dropped.appendPlain ⟨.drop, name, "", .null, false⟩)
        blueprint) :=
  List.foldlRecOn names _ .refl fun _ edits _ _ => edits.then (.plain _)

/-! ## Calls -/

/-- What holds before a call and of every blueprint that it can make holds after it, even if it
fails. -/
theorem attempt_keeps {holds : Blueprint → Prop} (before : holds blueprint)
    {changed : Except Fault Blueprint} (each : ∀ after, changed = .ok after → holds after)
    (target : Target) : holds (blueprint.attempt changed target).blueprint := by
  cases changed with
  | ok after => exact each after rfl
  | error fault => exact before

/-- The same for a call on the column defined last, even if there is none. -/
theorem onCurrent_keeps {holds : Blueprint → Prop} (before : holds blueprint)
    {call : ColumnRef → Except Fault Blueprint}
    (each : ∀ ref after, call ref = .ok after → holds after) :
    holds (blueprint.onCurrent call).blueprint := by
  unfold onCurrent
  split
  · exact before
  · exact attempt_keeps before (each _) _

theorem editCurrent_edits {change : Column → Column}
    (same : ∀ column, (change column).core = column.core) :
    Edits gives blueprint (blueprint.editCurrent change).blueprint :=
  onCurrent_keeps .refl fun ref _ made => Except.ok.inj made ▸ (remark_edit ref same).edits

theorem addTimestamps_edits (given : gives .dateTime) {changed : Blueprint}
    (made : blueprint.addTimestamps = .ok changed) : Edits gives blueprint changed := by
  obtain ⟨⟨first, firstRef⟩, defined, made⟩ := bind_eq_ok.mp made
  have stamped := (define_edit given defined).edits.then
    (expression_edit firstRef (.text currentMoment))
  obtain ⟨⟨second, secondRef⟩, defined, made⟩ := bind_eq_ok.mp made
  exact Except.ok.inj made ▸ (stamped.then (define_edit given defined)).then
    (refresh_edit secondRef (.text currentMoment))

/-- The blueprint after the definition of a column, before its default. -/
def numbered (defined : Blueprint) (ref : ColumnRef) (column : TypedColumn) : Blueprint :=
  if column.isNumbered then
    defined.updateColumn ref fun column => { column with autoIncrement := true, primaryKey := true }
  else defined

/-- A call that defines a column goes on with its default unless that is null. -/
theorem callDefine_eq {column : TypedColumn} {name : Value} {type : ColumnType}
    {defined : Blueprint} {ref : ColumnRef} (typed : blueprint.columnType column = .ok type)
    (made : blueprint.define name type = .ok (defined, ref)) (default : Value) :
    blueprint.callDefine column name default =
      if default = .null then (defined.numbered ref column).awaits (.column ref)
      else (defined.numbered ref column).attempt
        ((defined.numbered ref column).setDefault ref default) (.column ref) := by
  simp only [callDefine, typed, Except.bind, made, numbered]

/-- A call that defines a column fails and does nothing, or defines the column. -/
theorem callDefine_cases (blueprint : Blueprint) (column : TypedColumn) (name default : Value) :
    (∃ fault, (blueprint.columnType column).bind (blueprint.define name) = .error fault ∧
      blueprint.callDefine column name default = blueprint.asked (.error fault)) ∨
    ∃ type defined ref, blueprint.columnType column = .ok type ∧
      blueprint.define name type = .ok (defined, ref) := by
  cases outcome : (blueprint.columnType column).bind (blueprint.define name) with
  | error fault =>
    refine .inl ⟨fault, rfl, ?_⟩
    simp only [callDefine, outcome]
  | ok defined =>
    obtain ⟨type, typed, made⟩ := except_bind_eq_ok.mp outcome
    exact .inr ⟨type, defined.1, defined.2, typed, made⟩

/-- Numbering the rows of a column leaves its name, kind, type and default alone. -/
theorem column?_numbered {defined : Blueprint} {ref : ColumnRef} {found : Column}
    (present : defined.column? ref = some found) (column : TypedColumn) :
    ∃ edited, (defined.numbered ref column).column? ref = some edited ∧
      edited.core = found.core := by
  unfold numbered
  split
  · refine ⟨{ found with autoIncrement := true, primaryKey := true }, ?_, rfl⟩
    rw [column?_updateColumn, present]
    rfl
  · exact ⟨found, present, rfl⟩

theorem numbered_edits (defined : Blueprint) (ref : ColumnRef) (column : TypedColumn) :
    Edits gives defined (defined.numbered ref column) := by
  unfold numbered
  split
  · exact Edit.edits (remark_edit ref fun _ => rfl)
  · exact .refl

theorem callDefine_edits (column : TypedColumn) (name default : Value)
    (given : ∀ type, blueprint.columnType column = .ok type → gives type) :
    Edits gives blueprint (blueprint.callDefine column name default).blueprint := by
  obtain ⟨fault, -, outcome⟩ | ⟨type, defined, ref, typed, made⟩ :=
    blueprint.callDefine_cases column name default
  · rw [outcome]
    exact .refl
  · have edits :=
      (define_edit (given type typed) made).edits.trans (numbered_edits defined ref column)
    rw [callDefine_eq typed made]
    split
    · exact edits
    · exact edits.trans (attempt_keeps .refl (fun _ given => setDefault_edits given) _)

theorem callForeign_edits (blueprint : Blueprint) (column : Value) :
    Edits gives blueprint (blueprint.callForeign column).blueprint := by
  simp only [callForeign, awaits, answered]
  split
  · exact (Edit.openedDetached _).edits
  · exact (Edit.opened _).edits
  · exact (Edit.opened _).edits

theorem callTable_edits (blueprint : Blueprint) (call : TableCall) :
    Edits (call.Gives blueprint) blueprint (blueprint.callTable call).blueprint := by
  cases call with
  | define column name default => exact callDefine_edits column name default fun _ typed => typed
  | timestamps =>
    have given : TableCall.timestamps.Gives blueprint .dateTime := rfl
    exact attempt_keeps .refl (fun _ made => addTimestamps_edits given made) _
  | softDeletes name =>
    have given : (TableCall.softDeletes name).Gives blueprint .dateTime := rfl
    simp only [callTable]
    cases made : blueprint.defineMoment name with
    | error fault => exact .refl
    | ok defined =>
      exact Edits.then (define_edit given made).edits (remark_edit _ fun _ => rfl)
  | addColumn name definition => exact (Edit.column (.raw name definition)).edits
  | foreignId column =>
    have given : (TableCall.foreignId column).Gives blueprint .unsignedInteger := rfl
    simp only [callTable]
    cases made : blueprint.define column .unsignedInteger with
    | error fault => exact .refl
    | ok defined => exact (define_edit given made).edits.then (.opened _)
  | foreign column => exact blueprint.callForeign_edits column
  | nullable value => exact editCurrent_edits fun _ => rfl
  | setDefault value => exact onCurrent_keeps .refl fun _ _ made => setDefault_edits made
  | comment text => exact editCurrent_edits fun _ => rfl
  | after column => exact onCurrent_keeps .refl fun _ _ made => placeAfter_edits made
  | first => exact editCurrent_edits fun _ => rfl
  | addIndex kind columns name => exact attempt_keeps .refl (fun _ made => addIndex_edits made) _
  | renameColumn old new => exact (Edit.plain _).edits
  | modifyColumn name => exact (Edit.column (.change name)).edits
  | dropColumn names => exact blueprint.dropColumns_edits names
  | dropIndex name => exact (Edit.plain _).edits
  | append spec => exact (Edit.plain _).edits
  | finalize => exact blueprint.finalize_edits
  | addSpecs => exact .refl
  | toCreate options => exact blueprint.finalize_edits
  | toAlter =>
    change Edits _ blueprint blueprint.toAlter.blueprint
    rw [toAlter_blueprint]
    exact blueprint.finalize_edits

theorem callColumn_edits (blueprint : Blueprint) (ref : ColumnRef) (call : ColumnCall) :
    Edits gives blueprint (blueprint.callColumn ref call).blueprint := by
  have remark {change : Column → Column}
      (same : ∀ column, (change column).core = column.core) :
      Edits gives blueprint (blueprint.updateColumn ref change) :=
    (remark_edit ref same).edits
  cases call with
  | sql =>
    simp only [callColumn]
    split <;> exact .refl
  | nullable value => exact remark fun _ => rfl
  | setDefault value => exact attempt_keeps .refl (fun _ made => setDefault_edits made) _
  | defaultRaw expression => exact (expression_edit ref expression).edits
  | useCurrent => exact (expression_edit ref _).edits
  | useCurrentOnUpdate => exact remark fun _ => rfl
  | comment text => exact remark fun _ => rfl
  | after other => exact attempt_keeps .refl (fun _ made => placeAfter_edits made) _
  | first => exact remark fun _ => rfl
  | addIndex kind name => exact attempt_keeps .refl (fun _ made => addIndex_edits made) _
  | change =>
    exact Edit.edits (clause_edit ref (fun _ => rfl) (fun _ => rfl) (fun _ => rfl)
      (fun _ => .inr rfl) fun _ => .inl rfl)

theorem editKey_edits (blueprint : Blueprint) (index : Nat) (text : Except Fault String)
    (change : String → ForeignKey → ForeignKey) :
    Edits gives blueprint (blueprint.editKey index text change).blueprint := by
  refine attempt_keeps .refl (fun changed made => ?_) _
  obtain ⟨found, -, rfl⟩ := map_eq_ok.mp made
  exact (Edit.key index _).edits

theorem askKey_blueprint (blueprint : Blueprint) (index : Nat)
    (question : ForeignKey → Except Fault String) :
    (blueprint.askKey index question).blueprint = blueprint := by
  unfold askKey
  split <;> rfl

theorem callKey_edits (blueprint : Blueprint) (index : Nat) (call : KeyCall) :
    Edits gives blueprint (blueprint.callKey index call).blueprint := by
  cases call with
  | references column => exact (Edit.key index _).edits
  | on table => exact blueprint.editKey_edits index _ _
  | onDelete action => exact blueprint.editKey_edits index _ _
  | onUpdate action => exact blueprint.editKey_edits index _ _
  | constraintName =>
    simp only [callKey, askKey_blueprint]
    exact .refl
  | sql =>
    simp only [callKey, askKey_blueprint]
    exact .refl

/-- A call does nothing but edits, and gives columns no types but its own. -/
theorem perform_edits (blueprint : Blueprint) (call : Call) :
    Edits (call.Gives blueprint) blueprint (blueprint.perform call).blueprint := by
  cases call with
  | table call => exact blueprint.callTable_edits call
  | column ref call => exact blueprint.callColumn_edits ref call
  | key index call => exact blueprint.callKey_edits index call

/-! ## Kept lists -/

mutual

/-- Keeping the lists in a value adds to the lists and leaves all else alone. -/
theorem keep_lists (blueprint : Blueprint) : (value : Value) →
    ∃ lists, (blueprint.keep value).1 = { blueprint with lists }
  | .list values => by
    obtain ⟨lists, same⟩ := keepAll_lists blueprint values
    simp only [keep, keepList, same]
    split
    · exact ⟨_, rfl⟩
    · exact ⟨lists, rfl⟩
  | .null | .bool _ | .int _ | .float _ | .decimal _ | .text _ | .bytes _ | .date _ | .dateTime _
  | .map _ | .action _ | .mention _ => ⟨blueprint.lists, rfl⟩

theorem keepAll_lists (blueprint : Blueprint) : (values : List Value) →
    ∃ lists, (blueprint.keepAll values).1 = { blueprint with lists }
  | [] => ⟨blueprint.lists, rfl⟩
  | value :: values => by
    obtain ⟨first, kept⟩ := keep_lists blueprint value
    obtain ⟨rest, same⟩ := keepAll_lists { blueprint with lists := first } values
    refine ⟨rest, ?_⟩
    simp only [keepAll, kept]
    exact same

end

/-! ## Histories -/

/-- What happens to a blueprint: a call is performed, or lists in arguments and answers are kept. -/
inductive Move where
  | call (call : Call)
  | keep (values : List Value)

/-- The blueprint after a move. A call that fails is a move as well. -/
def moved (blueprint : Blueprint) : Move → Blueprint
  | .call call => (blueprint.perform call).blueprint
  | .keep values => (blueprint.keepAll values).1

/-- The blueprint after moves in turn. -/
def movedAll (blueprint : Blueprint) (moves : List Move) : Blueprint :=
  moves.foldl moved blueprint

@[simp] theorem movedAll_nil (blueprint : Blueprint) : blueprint.movedAll [] = blueprint := rfl

@[simp] theorem movedAll_append (blueprint : Blueprint) (earlier later : List Move) :
    blueprint.movedAll (earlier ++ later) = (blueprint.movedAll earlier).movedAll later :=
  List.foldl_append

@[simp] theorem movedAll_cons (blueprint : Blueprint) (move : Move) (moves : List Move) :
    blueprint.movedAll (move :: moves) = (blueprint.moved move).movedAll moves := rfl

/-- What every edit keeps is kept through any history. -/
theorem movedAll_keeps {holds : Blueprint → Prop}
    (each : ∀ gives before after, Edit gives before after → holds before → holds after)
    (initially : holds blueprint) (moves : List Move) : holds (blueprint.movedAll moves) := by
  induction moves generalizing blueprint with
  | nil => exact initially
  | cons move moves ih =>
    refine ih ?_
    cases move with
    | call call => exact (blueprint.perform_edits call).keeps (each _) initially
    | keep values =>
      obtain ⟨lists, same⟩ := keepAll_lists blueprint values
      rw [moved, same]
      exact each (fun _ => False) _ _ (.kept lists) initially

end Blueprint

/-! ## Scripts -/

namespace Script

open Blueprint

/-- Whether one blueprint comes from another by moves. -/
def Comes (blueprint reached : Blueprint) : Prop :=
  ∃ moves, reached = blueprint.movedAll moves

variable {blueprint : Blueprint}

theorem Comes.refl : Comes blueprint blueprint :=
  ⟨[], rfl⟩

theorem Comes.trans {middle reached : Blueprint} (first : Comes blueprint middle)
    (second : Comes middle reached) : Comes blueprint reached := by
  obtain ⟨earlier, rfl⟩ := first
  obtain ⟨later, rfl⟩ := second
  exact ⟨earlier ++ later, (blueprint.movedAll_append earlier later).symm⟩

theorem comes_keepAll (blueprint : Blueprint) (values : List Value) :
    Comes blueprint (blueprint.keepAll values).1 :=
  ⟨[.keep values], rfl⟩

theorem comes_keep (blueprint : Blueprint) (value : Value) :
    Comes blueprint (blueprint.keep value).1 :=
  comes_keepAll blueprint [value]

theorem comes_perform (blueprint : Blueprint) (call : Call) :
    Comes blueprint (blueprint.perform call).blueprint :=
  ⟨[.call call], rfl⟩

theorem comes_invoke (blueprint : Blueprint) (target : Target) (method : String)
    (arguments : List Value) (keywords : List (String × Value)) :
    Comes blueprint (invoke blueprint target method arguments keywords).blueprint := by
  cases target with
  | spec index => exact .refl
  | _ =>
    simp only [invoke]
    split
    · exact comes_perform blueprint _
    · exact .refl

theorem comes_step (options : String) (blueprint : Blueprint) (answers : Answers)
    (call : ScriptCall) : Comes blueprint (step options blueprint answers call).blueprint := by
  unfold step
  split
  · unfold follow
    split
    · split
      · exact ((comes_keepAll _ _).trans (comes_keepAll _ _)).trans (comes_invoke _ _ _ _ _)
      · exact .refl
      · exact .refl
    · exact .refl
    · exact .refl
    · exact .refl
    · exact comes_perform blueprint _
    · exact comes_perform blueprint _
    · split
      · exact ((comes_keep _ _).trans (comes_keep _ _)).trans (comes_perform _ _)
      · exact .refl
      · exact .refl
  · exact .refl

/-- Every blueprint that a script meets comes from the first one by moves, so that what holds after
all moves holds throughout every script. -/
theorem comes_outcomes (options : String) (answers : Answers) (calls : List ScriptCall) :
    ∀ outcome ∈ outcomes options blueprint answers calls, Comes blueprint outcome.blueprint := by
  induction calls generalizing blueprint answers with
  | nil => simp [outcomes]
  | cons call calls ih =>
    have first := comes_step options blueprint answers call
    refine List.forall_mem_cons.mpr ⟨first, fun outcome member => ?_⟩
    exact (first.trans (comes_keep _ _)).trans (ih _ outcome member)

/-- The blueprint that a script leaves comes from the first one by moves. -/
theorem comes_run (options : String) (answers : Answers) (calls : List ScriptCall) :
    Comes blueprint (run options blueprint answers calls).blueprint := by
  induction calls generalizing blueprint answers with
  | nil => exact .refl
  | cons call calls ih =>
    have first := comes_step options blueprint answers call
    simp only [run]
    split
    · exact first
    · exact (first.trans (comes_keep _ _)).trans (ih _)

end Script

end Tablewright
