import Tablewright.Proofs.Blueprint.Edits

/-! # What a call leaves alone

A call changes at most the column that it is made on, the column that it defines, and, if it is a
call on the blueprint for the column defined last, that one. All other columns stand as they stood,
behind them there may be more specs. Only calls on foreign keys, and those that open or finalize
them, change anything about foreign keys.
-/

namespace Tablewright

/-- The call that a call on the blueprint is on the column defined last. -/
def TableCall.passedOn? : TableCall → Option ColumnCall
  | .nullable value => some (.nullable value)
  | .setDefault value => some (.setDefault value)
  | .comment text => some (.comment text)
  | .after column => some (.after column)
  | .first => some .first
  | _ => none

/-- The column that a call is made on, and the call that it is on that column. -/
def Call.aim? (blueprint : Blueprint) : Call → Option (ColumnRef × ColumnCall)
  | .table call =>
    match call.passedOn?, blueprint.current with
    | some passed, some index => some (.attached index, passed)
    | _, _ => none
  | .column ref call => some (ref, call)
  | .key .. => none

/-- Whether a call on the blueprint defines columns of a type. -/
def TableCall.IsDefinition : TableCall → Prop
  | .define .. | .timestamps | .softDeletes _ | .foreignId _ => True
  | _ => False

/-- Whether a call on the blueprint opens or finalizes foreign keys. -/
def TableCall.IsForKeys : TableCall → Prop
  | .foreignId _ | .foreign _ | .finalize | .toCreate _ | .toAlter => True
  | _ => False

namespace Blueprint

/-- Whether columns that are not free stand as they stood. -/
def KeepsColumns (free : ColumnRef → Prop) (before after : Blueprint) : Prop :=
  ∀ ref column, ¬ free ref → before.column? ref = some column → after.column? ref = some column

/-- Whether columns that are not free, and foreign keys, are as they were. -/
structure Leaves (free : ColumnRef → Prop) (before after : Blueprint) : Prop where
  columns : KeepsColumns free before after
  keys : after.foreignKeys = before.foreignKeys
  rounds : after.finalizations = before.finalizations

/-- Whether there is a column with a type or a definition wherever no column may be changed. -/
def Guards (free : ColumnRef → Prop) (blueprint : Blueprint) : Prop :=
  ∀ ref, ¬ free ref → ∃ column, blueprint.column? ref = some column ∧ column.isTyped = true

variable {free : ColumnRef → Prop} {blueprint before middle after : Blueprint}

theorem KeepsColumns.refl (blueprint : Blueprint) : KeepsColumns free blueprint blueprint :=
  fun _ _ _ found => found

theorem KeepsColumns.trans (first : KeepsColumns free before middle)
    (second : KeepsColumns free middle after) : KeepsColumns free before after :=
  fun ref column guarded found => second ref column guarded (first ref column guarded found)

theorem Leaves.refl (blueprint : Blueprint) : Leaves free blueprint blueprint :=
  ⟨.refl blueprint, rfl, rfl⟩

theorem Leaves.trans (first : Leaves free before middle) (second : Leaves free middle after) :
    Leaves free before after :=
  ⟨first.columns.trans second.columns, second.keys.trans first.keys,
    second.rounds.trans first.rounds⟩

theorem Guards.spared (guards : Guards free before) (columns : KeepsColumns free before after) :
    Guards free after := by
  intro ref guarded
  obtain ⟨column, found, typed⟩ := guards ref guarded
  exact ⟨column, columns ref column guarded found, typed⟩

/-! ## Single changes -/

/-- More specs behind the others leave every column alone. -/
theorem keepsColumns_specs (specs : List Spec) (current : Option Nat) :
    KeepsColumns free blueprint { blueprint with specs := blueprint.specs ++ specs, current } := by
  intro ref column guarded found
  cases ref with
  | detached index => exact found
  | attached index =>
    rw [column?_attached] at found ⊢
    have within : index < blueprint.specs.length := (List.getElem?_eq_some_iff.mp found).1
    rw [List.getElem?_append_left within]
    exact found

theorem appendPlain_leaves (spec : PlainSpec) :
    Leaves free blueprint (blueprint.appendPlain spec) :=
  ⟨keepsColumns_specs [.plain spec] _, rfl, rfl⟩

theorem appendColumn_leaves (column : Column) :
    Leaves free blueprint (blueprint.appendColumn column) :=
  ⟨keepsColumns_specs [.column column] _, rfl, rfl⟩

theorem column?_appendColumn (blueprint : Blueprint) (column : Column) :
    (blueprint.appendColumn column).column? (.attached blueprint.specs.length) = some column := by
  rw [column?_attached]
  exact List.getElem?_concat_length

theorem appendConstraint_leaves (text : String) :
    Leaves free blueprint (blueprint.appendConstraint text) :=
  ⟨keepsColumns_specs [Spec.constraint text] _, rfl, rfl⟩

/-- Changing a column leaves the others alone. -/
theorem column?_updateColumn_ne {ref other : ColumnRef} (apart : other ≠ ref)
    (change : Column → Column) :
    (blueprint.updateColumn ref change).column? other = blueprint.column? other := by
  cases ref with
  | attached index =>
    cases other with
    | attached position =>
      have different : position ≠ index := fun same => apart (congrArg ColumnRef.attached same)
      exact column?_updateColumn_other different change
    | detached position => rfl
  | detached index =>
    cases other with
    | attached position => rfl
    | detached position =>
      have different : position ≠ index := fun same => apart (congrArg ColumnRef.detached same)
      simp only [updateColumn, column?]
      rw [List.getElem?_modify_ne _ _ (Ne.symm different)]

theorem updateColumn_leaves {ref : ColumnRef} (may : free ref) (change : Column → Column) :
    Leaves free blueprint (blueprint.updateColumn ref change) := by
  refine ⟨?_, ?_, ?_⟩
  · intro other column guarded found
    have apart : other ≠ ref := by
      rintro rfl
      exact guarded may
    rw [column?_updateColumn_ne apart]
    exact found
  · cases ref <;> rfl
  · cases ref <;> rfl

/-! ## Steps of calls -/

/-- A column that is defined was not guarded: it is added, or it awaited its type. -/
theorem define_leaves (guards : Guards free blueprint) {name : Value} {type : ColumnType}
    {ref : ColumnRef} (made : blueprint.define name type = .ok (after, ref)) :
    free ref ∧ Leaves free blueprint after := by
  have defined : free ref := by
    by_contra guarded
    obtain ⟨column, found, typed⟩ := guards ref guarded
    obtain ⟨index, awaited, rfl, rfl⟩ | ⟨-, rfl, rfl⟩ := define_cases made
    · obtain ⟨-, other, present, awaits, -⟩ := awaiting?_eq_some awaited
      obtain rfl := Option.some.inj (found.symm.trans present)
      exact absurd typed (by simp [awaits.2])
    · rw [column?_attached] at found
      exact absurd (List.getElem?_eq_some_iff.mp found).1 (Nat.lt_irrefl _)
  refine ⟨defined, ?_⟩
  obtain ⟨index, awaited, rfl, rfl⟩ | ⟨-, rfl, rfl⟩ := define_cases made
  · exact updateColumn_leaves defined _
  · exact appendColumn_leaves _

theorem setDefault_leaves {ref : ColumnRef} (may : free ref) {value : Value}
    (made : blueprint.setDefault ref value = .ok after) : Leaves free blueprint after := by
  obtain ⟨-, rfl⟩ | ⟨column, -, -, rfl⟩ := setDefault_cases made
  · exact .refl _
  · exact updateColumn_leaves may _

theorem placeAfter_leaves {ref : ColumnRef} (may : free ref) {other : Value}
    (made : blueprint.placeAfter ref other = .ok after) : Leaves free blueprint after := by
  obtain ⟨name, -, made⟩ := bind_eq_ok.mp made
  obtain rfl := Except.ok.inj made
  exact updateColumn_leaves may _

theorem addIndex_leaves {kind : IndexKind} {columns name : Value}
    (made : blueprint.addIndex kind columns name = .ok after) : Leaves free blueprint after := by
  obtain ⟨names, -, made⟩ := bind_eq_ok.mp made
  split at made
  · exact Except.ok.inj made ▸ .refl _
  · obtain ⟨label, -, made⟩ := bind_eq_ok.mp made
    obtain ⟨texts, -, made⟩ := bind_eq_ok.mp made
    exact Except.ok.inj made ▸ appendConstraint_leaves _

theorem numbered_leaves {ref : ColumnRef} (may : free ref) (column : TypedColumn) :
    Leaves free blueprint (blueprint.numbered ref column) := by
  unfold numbered
  split
  · exact updateColumn_leaves may _
  · exact .refl _

theorem dropColumns_leaves (blueprint : Blueprint) (names : List Value) :
    Leaves free blueprint (names.foldl
      (fun dropped name => dropped.appendPlain ⟨.drop, name, "", .null, false⟩) blueprint) :=
  List.foldlRecOn names _ (.refl _) fun _ leaves _ _ => leaves.trans (appendPlain_leaves _)

theorem addTimestamps_leaves (guards : Guards free blueprint)
    (made : blueprint.addTimestamps = .ok after) : Leaves free blueprint after := by
  obtain ⟨⟨first, firstRef⟩, defined, made⟩ := bind_eq_ok.mp made
  obtain ⟨mayFirst, begun⟩ := define_leaves guards defined
  have stamped := begun.trans
    (updateColumn_leaves mayFirst (Column.withExpression · (.text currentMoment)))
  obtain ⟨⟨second, secondRef⟩, defined, made⟩ := bind_eq_ok.mp made
  obtain ⟨maySecond, further⟩ := define_leaves (guards.spared stamped.columns) defined
  obtain rfl := Except.ok.inj made
  exact (stamped.trans further).trans (updateColumn_leaves maySecond _)

theorem callDefine_leaves (guards : Guards free blueprint) (column : TypedColumn)
    (name default : Value) :
    Leaves free blueprint (blueprint.callDefine column name default).blueprint := by
  obtain ⟨fault, -, outcome⟩ | ⟨type, defined, ref, typed, made⟩ :=
    blueprint.callDefine_cases column name default
  · rw [outcome]
    exact .refl _
  · obtain ⟨may, begun⟩ := define_leaves guards made
    have whole := begun.trans (numbered_leaves may column)
    rw [callDefine_eq typed made]
    split
    · exact whole
    · exact whole.trans (attempt_keeps (.refl _) (fun _ => setDefault_leaves may) _)

/-! ## Calls -/

theorem callColumn_leaves {ref : ColumnRef} (may : free ref) (call : ColumnCall) :
    Leaves free blueprint (blueprint.callColumn ref call).blueprint := by
  cases call with
  | sql =>
    simp only [callColumn]
    split <;> exact .refl _
  | setDefault value => exact attempt_keeps (.refl _) (fun _ => setDefault_leaves may) _
  | after other => exact attempt_keeps (.refl _) (fun _ => placeAfter_leaves may) _
  | addIndex kind name => exact attempt_keeps (.refl _) (fun _ => addIndex_leaves) _
  | _ => exact updateColumn_leaves may _

/-- Without a column, a call on the column defined last does nothing. -/
theorem onCurrent_none (unset : blueprint.current = none)
    (call : ColumnRef → Except Fault Blueprint) :
    (blueprint.onCurrent call).blueprint = blueprint := by
  rw [onCurrent, unset]
  rfl

/-- A call on the blueprint that is one on the column defined last does there what that call does,
and succeeds if that does. -/
theorem callTable_passedOn {call : TableCall} {passed : ColumnCall}
    (same : call.passedOn? = some passed) {index : Nat} (current : blueprint.current = some index) :
    (blueprint.callTable call).blueprint =
        (blueprint.callColumn (.attached index) passed).blueprint ∧
      (blueprint.callTable call).result.isOk =
        (blueprint.callColumn (.attached index) passed).result.isOk := by
  have attempted (changed : Except Fault Blueprint) (target other : Target) :
      (blueprint.attempt changed target).blueprint = (blueprint.attempt changed other).blueprint ∧
        (blueprint.attempt changed target).result.isOk =
          (blueprint.attempt changed other).result.isOk := by
    cases changed <;> exact ⟨rfl, rfl⟩
  cases call with
  | setDefault value | after column =>
    obtain rfl := Option.some.inj same
    simp only [callTable, onCurrent, current, callColumn]
    exact attempted _ _ _
  | nullable value | comment text | first =>
    obtain rfl := Option.some.inj same
    simp only [callTable, editCurrent, onCurrent, current]
    exact ⟨rfl, rfl⟩
  | _ => cases same

/-- A call that is made on a column does what the call on that column does. -/
theorem perform_aim {call : Call} {ref : ColumnRef} {aimed : ColumnCall}
    (aim : call.aim? blueprint = some (ref, aimed)) :
    (blueprint.perform call).blueprint = (blueprint.callColumn ref aimed).blueprint ∧
      (blueprint.perform call).result.isOk = (blueprint.callColumn ref aimed).result.isOk := by
  cases call with
  | column other made =>
    obtain ⟨rfl, rfl⟩ := Prod.mk.inj (Option.some.inj aim)
    exact ⟨rfl, rfl⟩
  | key index made => cases aim
  | table made =>
    simp only [Call.aim?] at aim
    split at aim
    · rename_i passed current
      obtain ⟨rfl, rfl⟩ := Prod.mk.inj (Option.some.inj aim)
      exact callTable_passedOn passed current
    · cases aim

/-- A call that has nothing to do with definitions and foreign keys leaves these alone, and all
columns that it is not made on. -/
theorem callTable_leaves_undefining (call : TableCall)
    (may : ∀ ref aimed, (Call.table call).aim? blueprint = some (ref, aimed) → free ref)
    (undefining : ¬ call.IsDefinition) (other : ¬ call.IsForKeys) :
    Leaves free blueprint (blueprint.callTable call).blueprint := by
  have passed {made : ColumnCall} (same : call.passedOn? = some made)
      (unset : blueprint.current = none →
        (blueprint.callTable call).blueprint = blueprint) :
      Leaves free blueprint (blueprint.callTable call).blueprint := by
    cases current : blueprint.current with
    | none =>
      rw [unset current]
      exact .refl _
    | some index =>
      rw [(callTable_passedOn same current).1]
      exact callColumn_leaves (may _ made (by simp only [Call.aim?, same, current])) made
  cases call with
  | define | timestamps | softDeletes => exact absurd trivial undefining
  | addColumn name definition => exact appendColumn_leaves _
  | nullable value | setDefault value | comment text | after column | first =>
    exact passed rfl fun unset => onCurrent_none unset _
  | addIndex kind columns name => exact attempt_keeps (.refl _) (fun _ => addIndex_leaves) _
  | renameColumn old new => exact appendPlain_leaves _
  | modifyColumn name => exact appendColumn_leaves _
  | dropColumn names => exact dropColumns_leaves blueprint names
  | dropIndex name => exact appendPlain_leaves _
  | append spec => exact appendPlain_leaves _
  | addSpecs => exact .refl _
  | foreignId | «foreign» | finalize | toCreate | toAlter => exact absurd trivial other

/-- A call that has nothing to do with foreign keys leaves them alone, and all guarded columns. -/
theorem callTable_leaves (guards : Guards free blueprint) (call : TableCall)
    (may : ∀ ref aimed, (Call.table call).aim? blueprint = some (ref, aimed) → free ref)
    (other : ¬ call.IsForKeys) : Leaves free blueprint (blueprint.callTable call).blueprint := by
  cases call with
  | define column name default => exact callDefine_leaves guards column name default
  | timestamps => exact attempt_keeps (.refl _) (fun _ => addTimestamps_leaves guards) _
  | softDeletes name =>
    simp only [callTable]
    cases made : blueprint.defineMoment name with
    | error fault => exact .refl _
    | ok defined =>
      obtain ⟨free, begun⟩ := define_leaves guards made
      exact begun.trans (updateColumn_leaves free _)
  | foreignId => exact absurd trivial other
  | _ => exact callTable_leaves_undefining _ may id other

/-! ## Calls on foreign keys -/

/-- Foreign keys come to stand behind all specs. -/
theorem settleKeys_specs (blueprint : Blueprint) (keys : List ForeignKey) :
    ∃ texts : List String, (blueprint.settleKeys keys).blueprint =
      { blueprint with specs := blueprint.specs ++ texts.map Spec.constraint } := by
  induction keys generalizing blueprint with
  | nil => exact ⟨[], by simp [settleKeys]⟩
  | cons key keys ih =>
    simp only [settleKeys]
    split
    · split
      · rename_i text _
        obtain ⟨texts, same⟩ := ih (blueprint.appendConstraint text)
        refine ⟨text :: texts, ?_⟩
        rw [same]
        simp [appendConstraint]
      · exact ⟨[], by simp⟩
    · split
      · exact ih blueprint
      · exact ⟨[], by simp⟩

theorem finalize_keepsColumns (blueprint : Blueprint) :
    KeepsColumns free blueprint blueprint.finalize.blueprint := by
  obtain ⟨texts, same⟩ := blueprint.settleKeys_specs blueprint.pendingKeys
  have settled :
      KeepsColumns free blueprint (blueprint.settleKeys blueprint.pendingKeys).blueprint := by
    rw [same]
    exact keepsColumns_specs _ _
  simp only [finalize]
  split
  · intro ref column guarded found
    have kept := settled ref column guarded found
    cases ref <;> exact kept
  · exact settled

theorem openKey_keepsColumns (blueprint : Blueprint) (column : Value) :
    KeepsColumns free blueprint (blueprint.openKey column) := by
  intro ref column guarded found
  cases ref <;> exact found

theorem openDetachedKey_keepsColumns (blueprint : Blueprint) (name : String) :
    KeepsColumns free blueprint (blueprint.openDetachedKey name) := by
  intro ref column guarded found
  cases ref with
  | attached index => exact found
  | detached index =>
    have within : index < blueprint.detached.length := (List.getElem?_eq_some_iff.mp found).1
    change (blueprint.detached ++ _)[index]? = some column
    rw [List.getElem?_append_left within]
    exact found

theorem callForeign_keepsColumns (blueprint : Blueprint) (column : Value) :
    KeepsColumns free blueprint (blueprint.callForeign column).blueprint := by
  simp only [callForeign, awaits, answered]
  split
  · exact openDetachedKey_keepsColumns blueprint _
  · exact openKey_keepsColumns blueprint _
  · exact openKey_keepsColumns blueprint _

theorem callTable_keepsColumns_undefining (call : TableCall)
    (may : ∀ ref aimed, (Call.table call).aim? blueprint = some (ref, aimed) → free ref)
    (undefining : ¬ call.IsDefinition) :
    KeepsColumns free blueprint (blueprint.callTable call).blueprint := by
  cases call with
  | foreignId => exact absurd trivial undefining
  | «foreign» column => exact callForeign_keepsColumns blueprint column
  | finalize => exact finalize_keepsColumns blueprint
  | toCreate options => exact finalize_keepsColumns blueprint
  | toAlter =>
    change KeepsColumns free blueprint blueprint.toAlter.blueprint
    rw [toAlter_blueprint]
    exact finalize_keepsColumns blueprint
  | _ => exact (callTable_leaves_undefining _ may undefining id).columns

theorem callTable_keepsColumns (guards : Guards free blueprint) (call : TableCall)
    (may : ∀ ref aimed, (Call.table call).aim? blueprint = some (ref, aimed) → free ref) :
    KeepsColumns free blueprint (blueprint.callTable call).blueprint := by
  cases call with
  | foreignId column =>
    simp only [callTable]
    cases made : blueprint.define column .unsignedInteger with
    | error fault => exact .refl _
    | ok defined => exact (define_leaves guards made).2.columns.trans (openKey_keepsColumns _ _)
  | define | timestamps | softDeletes => exact (callTable_leaves guards _ may id).columns
  | _ => exact callTable_keepsColumns_undefining _ may id

theorem updateKey_specs (blueprint : Blueprint) (index : Nat)
    (change : ForeignKey → ForeignKey) :
    ∃ foreignKeys, foreignKeys.length = blueprint.foreignKeys.length ∧
      blueprint.updateKey index change = { blueprint with foreignKeys } :=
  ⟨_, List.length_modify .., rfl⟩

theorem editKey_specs (blueprint : Blueprint) (index : Nat) (text : Except Fault String)
    (change : String → ForeignKey → ForeignKey) :
    ∃ foreignKeys, foreignKeys.length = blueprint.foreignKeys.length ∧
      (blueprint.editKey index text change).blueprint = { blueprint with foreignKeys } := by
  cases text with
  | ok text => exact blueprint.updateKey_specs index (change text)
  | error fault => exact ⟨blueprint.foreignKeys, rfl, rfl⟩

/-- A call on a foreign key changes nothing but foreign keys, and opens none. -/
theorem callKey_specs (blueprint : Blueprint) (index : Nat) (call : KeyCall) :
    ∃ foreignKeys, foreignKeys.length = blueprint.foreignKeys.length ∧
      (blueprint.callKey index call).blueprint = { blueprint with foreignKeys } := by
  cases call with
  | references column => exact blueprint.updateKey_specs index _
  | on table => exact blueprint.editKey_specs index _ _
  | onDelete action => exact blueprint.editKey_specs index _ _
  | onUpdate action => exact blueprint.editKey_specs index _ _
  | constraintName => exact ⟨blueprint.foreignKeys, rfl, blueprint.askKey_blueprint index _⟩
  | sql => exact ⟨blueprint.foreignKeys, rfl, blueprint.askKey_blueprint index _⟩

/-- A call that defines nothing leaves alone every column that it is not made on. -/
theorem perform_keepsColumns_undefining (call : Call)
    (may : ∀ ref aimed, call.aim? blueprint = some (ref, aimed) → free ref)
    (undefining : ∀ made, call = .table made → ¬ made.IsDefinition) :
    KeepsColumns free blueprint (blueprint.perform call).blueprint := by
  cases call with
  | table made => exact callTable_keepsColumns_undefining made may (undefining made rfl)
  | column ref made => exact (callColumn_leaves (may ref made rfl) made).columns
  | key index made =>
    obtain ⟨foreignKeys, -, same⟩ := blueprint.callKey_specs index made
    intro ref column guarded found
    rw [perform, same]
    cases ref <;> exact found

/-- A call leaves alone every guarded column that it is not made on. -/
theorem perform_keepsColumns (guards : Guards free blueprint) (call : Call)
    (may : ∀ ref aimed, call.aim? blueprint = some (ref, aimed) → free ref) :
    KeepsColumns free blueprint (blueprint.perform call).blueprint := by
  cases call with
  | table made => exact callTable_keepsColumns guards made may
  | column | key => exact perform_keepsColumns_undefining _ may fun _ same => by cases same

/-- Keeping lists leaves every column alone. -/
theorem keepAll_keepsColumns (blueprint : Blueprint) (values : List Value) :
    KeepsColumns free blueprint (blueprint.keepAll values).1 := by
  obtain ⟨lists, same⟩ := blueprint.keepAll_lists values
  intro ref column guarded found
  rw [same]
  cases ref <;> exact found

end Blueprint

end Tablewright
