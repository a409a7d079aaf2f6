import Tablewright.Proofs.Blueprint.Edits
import Tablewright.Proofs.Blueprint.Rendered

/-! # Harmless calls

A call is harmless if its names hold no marks of names, its defaults are literals and its actions
are known ones. What is given as a comment, as a text by default or as a value of an enumeration may
be any text. A call with definitions or expressions that are taken as they are is not harmless.
Harmless calls in any order, whether they succeed or fail, leave a blueprint harmless.
-/

namespace Tablewright

/-- Whether a value can be the columns of an index: none, a name, or a list of names. -/
def Value.AreColumns : Value → Prop
  | .null => True
  | .text name => Unmarked name
  | .list names => ∀ name ∈ names, name.IsName
  | _ => False

theorem Value.IsName.areColumns {value : Value} (name : value.IsName) : value.AreColumns := by
  cases value with
  | null => trivial
  | text _ => exact name
  | _ => exact name.elim

/-- Whether a value can be what a foreign key is on: the name of a column, or a column. -/
def Value.IsKeyColumn : Value → Prop
  | .text name => Unmarked name
  | .mention (.target (.column _)) => True
  | _ => False

/-- Whether a value is a referential action. -/
def Value.IsAction : Value → Prop
  | .action _ => True
  | _ => False

/-- Whether a call on a blueprint is harmless. -/
def TableCall.IsHarmless : TableCall → Prop
  | .define _ name default => name.IsName ∧ default.IsLiteral
  | .softDeletes name | .foreignId name | .modifyColumn name | .after name => name.IsName
  | .foreign column => column.IsKeyColumn
  | .setDefault value => value.IsLiteral
  | .comment text => text.IsNote
  | .addIndex _ columns name => columns.AreColumns ∧ name.IsName
  | .addColumn .. | .append _ => False
  | .timestamps | .nullable _ | .first | .renameColumn .. | .dropColumn _ | .dropIndex _
  | .finalize | .addSpecs | .toCreate _ | .toAlter => True

/-- Whether a call on a column is harmless. -/
def ColumnCall.IsHarmless : ColumnCall → Prop
  | .setDefault value => value.IsLiteral
  | .comment text => text.IsNote
  | .after name | .addIndex _ name => name.IsName
  | .defaultRaw _ => False
  | .sql | .nullable _ | .useCurrent | .useCurrentOnUpdate | .first | .change => True

/-- Whether a call on a foreign key is harmless. -/
def KeyCall.IsHarmless : KeyCall → Prop
  | .references name | .on name => name.IsName
  | .onDelete action | .onUpdate action => action.IsAction
  | .constraintName | .sql => True

/-- Whether a call is harmless. -/
def Call.IsHarmless : Call → Prop
  | .table call => call.IsHarmless
  | .column _ call => call.IsHarmless
  | .key _ call => call.IsHarmless

namespace Blueprint

/-- The blueprint after calls in turn; a call that fails is followed by the next. -/
def performAll (blueprint : Blueprint) (calls : List Call) : Blueprint :=
  calls.foldl (fun blueprint call => (blueprint.perform call).blueprint) blueprint

theorem columnType_isSealed {blueprint : Blueprint} {column : TypedColumn} {type : ColumnType}
    (made : blueprint.columnType column = .ok type) : type.IsSealed := by
  cases column with
  | enum values =>
    obtain ⟨elements, -, made⟩ := bind_eq_ok.mp made
    obtain ⟨texts, -, made⟩ := bind_eq_ok.mp made
    exact ColumnType.ofValues_isSealed made
  | string length => exact ColumnType.ofLength_isSealed made
  | char length => exact ColumnType.ofFixedLength_isSealed made
  | decimal precision scale => exact ColumnType.ofPrecision_isSealed made
  | integer unsigned =>
    obtain rfl := Except.ok.inj made
    exact ColumnType.integer_isSealed .regular unsigned
  | bigInteger unsigned =>
    obtain rfl := Except.ok.inj made
    exact ColumnType.bigInteger_isSealed unsigned
  | increments =>
    obtain rfl := Except.ok.inj made
    exact ColumnType.integer_isSealed .regular (.bool true)
  | bigIncrements =>
    obtain rfl := Except.ok.inj made
    exact ColumnType.bigInteger_isSealed (.bool true)
  | _ =>
    obtain rfl := Except.ok.inj made
    exact ColumnType.isSealed_of_fixed (fun _ => rfl) rfl (by decide)

theorem sealed_actionText (blueprint : Blueprint) {value : Value} (action : value.IsAction)
    {text : String} (found : (blueprint.words value).bind actionText = .ok text) : Sealed text := by
  cases value with
  | action known =>
    obtain rfl := Except.ok.inj found
    cases known <;> decide
  | _ => exact action.elim

namespace IsHarmless

variable {blueprint : Blueprint}

/-! ## Steps of calls -/

theorem define (harmless : blueprint.IsHarmless) {name : Value} (named : name.IsName)
    {type : ColumnType} (declared : type.IsSealed) {defined : Blueprint} {ref : ColumnRef}
    (made : blueprint.define name type = .ok (defined, ref)) : defined.IsHarmless := by
  obtain ⟨index, -, -, rfl⟩ | ⟨-, -, rfl⟩ := define_cases made
  · exact harmless.updateColumn _ fun _ kept => kept.withType declared
  · exact harmless.appendColumn (Column.typed_isHarmless named declared)

theorem setDefault (harmless : blueprint.IsHarmless) {ref : ColumnRef} {value : Value}
    (literal : value.IsLiteral) {changed : Blueprint}
    (made : blueprint.setDefault ref value = .ok changed) : changed.IsHarmless := by
  obtain ⟨-, rfl⟩ | ⟨column, -, -, rfl⟩ := setDefault_cases made
  · exact harmless
  · exact harmless.updateColumn _ fun _ kept => kept.withDefault literal

theorem placeAfter (harmless : blueprint.IsHarmless) {ref : ColumnRef} {other : Value}
    (named : other.IsName) {changed : Blueprint}
    (made : blueprint.placeAfter ref other = .ok changed) : changed.IsHarmless := by
  have opens : Sealed "AFTER " := by decide
  rw [Blueprint.placeAfter, blueprint.shown_name named] at made
  exact Except.ok.inj made ▸ harmless.updateColumn _ fun _ kept =>
    kept.placed (opens.append (sealed_quoteName named.unmarked))

theorem indexColumns (harmless : blueprint.IsHarmless) {columns : Value}
    (indexed : columns.AreColumns) {names : List Value}
    (found : blueprint.indexColumns columns = .ok names) : ∀ name ∈ names, name.IsName := by
  cases columns with
  | null =>
    obtain rfl := Except.ok.inj found
    intro name member
    obtain ⟨column, current, rfl⟩ := Option.map_eq_some_iff.mp (Option.mem_toList.mp member)
    obtain ⟨index, -, present⟩ := Option.bind_eq_some_iff.mp current
    exact (column?_isHarmless harmless present).name
  | text name =>
    obtain rfl := Except.ok.inj found
    exact List.forall_mem_singleton.mpr indexed
  | list given =>
    obtain rfl := Except.ok.inj found
    exact indexed
  | _ => exact indexed.elim

theorem indexName (harmless : blueprint.IsHarmless) {kind : IndexKind} {columns : List Value}
    (each : ∀ column ∈ columns, column.IsName) {name : Value} (named : name.IsName)
    {text : String} (found : blueprint.indexName kind columns name = .ok text) :
    Unmarked text := by
  unfold Blueprint.indexName at found
  split at found
  · rw [blueprint.shown_name named] at found
    exact Except.ok.inj found ▸ named.unmarked
  · obtain ⟨names, listed, found⟩ := bind_eq_ok.mp found
    have joint : Unmarked "_" := by decide
    have unmarked := unmarked_intercalate joint (Value.asTexts_unmarked each listed)
    have suffix : Unmarked kind.suffix := by cases kind <;> decide
    obtain rfl := Except.ok.inj found
    simp [harmless.table, joint, unmarked, suffix]

theorem addIndex (harmless : blueprint.IsHarmless) {kind : IndexKind} {columns name : Value}
    (indexed : columns.AreColumns) (named : name.IsName) {changed : Blueprint}
    (made : blueprint.addIndex kind columns name = .ok changed) : changed.IsHarmless := by
  obtain ⟨names, found, made⟩ := bind_eq_ok.mp made
  have each := harmless.indexColumns indexed found
  split at made
  · exact Except.ok.inj made ▸ harmless
  · obtain ⟨label, labelled, made⟩ := bind_eq_ok.mp made
    obtain ⟨texts, shown, made⟩ := bind_eq_ok.mp made
    obtain ⟨outputs, computed, unmarked⟩ : ∃ outputs,
        names.mapM blueprint.shown = .ok outputs ∧ ∀ text ∈ outputs, Unmarked text :=
      mapM_ok_of_forall fun value member =>
        ⟨value.plainForm, blueprint.shown_name (each value member), (each value member).unmarked⟩
    obtain rfl : texts = outputs := Except.ok.inj (shown.symm.trans computed)
    have quoted : ∀ text ∈ texts.map quoteName, Sealed text := by
      intro text member
      obtain ⟨name, present, rfl⟩ := List.mem_map.mp member
      exact sealed_quoteName (unmarked name present)
    have joint : Sealed ", " := by decide
    exact Except.ok.inj made ▸ harmless.appendConstraint
      (kind.sql_isFragment (harmless.indexName each named labelled)
        (sealed_intercalate joint quoted))

/-! ## Typed columns -/

theorem defineMoment (harmless : blueprint.IsHarmless) {name : Value} (named : name.IsName)
    {defined : Blueprint} {ref : ColumnRef}
    (made : blueprint.defineMoment name = .ok (defined, ref)) : defined.IsHarmless :=
  harmless.define named (ColumnType.isSealed_of_fixed (fun _ => rfl) rfl (by decide)) made

theorem addTimestamps (harmless : blueprint.IsHarmless) {changed : Blueprint}
    (made : blueprint.addTimestamps = .ok changed) : changed.IsHarmless := by
  have created : Value.IsName (.text "created_at") := by
    change Unmarked "created_at"
    decide
  have updated : Value.IsName (.text "updated_at") := by
    change Unmarked "updated_at"
    decide
  obtain ⟨⟨first, firstRef⟩, defined, made⟩ := bind_eq_ok.mp made
  have stamped := (harmless.defineMoment created defined).updateColumn firstRef
    fun _ kept => kept.withMoment
  obtain ⟨⟨second, secondRef⟩, defined, made⟩ := bind_eq_ok.mp made
  have further := stamped.defineMoment updated defined
  exact Except.ok.inj made ▸ further.updateColumn secondRef fun _ kept =>
    { kept.withMoment with }

theorem callDefine (harmless : blueprint.IsHarmless) (column : TypedColumn) {name default : Value}
    (named : name.IsName) (literal : default.IsLiteral) :
    (blueprint.callDefine column name default).blueprint.IsHarmless := by
  obtain ⟨fault, -, outcome⟩ | ⟨type, defined, ref, declared, made⟩ :=
    blueprint.callDefine_cases column name default
  · rw [outcome]
    exact harmless
  · have kept := harmless.define named (columnType_isSealed declared) made
    have numbered : (defined.numbered ref column).IsHarmless := by
      unfold Blueprint.numbered
      split
      · exact kept.updateColumn _ fun _ kept => { kept with }
      · exact kept
    rw [callDefine_eq declared made]
    split
    · exact numbered
    · exact attempt_keeps numbered (fun _ given => numbered.setDefault literal given) _

/-! ## Calls -/

theorem editCurrent (harmless : blueprint.IsHarmless) {change : Column → Column}
    (keeps : ∀ column, column.IsHarmless → (change column).IsHarmless) :
    (blueprint.editCurrent change).blueprint.IsHarmless :=
  onCurrent_keeps harmless fun ref _ made => Except.ok.inj made ▸ harmless.updateColumn ref keeps

theorem dropColumns (harmless : blueprint.IsHarmless) (names : List Value) :
    (names.foldl (fun dropped name => dropped.appendPlain ⟨.drop, name, "", .null, false⟩)
      blueprint).IsHarmless :=
  List.foldlRecOn names _ harmless fun _ kept _ _ => kept.appendPlain fun added => by cases added

theorem callForeign (harmless : blueprint.IsHarmless) {column : Value}
    (keyed : column.IsKeyColumn) : (blueprint.callForeign column).blueprint.IsHarmless := by
  cases column with
  | text name => exact harmless.openDetachedKey keyed
  | mention something =>
    cases something with
    | target target =>
      cases target with
      | column ref => exact harmless.openKey ref
      | _ => exact keyed.elim
    | _ => exact keyed.elim
  | _ => exact keyed.elim

theorem callTable (harmless : blueprint.IsHarmless) {call : TableCall} (admitted : call.IsHarmless) :
    (blueprint.callTable call).blueprint.IsHarmless := by
  cases call with
  | define column name default => exact harmless.callDefine column admitted.1 admitted.2
  | timestamps => exact attempt_keeps harmless (fun _ made => harmless.addTimestamps made) _
  | softDeletes name =>
    simp only [Blueprint.callTable]
    cases made : blueprint.defineMoment name with
    | error fault => exact harmless
    | ok defined =>
      exact (harmless.defineMoment admitted made).updateColumn _ fun _ kept => { kept with }
  | addColumn name definition => exact admitted.elim
  | foreignId column =>
    simp only [Blueprint.callTable]
    cases made : blueprint.define column .unsignedInteger with
    | error fault => exact harmless
    | ok defined =>
      exact (harmless.define admitted (ColumnType.integer_isSealed .regular (.bool true)) made).openKey
        _
  | foreign column => exact harmless.callForeign admitted
  | nullable value => exact harmless.editCurrent fun _ kept => { kept with }
  | setDefault value =>
    exact onCurrent_keeps harmless fun _ _ made => harmless.setDefault admitted made
  | comment text => exact harmless.editCurrent fun _ kept => { kept with comment := admitted }
  | after column =>
    exact onCurrent_keeps harmless fun _ _ made => harmless.placeAfter admitted made
  | first => exact harmless.editCurrent fun _ kept => kept.placed (by decide)
  | addIndex kind columns name =>
    exact attempt_keeps harmless (fun _ made => harmless.addIndex admitted.1 admitted.2 made) _
  | renameColumn old new => exact harmless.appendPlain fun added => by cases added
  | modifyColumn name => exact harmless.appendColumn (Column.bare_isHarmless admitted .modify)
  | dropColumn names => exact harmless.dropColumns names
  | dropIndex name => exact harmless.appendPlain fun added => by cases added
  | append spec => exact admitted.elim
  | finalize => exact (finalize_isHarmless harmless).2
  | addSpecs => exact harmless
  | toCreate options => exact (finalize_isHarmless harmless).2
  | toAlter =>
    change blueprint.toAlter.blueprint.IsHarmless
    rw [toAlter_blueprint]
    exact (finalize_isHarmless harmless).2

theorem callColumn (harmless : blueprint.IsHarmless) (ref : ColumnRef) {call : ColumnCall}
    (admitted : call.IsHarmless) : (blueprint.callColumn ref call).blueprint.IsHarmless := by
  cases call with
  | sql =>
    simp only [Blueprint.callColumn]
    split <;> exact harmless
  | nullable value => exact harmless.updateColumn ref fun _ kept => { kept with }
  | setDefault value =>
    exact attempt_keeps harmless (fun _ made => harmless.setDefault admitted made) _
  | defaultRaw expression => exact admitted.elim
  | useCurrent => exact harmless.updateColumn ref fun _ kept => kept.withMoment
  | useCurrentOnUpdate => exact harmless.updateColumn ref fun _ kept => { kept with }
  | comment text => exact harmless.updateColumn ref fun _ kept => { kept with comment := admitted }
  | after other => exact attempt_keeps harmless (fun _ made => harmless.placeAfter admitted made) _
  | first => exact harmless.updateColumn ref fun _ kept => kept.placed (by decide)
  | addIndex kind name =>
    have indexed := (columnName_isName harmless ref).areColumns
    exact attempt_keeps harmless (fun _ made => harmless.addIndex indexed admitted made) _
  | change => exact harmless.updateColumn ref fun _ kept => { kept with }

theorem editKey (harmless : blueprint.IsHarmless) (index : Nat) {text : Except Fault String}
    {change : String → ForeignKey → ForeignKey}
    (keeps : ∀ found, text = .ok found → ∀ key, key.IsHarmless → (change found key).IsHarmless) :
    (blueprint.editKey index text change).blueprint.IsHarmless := by
  refine attempt_keeps harmless (fun changed made => ?_) _
  obtain ⟨found, given, rfl⟩ := map_eq_ok.mp made
  exact harmless.updateKey index (keeps found given)

theorem callKey (harmless : blueprint.IsHarmless) (index : Nat) {call : KeyCall}
    (admitted : call.IsHarmless) : (blueprint.callKey index call).blueprint.IsHarmless := by
  cases call with
  | references column =>
    exact harmless.updateKey index fun _ kept => { kept with referencedColumn := admitted }
  | on table =>
    refine harmless.editKey index fun name given _ kept => ?_
    have unmarked := Value.asSuffix_unmarked admitted given
    exact { kept with
      referencedTable := by
        rintro _ ⟨⟩
        exact unmarked_append.mpr ⟨(unmarked_append.mp harmless.table).1, unmarked⟩ }
  | onDelete action =>
    refine harmless.editKey index fun text given _ kept => ?_
    have sealed := blueprint.sealed_actionText admitted given
    exact { kept with
      deleteAction := by
        rintro _ ⟨⟩
        exact sealed }
  | onUpdate action =>
    refine harmless.editKey index fun text given _ kept => ?_
    have sealed := blueprint.sealed_actionText admitted given
    exact { kept with
      updateAction := by
        rintro _ ⟨⟩
        exact sealed }
  | constraintName =>
    simp only [Blueprint.callKey, askKey]
    split <;> exact harmless
  | sql =>
    simp only [Blueprint.callKey, askKey]
    split <;> exact harmless

theorem perform (harmless : blueprint.IsHarmless) {call : Call} (admitted : call.IsHarmless) :
    (blueprint.perform call).blueprint.IsHarmless := by
  cases call with
  | table call => exact harmless.callTable admitted
  | column ref call => exact harmless.callColumn ref admitted
  | key index call => exact harmless.callKey index admitted

/-- Harmless calls in turn leave a harmless blueprint. -/
theorem performAll (harmless : blueprint.IsHarmless) {calls : List Call}
    (each : ∀ call ∈ calls, call.IsHarmless) : (blueprint.performAll calls).IsHarmless := by
  induction calls generalizing blueprint with
  | nil => exact harmless
  | cons call calls ih =>
    obtain ⟨admitted, others⟩ := List.forall_mem_cons.mp each
    exact ih (harmless.perform admitted) others

end IsHarmless

/-! ## Statements -/

/-- Whatever the texts of defaults, comments and enumerations are, a blueprint that harmless calls
made compiles to a statement that falls apart into just the fragments of its specs, in order. There
is no statement only where a number in a type or in a default is too long to be written. -/
theorem performAll_toCreate_fragments {tablePrefix name : String}
    (unmarked : Unmarked (tablePrefix ++ name)) {calls : List Call}
    (each : ∀ call ∈ calls, call.IsHarmless) (options : String) :
    let compiled := ((empty tablePrefix name).performAll calls).toCreate options
    if compiled.blueprint.addSpecs.all Spec.isWritten then
      ∃ fragments, compiled.blueprint.addSpecs.mapM compiled.blueprint.specSql = .ok fragments ∧
        (fragments = [] ∧ compiled.result = .ok none ∨
          ∃ statement, compiled.result = .ok (some statement) ∧
            fragments? statement = some fragments)
    else compiled.result = .error .badValue :=
  toCreate_fragments ((empty_isHarmless unmarked).performAll each) options

/-- Calls whose texts look like the structure of a statement. -/
def forgingCalls : List Call :=
  [.table (.define (.string (.int 191)) (.text "ti,\n)tle") (.text "it's,\n) '' (\n")),
    .table (.comment (.text "',\n`x` INT\n) ENGINE=InnoDB -- ")),
    .table (.define (.enum (.list [.text "a',\n", .text "')"])) (.text "kind") (.text "')")),
    .table (.addIndex .unique .null (.text "by ',\n")),
    .table (.foreignId (.text "user")),
    .key 0 (.references (.text "i(\nd")),
    .key 0 (.on (.text "users'")),
    .key 0 (.onDelete (.action .setNull))]

/-- What the calls declare. -/
def forgingFragments : List String :=
  ["`ti,\n)tle` VARCHAR(191) NOT NULL DEFAULT 'it''s,\n) '''' (\n' " ++
      "COMMENT ''',\n`x` INT\n) ENGINE=InnoDB -- '",
    "`kind` ENUM('a'',\n',''')') NOT NULL DEFAULT ''')'",
    "UNIQUE KEY `by ',\n` (`kind`)",
    "`user` INT UNSIGNED NOT NULL",
    "CONSTRAINT `app_po'sts_user_fk` FOREIGN KEY (`user`) REFERENCES `app_users'` (`i(\nd`) " ++
      "ON DELETE SET NULL"]

theorem forgingCalls_isHarmless : ∀ call ∈ forgingCalls, call.IsHarmless := by
  simp only [forgingCalls, List.forall_mem_cons, Call.IsHarmless, TableCall.IsHarmless,
    KeyCall.IsHarmless, Value.IsName, Value.IsLiteral, Value.IsNote, Value.AreColumns,
    Value.IsAction, Value.text.injEq, exists_eq', or_true, and_true, true_and, List.not_mem_nil,
    false_implies, implies_true]
  decide

/-- What looks like structure in the texts is not taken for it. -/
theorem forgingCalls_fragments :
    Unmarked ("app_" ++ "po'sts") ∧ (∀ call ∈ forgingCalls, call.IsHarmless) ∧
      ∃ statement, (((empty "app_" "po'sts").performAll forgingCalls).toCreate "").result =
          .ok (some statement) ∧
        fragments? statement = some forgingFragments := by
  have unmarked : Unmarked ("app_" ++ "po'sts") := by decide
  have harmless := forgingCalls_isHarmless
  refine ⟨unmarked, harmless, ?_⟩
  have apart := performAll_toCreate_fragments unmarked harmless ""
  have written : (((empty "app_" "po'sts").performAll forgingCalls).toCreate
      "").blueprint.addSpecs.all Spec.isWritten := by
    decide +kernel
  have declared : (((empty "app_" "po'sts").performAll forgingCalls).toCreate
      "").blueprint.addSpecs.mapM (((empty "app_" "po'sts").performAll forgingCalls).toCreate
      "").blueprint.specSql = .ok forgingFragments := by
    decide +kernel
  obtain ⟨fragments, rendered, outcome⟩ := (if_pos written).mp apart
  obtain rfl := Except.ok.inj (rendered.symm.trans declared)
  rcases outcome with ⟨missing, -⟩ | ⟨statement, compiled, apart⟩
  · cases missing
  · exact ⟨statement, compiled, apart⟩

end Blueprint

end Tablewright
