import Tablewright.Proofs.Blueprint.Edits
import Tablewright.Proofs.Value.Order

/-! # Pending changes

A change of a column can be announced by its name and then awaits its type. The next definition of
that name completes the change that was announced last, provided that no column has been added
since. Otherwise the definition adds a column, and the change stays without a type. So of two
changes that are announced before either is defined, the first is never completed.

A blueprint remembers the column defined last. The proviso is exact because that column is always
the last one among the specs.
-/

namespace Tablewright

/-- Whether there is a column at the position. -/
def HasColumn (specs : List Spec) (index : Nat) : Prop :=
  ∃ column, specs[index]? = some (.column column)

/-- Whether the last column is at the position. -/
def LastColumn (specs : List Spec) (index : Nat) : Prop :=
  HasColumn specs index ∧ ∀ later, index < later → ¬ HasColumn specs later

/-- Whether a change of the name is at the position and awaits its type. -/
def Pending (specs : List Spec) (name : String) (index : Nat) : Prop :=
  ∃ column, specs[index]? = some (.column column) ∧ column.AwaitsType ∧ column.name = .text name

/-- Whether the pending change of the name that was announced last is at the position. -/
def LatestPending (specs : List Spec) (name : String) (index : Nat) : Prop :=
  Pending specs name index ∧ ∀ later, index < later → ¬ Pending specs name later

instance (specs : List Spec) (index : Nat) : Decidable (HasColumn specs index) :=
  match found : specs[index]? with
  | some (.column column) => .isTrue ⟨column, found⟩
  | some (.plain _) | none => .isFalse fun ⟨_, other⟩ => by cases found.symm.trans other

instance (specs : List Spec) (name : String) (index : Nat) :
    Decidable (Pending specs name index) :=
  match found : specs[index]? with
  | some (.column column) =>
    decidable_of_iff (column.AwaitsType ∧ column.name = .text name)
      ⟨fun awaits => ⟨column, found, awaits⟩, fun ⟨_, other, awaits⟩ => by
        cases found.symm.trans other
        exact awaits⟩
  | some (.plain _) | none => .isFalse fun ⟨_, other, _⟩ => by cases found.symm.trans other

theorem HasColumn.lt {specs : List Spec} {index : Nat} (has : HasColumn specs index) :
    index < specs.length := by
  obtain ⟨column, found⟩ := has
  exact (List.getElem?_eq_some_iff.mp found).1

theorem Pending.hasColumn {specs : List Spec} {name : String} {index : Nat}
    (pending : Pending specs name index) : HasColumn specs index := by
  obtain ⟨column, found, -⟩ := pending
  exact ⟨column, found⟩

/-- To find the latest pending change it is enough to look at the specs there are. -/
theorem latestPending_iff {specs : List Spec} {name : String} {index : Nat} :
    LatestPending specs name index ↔ Pending specs name index ∧
      ∀ later < specs.length, index < later → ¬ Pending specs name later :=
  and_congr_right fun _ =>
    ⟨fun none later _ behind => none later behind, fun none later behind pending =>
      none later pending.hasColumn.lt behind pending⟩

/-- To find the last column it is enough to look at the specs there are. -/
theorem lastColumn_iff {specs : List Spec} {index : Nat} :
    LastColumn specs index ↔ HasColumn specs index ∧
      ∀ later < specs.length, index < later → ¬ HasColumn specs later :=
  and_congr_right fun _ =>
    ⟨fun none later _ behind => none later behind, fun none later behind has =>
      none later has.lt behind has⟩

instance (specs : List Spec) (name : String) (index : Nat) :
    Decidable (LatestPending specs name index) :=
  decidable_of_iff' _ latestPending_iff

instance (specs : List Spec) (index : Nat) : Decidable (LastColumn specs index) :=
  decidable_of_iff' _ lastColumn_iff

/-! ## The column defined last -/

theorem hasColumn_plain (specs : List Spec) (spec : PlainSpec) (index : Nat) :
    HasColumn (specs ++ [.plain spec]) index ↔ HasColumn specs index := by
  unfold HasColumn
  rw [List.getElem?_append]
  split
  · rfl
  · have none : specs[index]? = none := List.getElem?_eq_none (by omega)
    rw [none, List.getElem?_singleton]
    split <;> simp

theorem hasColumn_column (specs : List Spec) (column : Column) (index : Nat) :
    HasColumn (specs ++ [.column column]) index ↔ HasColumn specs index ∨ index = specs.length := by
  unfold HasColumn
  rw [List.getElem?_append]
  split
  · simp only [iff_self_or]
    omega
  · have none : specs[index]? = none := List.getElem?_eq_none (by omega)
    have here : index - specs.length = 0 ↔ index = specs.length := by omega
    rw [none, List.getElem?_singleton]
    split <;> simp_all

theorem hasColumn_modify (specs : List Spec) (position : Nat) (change : Column → Column)
    (index : Nat) :
    HasColumn (specs.modify position (Spec.mapColumn change)) index ↔ HasColumn specs index := by
  unfold HasColumn
  rw [List.getElem?_modify]
  cases found : specs[index]? with
  | none => simp
  | some spec => cases spec <;> by_cases here : position = index <;> simp [here, Spec.mapColumn]

/-- A column that is added is the last one. -/
theorem lastColumn_column (specs : List Spec) (column : Column) (index : Nat) :
    LastColumn (specs ++ [.column column]) index ↔ index = specs.length := by
  simp only [LastColumn, hasColumn_column]
  constructor
  · rintro ⟨has | here, last⟩
    · exact absurd (.inr rfl) (last specs.length has.lt)
    · exact here
  · rintro rfl
    refine ⟨.inr rfl, fun later behind has => ?_⟩
    rcases has with has | same
    · exact absurd has.lt (by omega)
    · omega

namespace Blueprint

variable {blueprint : Blueprint} {name : String} {index : Nat}

/-- Whether the column that the blueprint remembers is the last one. -/
def RemembersLast (blueprint : Blueprint) : Prop :=
  ∀ index, blueprint.current = some index ↔ LastColumn blueprint.specs index

theorem RemembersLast.of_same {edited : Blueprint} (remembers : blueprint.RemembersLast)
    (current : edited.current = blueprint.current)
    (specs : ∀ index, HasColumn edited.specs index ↔ HasColumn blueprint.specs index) :
    edited.RemembersLast := by
  intro index
  simp only [current, remembers index, LastColumn, specs]

theorem Edit.remembersLast {gives : ColumnType → Prop} {edited : Blueprint}
    (edit : Edit gives blueprint edited) (remembers : blueprint.RemembersLast) :
    edited.RemembersLast := by
  cases edit with
  | plain spec => exact remembers.of_same rfl (hasColumn_plain blueprint.specs spec)
  | @column column added =>
    intro index
    change some blueprint.specs.length = some index ↔ LastColumn (blueprint.specs ++ [_]) index
    rw [lastColumn_column, Option.some.injEq, eq_comm]
  | @update ref change each =>
    cases ref with
    | attached position =>
      exact remembers.of_same rfl (hasColumn_modify blueprint.specs position change)
    | detached position => exact remembers
  | key position change => exact remembers
  | opened column => exact remembers
  | openedDetached name => exact remembers
  | settled => exact remembers
  | kept lists => exact remembers

theorem empty_remembersLast (tablePrefix name : String) :
    (empty tablePrefix name).RemembersLast := by
  intro index
  simp [empty, LastColumn, HasColumn]

theorem movedAll_remembersLast (tablePrefix table : String) (moves : List Move) :
    ((empty tablePrefix table).movedAll moves).RemembersLast :=
  movedAll_keeps (fun _ _ _ edit remembers => edit.remembersLast remembers)
    (empty_remembersLast tablePrefix table) moves

/-! ## Awaited names -/

theorem viewed_eq_text (blueprint : Blueprint) (value : Value) :
    blueprint.viewed value = .text name ↔ value = .text name := by
  cases value with
  | mention something =>
    simp only [viewed]
    cases blueprint.listed? something <;> simp
  | _ => rfl

/-- A value equals a text exactly if it is that text. -/
theorem equal_text (blueprint : Blueprint) (value : Value) :
    blueprint.equal value (.text name) = .ok (decide (value = .text name)) := by
  have notMentioned : ¬ (value.isMention && decide (value = .text name)) = true := by
    rw [Bool.and_eq_true, decide_eq_true_eq]
    rintro ⟨mentioned, rfl⟩
    cases mentioned
  have viewed : (blueprint.viewed value).equals (.text name) =
      .ok (decide (value = .text name)) := by
    rw [Value.equals_text]
    simp only [viewed_eq_text]
  rw [equal, equalWithin, if_neg (by simpa using notMentioned)]
  split
  · rename_i listed
    cases listed
  · exact viewed

/-- For a text as a name there always is an answer to whether a column is awaited. -/
theorem awaiting?_text (blueprint : Blueprint) (name : String) :
    ∃ awaited, blueprint.awaiting? (.text name) = .ok awaited := by
  unfold awaiting?
  split
  · exact ⟨none, rfl⟩
  · split
    · rw [equal_text]
      exact ⟨_, rfl⟩
    · exact ⟨none, rfl⟩

/-- The awaited column of a name is the column defined last if that is a pending change of the
name. -/
theorem awaiting?_text_eq_some :
    blueprint.awaiting? (.text name) = .ok (some index) ↔
      blueprint.current = some index ∧ Pending blueprint.specs name index := by
  constructor
  · intro awaited
    obtain ⟨current, column, found, awaits, named⟩ := awaiting?_eq_some awaited
    rw [equal_text, Except.ok.injEq, decide_eq_true_eq] at named
    exact ⟨current, column, column?_attached.mp found, awaits, named⟩
  · rintro ⟨current, column, found, ⟨change, untyped⟩, named⟩
    have present : blueprint.currentColumn? = some column := by
      rw [currentColumn?, current, Option.bind_some, column?_attached]
      exact found
    simp only [awaiting?, present, change, ↓reduceIte, equal_text, named, untyped, current]
    rfl

/-- A definition completes the latest pending change of a name exactly if no column is behind it. -/
theorem awaiting?_of_latest (remembers : blueprint.RemembersLast)
    (latest : LatestPending blueprint.specs name index) :
    (LastColumn blueprint.specs index → blueprint.awaiting? (.text name) = .ok (some index)) ∧
      (¬ LastColumn blueprint.specs index → blueprint.awaiting? (.text name) = .ok none) := by
  refine ⟨fun last => ?_, fun behind => ?_⟩
  · exact awaiting?_text_eq_some.mpr ⟨(remembers index).mpr last, latest.1⟩
  · obtain ⟨awaited, found⟩ := blueprint.awaiting?_text name
    cases awaited with
    | none => exact found
    | some other =>
      obtain ⟨current, pending⟩ := awaiting?_text_eq_some.mp found
      have last := (remembers other).mp current
      have notLater : ¬ index < other := fun later => latest.2 other later pending
      have notEarlier : ¬ other < index := fun earlier =>
        last.2 index earlier latest.1.hasColumn
      obtain rfl : other = index := by omega
      exact absurd last behind

/-! ## Definitions -/

/-- The name and the type of the column that a call defines, if its arguments make a type. -/
def definition? (blueprint : Blueprint) : TableCall → Option (Value × ColumnType)
  | .define column name _ => (blueprint.columnType column).toOption.map fun type => (name, type)
  | .softDeletes name => some (name, .dateTime)
  | .foreignId name => some (name, .unsignedInteger)
  | _ => none

end Blueprint

/-- Whether specs differ in nothing but one column, which keeps its kind, its name and its type. -/
def Retouched (index : Nat) (before after : List Spec) : Prop :=
  (∀ other, other ≠ index → after[other]? = before[other]?) ∧
    ∀ column, before[index]? = some (.column column) →
      ∃ edited, after[index]? = some (.column edited) ∧ edited.kind = column.kind ∧
        edited.name = column.name ∧ edited.type = column.type

/-- Whether specs differ in nothing but the change at a position, which has the type afterwards. -/
def Completed (before after : List Spec) (index : Nat) (name : String) (type : ColumnType) : Prop :=
  (∀ other, other ≠ index → after[other]? = before[other]?) ∧
    ∃ column, after[index]? = some (.column column) ∧ column.kind = .modify ∧
      column.name = .text name ∧ column.type = some type

/-- Whether specs differ in nothing but a column of the name and the type, which is added behind the
others. -/
def Extended (before after : List Spec) (name : String) (type : ColumnType) : Prop :=
  ∃ column, after = before ++ [.column column] ∧ column.kind = .add ∧ column.name = .text name ∧
    column.type = some type

theorem Retouched.refl (index : Nat) (specs : List Spec) : Retouched index specs specs :=
  ⟨fun _ _ => rfl, fun column found => ⟨column, found, rfl, rfl, rfl⟩⟩

theorem Retouched.trans {index : Nat} {first second third : List Spec}
    (one : Retouched index first second) (other : Retouched index second third) :
    Retouched index first third := by
  refine ⟨fun position apart => (other.1 position apart).trans (one.1 position apart), ?_⟩
  intro column found
  obtain ⟨middle, present, kind, name, type⟩ := one.2 column found
  obtain ⟨edited, final, kind', name', type'⟩ := other.2 middle present
  exact ⟨edited, final, kind'.trans kind, name'.trans name, type'.trans type⟩

theorem retouched_modify (index : Nat) (specs : List Spec) {change : Column → Column}
    (kind : ∀ column, (change column).kind = column.kind)
    (name : ∀ column, (change column).name = column.name)
    (type : ∀ column, (change column).type = column.type) :
    Retouched index specs (specs.modify index (Spec.mapColumn change)) := by
  refine ⟨fun other apart => ?_, fun column found => ⟨change column, ?_, kind _, name _, type _⟩⟩
  · exact List.getElem?_modify_ne _ _ (Ne.symm apart)
  · rw [List.getElem?_modify_eq, found]
    rfl

theorem Retouched.extended {before after : List Spec} {name : String} {type : ColumnType}
    (retouched : Retouched before.length (before ++ [.column (.typed (.text name) type)]) after) :
    Extended before after name type := by
  obtain ⟨others, here⟩ := retouched
  obtain ⟨edited, found, kind, named, typed⟩ := here _ List.getElem?_concat_length
  refine ⟨edited, List.ext_getElem? fun position => ?_, kind, named, typed⟩
  by_cases at_end : position = before.length
  · rw [at_end, found, List.getElem?_concat_length]
  · rw [others position at_end]
    simp only [List.getElem?_append]
    split
    · rfl
    · have behind : position - before.length ≠ 0 := by omega
      simp [behind]

/-- What is completed is not extended. -/
theorem Completed.not_extended {before after : List Spec} {index : Nat} {name : String}
    {type : ColumnType} (completed : Completed before after index name type)
    (inside : index < before.length) : ¬ Extended before after name type := by
  rintro ⟨column, rfl, -⟩
  have same := completed.1 before.length (by omega)
  simp at same

/-- What is completed does not await its type any more. -/
theorem Completed.not_pending {before after : List Spec} {index : Nat} {name : String}
    {type : ColumnType} (completed : Completed before after index name type) :
    ¬ Pending after name index := by
  rintro ⟨column, found, ⟨-, untyped⟩, -⟩
  obtain ⟨-, other, present, -, -, typed⟩ := completed
  cases found.symm.trans present
  simp [Column.isTyped, typed] at untyped

namespace Blueprint

variable {blueprint : Blueprint} {name : String} {index : Nat} {type : ColumnType}

theorem retouched_numbered (defined : Blueprint) (index : Nat) (column : TypedColumn) :
    Retouched index defined.specs (defined.numbered (.attached index) column).specs := by
  unfold numbered
  split
  · exact retouched_modify index defined.specs (fun _ => rfl) (fun _ => rfl) fun _ => rfl
  · exact .refl _ _

theorem retouched_setDefault {value : Value} {changed : Blueprint}
    (made : blueprint.setDefault (.attached index) value = .ok changed) :
    Retouched index blueprint.specs changed.specs := by
  obtain ⟨-, rfl⟩ | ⟨column, -, -, rfl⟩ := setDefault_cases made
  · exact .refl _ _
  · exact retouched_modify index blueprint.specs (fun _ => rfl) (fun _ => rfl) fun _ => rfl

/-- A call that defines a column goes on with clauses of that column only. -/
theorem callTable_retouches {call : TableCall} {name : Value}
    (defines : blueprint.definition? call = some (name, type)) {defined : Blueprint}
    (made : blueprint.define name type = .ok (defined, .attached index)) :
    Retouched index defined.specs (blueprint.callTable call).blueprint.specs := by
  cases call with
  | define column given default =>
    obtain ⟨found, typed, same⟩ := Option.map_eq_some_iff.mp defines
    obtain ⟨rfl, rfl⟩ := Prod.mk.inj same
    have declared : blueprint.columnType column = .ok found := by
      cases outcome : blueprint.columnType column with
      | error fault => simp [outcome, Except.toOption] at typed
      | ok other => simpa [outcome, Except.toOption] using typed
    have numbered := retouched_numbered defined index column
    change Retouched index defined.specs (blueprint.callDefine column given default).blueprint.specs
    rw [callDefine_eq declared made]
    split
    · exact numbered
    · cases given : (defined.numbered (.attached index) column).setDefault (.attached index)
        default with
      | error fault => exact numbered
      | ok changed => exact numbered.trans (retouched_setDefault given)
  | softDeletes given =>
    obtain ⟨rfl, rfl⟩ := Prod.mk.inj (Option.some.inj defines)
    simp only [callTable, defineMoment, made]
    exact retouched_modify index defined.specs (fun _ => rfl) (fun _ => rfl) fun _ => rfl
  | foreignId given =>
    obtain ⟨rfl, rfl⟩ := Prod.mk.inj (Option.some.inj defines)
    simp only [callTable, made]
    exact .refl _ _
  | _ => cases defines

/-- A call that defines a column completes the change that awaits it. -/
theorem callTable_completes {call : TableCall}
    (defines : blueprint.definition? call = some (.text name, type))
    (awaited : blueprint.awaiting? (.text name) = .ok (some index)) :
    Completed blueprint.specs (blueprint.callTable call).blueprint.specs index name type := by
  have made : blueprint.define (.text name) type =
      .ok (blueprint.updateColumn (.attached index) (Column.withType · type), .attached index) := by
    rw [define, awaited]
    rfl
  obtain ⟨others, here⟩ := callTable_retouches defines made
  obtain ⟨-, column, found, ⟨change, -⟩, named⟩ := awaiting?_text_eq_some.mp awaited
  obtain ⟨edited, final, kind, name', typed⟩ := here (column.withType type) (by
    simp only [updateColumn]
    rw [List.getElem?_modify_eq, found]
    rfl)
  refine ⟨fun other apart => ?_, edited, final, kind.trans change, name'.trans named, typed⟩
  rw [others other apart]
  exact List.getElem?_modify_ne _ _ (Ne.symm apart)

/-- A call that defines a column adds it if no change awaits it. -/
theorem callTable_extends {call : TableCall}
    (defines : blueprint.definition? call = some (.text name, type))
    (unawaited : blueprint.awaiting? (.text name) = .ok none) :
    Extended blueprint.specs (blueprint.callTable call).blueprint.specs name type := by
  have made : blueprint.define (.text name) type =
      .ok (blueprint.appendColumn (.typed (.text name) type),
        .attached blueprint.specs.length) := by
    rw [define, unawaited]
    rfl
  exact (callTable_retouches defines made).extended

/-- After any history, a definition of a name completes the pending change of that name that was
announced last exactly if no column has been added behind it. If one has, the definition adds a
column, and the change goes on awaiting its type. -/
theorem definition_completes_iff {tablePrefix table : String} {moves : List Move}
    {call : TableCall}
    (latest : LatestPending ((empty tablePrefix table).movedAll moves).specs name index)
    (defines : ((empty tablePrefix table).movedAll moves).definition? call =
      some (.text name, type)) :
    let before := (empty tablePrefix table).movedAll moves
    let after := (before.perform (.table call)).blueprint
    (Completed before.specs after.specs index name type ↔ LastColumn before.specs index) ∧
      (Extended before.specs after.specs name type ↔ ¬ LastColumn before.specs index) := by
  intro before after
  have remembers : before.RemembersLast := movedAll_remembersLast tablePrefix table moves
  obtain ⟨completing, extending⟩ := awaiting?_of_latest remembers latest
  have completes (last : LastColumn before.specs index) :
      Completed before.specs after.specs index name type :=
    callTable_completes defines (completing last)
  have extends_ (behind : ¬ LastColumn before.specs index) :
      Extended before.specs after.specs name type :=
    callTable_extends defines (extending behind)
  have apart (completed : Completed before.specs after.specs index name type) :
      ¬ Extended before.specs after.specs name type :=
    completed.not_extended latest.1.hasColumn.lt
  refine ⟨⟨fun completed => ?_, completes⟩, ⟨fun extended last => ?_, extends_⟩⟩
  · by_contra behind
    exact apart completed (extends_ behind)
  · exact apart (completes last) extended

/-- A change of a body that is interrupted by an index, a drop, a definition that fails and a
foreign key. -/
def interruptedChange : List Move :=
  [.call (.table (.modifyColumn (.text "title"))),
    .call (.table (.define (.string (.int 80)) (.text "title") .null)),
    .call (.table (.modifyColumn (.text "body"))),
    .call (.table (.addIndex .plain (.text "title") .null)),
    .call (.table (.dropColumn [.text "old"])),
    .call (.table (.define (.enum (.list [])) (.text "body") .null)),
    .call (.table (.foreign (.text "author")))]

/-- What is no column does not come between a change and its definition. -/
theorem interruptedChange_completed :
    let before := (empty "" "posts").movedAll interruptedChange
    let call := TableCall.define .longText (.text "body") .null
    LatestPending before.specs "body" 1 ∧
      before.definition? call = some (.text "body", .text .long) ∧
      Completed before.specs (before.perform (.table call)).blueprint.specs 1 "body"
        (.text .long) := by
  have latest : LatestPending ((empty "" "posts").movedAll interruptedChange).specs "body" 1 := by
    decide +kernel
  have last : LastColumn ((empty "" "posts").movedAll interruptedChange).specs 1 := by
    decide +kernel
  exact ⟨latest, rfl, (definition_completes_iff latest rfl).1.mpr last⟩

/-- Two changes that are announced before either is defined. -/
def twoChanges : List Move :=
  [.call (.table (.modifyColumn (.text "title"))), .call (.table (.modifyColumn (.text "body")))]

/-- The first of two announced changes is not completed by its definition: a column is added, and
the change goes on awaiting its type. -/
theorem twoChanges_incomplete :
    let before := (empty "" "posts").movedAll twoChanges
    let after := (before.perform (.table (.define .longText (.text "title") .null))).blueprint
    LatestPending before.specs "title" 0 ∧ Pending after.specs "title" 0 ∧
      ¬ Completed before.specs after.specs 0 "title" (.text .long) ∧
      after.addSpecs = [.column (.typed (.text "title") (.text .long))] := by
  intro before after
  have latest : LatestPending before.specs "title" 0 := by decide +kernel
  have pending : Pending after.specs "title" 0 := by decide +kernel
  exact ⟨latest, pending, fun completed => completed.not_pending pending, by decide +kernel⟩

end Blueprint

end Tablewright
