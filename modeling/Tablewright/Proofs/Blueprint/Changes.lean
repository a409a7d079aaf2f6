import Tablewright.Proofs.Blueprint.Modifiers

/-! # Two ways to declare a change

A change of a column can be announced by its name, modified, and then be given its type. Or the
column is defined, modified, and then made a change. Both ways come to the same blueprint, whatever
the modifiers are. For as long as these are made, the column that is announced on the one way would
be the column on the other way if it were completed and added; every modifier commutes with that.
-/

namespace Tablewright

/-! ## Modifiers and types -/

namespace TypedColumn

/-- Whether the arguments make the type, whatever has been declared when they are read. -/
def Makes (column : TypedColumn) (type : ColumnType) : Prop :=
  ∀ blueprint : Blueprint, blueprint.columnType column = .ok type

/-- The column that an announced one becomes by a definition. -/
def complete (column : TypedColumn) (type : ColumnType) (announced : Column) : Column :=
  if column.isNumbered then
    { announced.withType type with autoIncrement := true, primaryKey := true }
  else announced.withType type

/-- The column that there is without an announcement. -/
def add (column : TypedColumn) (type : ColumnType) (announced : Column) : Column :=
  { column.complete type announced with kind := .add }

/-- A definition of a name adds what would complete an announcement of the name. -/
theorem add_bare (column : TypedColumn) (type : ColumnType) (name : Value) :
    column.add type (.bare name .modify) =
      if column.isNumbered then
        { Column.typed name type with autoIncrement := true, primaryKey := true }
      else Column.typed name type := by
  unfold add complete
  split <;> rfl

theorem add_name (column : TypedColumn) (type : ColumnType) (announced : Column) :
    (column.add type announced).name = announced.name := by
  unfold add complete
  split <;> rfl

/-- A change of what there is without an announcement completes the announcement. -/
theorem change_add (column : TypedColumn) (type : ColumnType) {announced : Column}
    (change : announced.kind = .modify) :
    { column.add type announced with kind := .modify } = column.complete type announced := by
  have kept : (column.complete type announced).kind = .modify := by
    unfold complete
    split <;> exact change
  rw [add, ← kept]

end TypedColumn

/-- Whether a call is a modifier that a column of a type takes, and that needs no reading of the
blueprint. A name can be written out; a comment and an expression may be anything. -/
def ColumnCall.Modifies (type : ColumnType) : ColumnCall → Prop
  | .nullable value => value ≠ .null
  | .setDefault value => type.defaultProblems value = []
  | .after other => other.MentionsNothing ∧ other.isWritten
  | .addIndex _ name => name.MentionsNothing ∧ name.isWritten
  | .defaultRaw _ | .useCurrent | .useCurrentOnUpdate | .comment _ | .first => True
  | .sql | .change => False

/-- What a modifier makes of a column does not depend on whether the column is completed before. -/
theorem ColumnCall.edit_add {call : ColumnCall} {type : ColumnType} (modifies : call.Modifies type)
    (column : TypedColumn) (announced : Column) :
    call.edit (column.add type announced) = column.add type (call.edit announced) := by
  unfold TypedColumn.add TypedColumn.complete
  cases call with
  | nullable value =>
    have given : value ≠ .null := modifies
    split <;> simp [edit, Column.withType, given]
  | change => cases modifies
  | _ => split <;> rfl

/-- A column that awaits its type takes every default. -/
theorem Column.AwaitsType.takes {announced : Column} (awaiting : announced.AwaitsType)
    (call : ColumnCall) : announced.takes call = true := by
  have untyped : announced.type = none := by
    have neither := awaiting.2
    rw [isTyped, Bool.or_eq_false_iff, Option.isSome_eq_false_iff, Option.isNone_iff_eq_none]
      at neither
    exact neither.1
  cases call with
  | setDefault value => simp [Column.takes, Column.defaultProblems, untyped]
  | _ => rfl

/-- A column of a type takes the modifiers that fit the type. -/
theorem ColumnCall.Modifies.takes_added {call : ColumnCall} {type : ColumnType}
    (modifies : call.Modifies type) (column : TypedColumn) (announced : Column) :
    (column.add type announced).takes call = true := by
  cases call with
  | setDefault value =>
    have fits : type.defaultProblems value = [] := modifies
    have typed : (column.add type announced).type = some type := by
      unfold TypedColumn.add TypedColumn.complete
      split <;> rfl
    simp [Column.takes, Column.defaultProblems, typed, fits]
  | _ => rfl

/-- A modifier leaves an announced column one that awaits its type. -/
theorem ColumnCall.edit_awaits {call : ColumnCall} {column : Column} (awaits : column.AwaitsType) :
    (call.edit column).AwaitsType ∧ (call.edit column).name = column.name := by
  cases call with
  | change => exact ⟨⟨rfl, awaits.2⟩, rfl⟩
  | _ => exact ⟨awaits, rfl⟩

namespace Blueprint

variable {blueprint : Blueprint} {name : String} {index : Nat} {type : ColumnType}

/-! ## Types -/

/-- The arguments make their type anywhere unless an enumeration is told values that mention
something. -/
theorem makes_of_type {column : TypedColumn} (typed : column.type = .ok type)
    (plain : ∀ values, column = .enum values → ∃ elements, values = .list elements ∧
      ∀ element ∈ elements, element.MentionsNothing) : column.Makes type := by
  intro blueprint
  cases column with
  | enum values =>
    obtain ⟨elements, rfl, nothing⟩ := plain values rfl
    exact bind_eq_ok.mpr ⟨elements, rfl, bind_eq_ok.mpr ⟨elements, mapM_words nothing, typed⟩⟩
  | _ => exact typed

/-! ## Columns in their blueprint -/

theorem modify_congr {α : Type} {items : List α} {index : Nat} {change other : α → α}
    (same : ∀ item, items[index]? = some item → change item = other item) :
    items.modify index change = items.modify index other := by
  apply List.ext_getElem?
  intro position
  by_cases here : index = position
  · subst here
    rw [List.getElem?_modify_eq, List.getElem?_modify_eq]
    cases found : items[index]? with
    | none => rfl
    | some item => exact congrArg some (same item found)
  · rw [List.getElem?_modify_ne _ _ here, List.getElem?_modify_ne _ _ here]

theorem modify_append {α : Type} {items : List α} {index : Nat} (within : index < items.length)
    (more : List α) (change : α → α) :
    (items ++ more).modify index change = items.modify index change ++ more := by
  induction items generalizing index with
  | nil => exact absurd within (Nat.not_lt_zero _)
  | cons item items ih =>
    cases index with
    | zero => rfl
    | succ index => exact congrArg (item :: ·) (ih (Nat.lt_of_succ_lt_succ within))

theorem modify_concat {α : Type} (items : List α) (item : α) (change : α → α) :
    (items ++ [item]).modify items.length change = items ++ [change item] := by
  induction items with
  | nil => rfl
  | cons first items ih => exact congrArg (first :: ·) ih

theorem updateColumn_updateColumn (blueprint : Blueprint) (ref : ColumnRef)
    (first second : Column → Column) :
    (blueprint.updateColumn ref first).updateColumn ref second =
      blueprint.updateColumn ref (second ∘ first) := by
  cases ref with
  | attached index =>
    have both : Spec.mapColumn second ∘ Spec.mapColumn first = Spec.mapColumn (second ∘ first) := by
      funext spec
      cases spec <;> rfl
    simp only [updateColumn, List.modify_modify_eq, both]
  | detached index => simp only [updateColumn, List.modify_modify_eq]

/-- Only what becomes of the column that there is matters. -/
theorem updateColumn_congr {column : Column}
    (found : blueprint.column? (.attached index) = some column) {change other : Column → Column}
    (same : change column = other column) :
    blueprint.updateColumn (.attached index) change =
      blueprint.updateColumn (.attached index) other := by
  have specs : blueprint.specs.modify index (Spec.mapColumn change) =
      blueprint.specs.modify index (Spec.mapColumn other) := by
    apply modify_congr
    intro spec present
    obtain rfl := Option.some.inj (present.symm.trans (column?_attached.mp found))
    exact congrArg Spec.column same
  simp only [updateColumn, specs]

theorem updateColumn_appendColumn (blueprint : Blueprint) (column : Column)
    (change : Column → Column) :
    (blueprint.appendColumn column).updateColumn (.attached blueprint.specs.length) change =
      blueprint.appendColumn (change column) := by
  simp only [updateColumn, appendColumn, modify_concat, Spec.mapColumn]

theorem updateColumn_appendConstraint (within : index < blueprint.specs.length) (text : String)
    (change : Column → Column) :
    (blueprint.appendConstraint text).updateColumn (.attached index) change =
      (blueprint.updateColumn (.attached index) change).appendConstraint text := by
  simp only [updateColumn, appendConstraint, modify_append within]

/-- A definition completes the column that awaits it. -/
theorem numbered_updateColumn (blueprint : Blueprint) (ref : ColumnRef) (column : TypedColumn)
    (type : ColumnType) :
    (blueprint.updateColumn ref (Column.withType · type)).numbered ref column =
      blueprint.updateColumn ref (column.complete type) := by
  unfold numbered TypedColumn.complete
  split
  · exact updateColumn_updateColumn blueprint ref _ _
  · rfl

/-! ## One modifier -/

/-- A value that mentions nothing reads the same in every blueprint. -/
theorem shown_of_plain {value : Value} (plain : value.MentionsNothing) (written : value.isWritten) :
    blueprint.shown value = .ok value.plainForm := by
  rw [Blueprint.shown, blueprint.words_eq_self plain]
  exact Value.shown_of_isWritten written

/-- A modifier other than an index edits its column, if the column takes it. -/
theorem callColumn_edit {column : Column}
    (found : blueprint.column? (.attached index) = some column) {call : ColumnCall}
    (modifies : call.Modifies type) (takes : column.takes call = true)
    (other : ∀ kind label, call ≠ .addIndex kind label) :
    blueprint.callColumn (.attached index) call =
      (blueprint.updateColumn (.attached index) call.edit).awaits (.column (.attached index)) := by
  cases call with
  | sql | change => cases modifies
  | addIndex kind label => exact absurd rfl (other kind label)
  | setDefault value =>
    have none : column.defaultProblems value = [] := List.isEmpty_iff.mp takes
    simp only [callColumn, setDefault_of_taken found none]
    rfl
  | after value =>
    simp only [callColumn, placeAfter, shown_of_plain modifies.1 modifies.2]
    rfl
  | _ => rfl

/-- The definition of an index on a column that is named by a text. -/
def indexText (table name : String) (kind : IndexKind) (label : Value) : String :=
  kind.sql (if label.isTruthy then label.plainForm else table ++ "_" ++ name ++ "_" ++ kind.suffix)
    (quoteName name)

theorem callColumn_addIndex (named : blueprint.columnName (.attached index) = .text name)
    (kind : IndexKind) {label : Value} (plain : label.MentionsNothing) (written : label.isWritten) :
    blueprint.callColumn (.attached index) (.addIndex kind label) =
      (blueprint.appendConstraint (indexText blueprint.table name kind label)).awaits
        (.column (.attached index)) := by
  have viewed : blueprint.isTruthy label = label.isTruthy := by
    cases label with
    | mention something => cases plain fun _ => .ok .null
    | _ => rfl
  have labelled : blueprint.indexName kind [.text name] label =
      .ok (if label.isTruthy then label.plainForm
        else blueprint.table ++ "_" ++ name ++ "_" ++ kind.suffix) := by
    rw [indexName, viewed, shown_of_plain plain written]
    split <;> rfl
  have columns : [Value.text name].mapM blueprint.shown = .ok [name] := by
    have note : (Value.text name).IsNote := trivial
    rw [List.mapM_cons, blueprint.shown_note note]
    rfl
  have added : blueprint.addIndex kind (.text name) label =
      .ok (blueprint.appendConstraint (indexText blueprint.table name kind label)) :=
    bind_eq_ok.mpr ⟨[.text name], rfl, bind_eq_ok.mpr ⟨_, labelled,
      bind_eq_ok.mpr ⟨[name], columns, rfl⟩⟩⟩
  simp only [callColumn, named, added, attempt]

/-- While a name awaits its type, a modifier leaves it awaiting, and does the same to the blueprint
in which the column is added with the type. -/
theorem perform_awaited (awaited : blueprint.awaiting? (.text name) = .ok (some index))
    {call : ColumnCall} (modifies : call.Modifies type) (column : TypedColumn) :
    ∃ after : Blueprint,
      blueprint.perform (.column (.attached index) call) =
        after.awaits (.column (.attached index)) ∧
      (blueprint.updateColumn (.attached index) (column.add type)).perform
          (.column (.attached index) call) =
        (after.updateColumn (.attached index) (column.add type)).awaits
          (.column (.attached index)) ∧
      after.awaiting? (.text name) = .ok (some index) := by
  obtain ⟨current, announced, found, awaiting, named⟩ := awaiting?_text_eq_some.mp awaited
  have present : blueprint.column? (.attached index) = some announced := column?_attached.mpr found
  have added : (blueprint.updateColumn (.attached index) (column.add type)).column?
      (.attached index) = some (column.add type announced) := by
    rw [column?_updateColumn, present]
    rfl
  by_cases isIndex : ∃ kind label, call = .addIndex kind label
  · obtain ⟨kind, label, rfl⟩ := isIndex
    have within : index < blueprint.specs.length := (List.getElem?_eq_some_iff.mp found).1
    have name? : blueprint.columnName (.attached index) = .text name := by
      rw [columnName, present]
      exact named
    have name?' : (blueprint.updateColumn (.attached index) (column.add type)).columnName
        (.attached index) = .text name := by
      rw [columnName, added]
      exact (column.add_name type announced).trans named
    refine ⟨_, callColumn_addIndex name? kind modifies.1 modifies.2, ?_, ?_⟩
    · rw [perform, callColumn_addIndex name?' kind modifies.1 modifies.2,
        updateColumn_appendConstraint within]
      rfl
    · refine awaiting?_text_eq_some.mpr ⟨current, announced, ?_, awaiting, named⟩
      exact (List.getElem?_append_left within).trans found
  · have other (kind : IndexKind) (label : Value) : call ≠ .addIndex kind label :=
      fun same => isIndex ⟨kind, label, same⟩
    refine ⟨_, callColumn_edit present modifies (awaiting.takes call) other, ?_, ?_⟩
    · have commutes : (call.edit ∘ column.add type) announced =
          (column.add type ∘ call.edit) announced :=
        call.edit_add modifies column announced
      rw [perform, callColumn_edit added modifies (modifies.takes_added column announced) other,
        updateColumn_updateColumn, updateColumn_updateColumn, updateColumn_congr present commutes]
    · obtain ⟨still, same⟩ := call.edit_awaits awaiting
      refine awaiting?_text_eq_some.mpr ⟨current, call.edit announced, ?_, still, same.trans named⟩
      apply column?_attached.mp
      rw [column?_updateColumn, present]
      rfl

/-! ## The two ways -/

/-- Whether every one of moves in turn succeeds. -/
def goesThrough (blueprint : Blueprint) : List Move → Bool
  | [] => true
  | move :: moves => !blueprint.fails move && (blueprint.moved move).goesThrough moves

/-- The moves that make calls on a column. -/
def columnMoves (ref : ColumnRef) (calls : List ColumnCall) : List Move :=
  calls.map fun call => .call (.column ref call)

/-- Moves that announce a change of a column, modify it, and define it. -/
def announcedFirst (column : TypedColumn) (name : String) (ref : ColumnRef)
    (calls : List ColumnCall) : List Move :=
  .call (.table (.modifyColumn (.text name))) :: (columnMoves ref calls ++
    [.call (.table (.define column (.text name) .null))])

/-- Moves that define a column, modify it, and make it a change. -/
def changedLast (column : TypedColumn) (name : String) (ref : ColumnRef)
    (calls : List ColumnCall) : List Move :=
  .call (.table (.define column (.text name) .null)) :: (columnMoves ref calls ++
    [.call (.column ref .change)])

theorem goesThrough_append (blueprint : Blueprint) (earlier later : List Move) :
    blueprint.goesThrough (earlier ++ later) =
      (blueprint.goesThrough earlier && (blueprint.movedAll earlier).goesThrough later) := by
  induction earlier generalizing blueprint with
  | nil => rfl
  | cons move moves ih =>
    rw [List.cons_append, goesThrough, goesThrough, ih, Bool.and_assoc]
    rfl

/-- A call that succeeds leaves the rest to the blueprint that comes of it. -/
theorem goesThrough_made {call : Call} {after : Blueprint} {target : Target}
    (made : blueprint.perform call = after.awaits target) (moves : List Move) :
    blueprint.goesThrough (.call call :: moves) = after.goesThrough moves ∧
      blueprint.movedAll (.call call :: moves) = after.movedAll moves := by
  rw [goesThrough, movedAll_cons, fails, moved, made]
  exact ⟨rfl, rfl⟩

/-- Modifiers leave the name awaiting its type, and do the same to the blueprint in which the column
is added with the type. -/
theorem movedAll_awaited (awaited : blueprint.awaiting? (.text name) = .ok (some index))
    {calls : List ColumnCall} (modify : ∀ call ∈ calls, call.Modifies type)
    (column : TypedColumn) :
    let moves := columnMoves (.attached index) calls
    let added := blueprint.updateColumn (.attached index) (column.add type)
    blueprint.goesThrough moves ∧ added.goesThrough moves ∧
      added.movedAll moves =
        (blueprint.movedAll moves).updateColumn (.attached index) (column.add type) ∧
      (blueprint.movedAll moves).awaiting? (.text name) = .ok (some index) := by
  induction calls generalizing blueprint with
  | nil => exact ⟨rfl, rfl, rfl, awaited⟩
  | cons call calls ih =>
    obtain ⟨first, rest⟩ := List.forall_mem_cons.mp modify
    obtain ⟨after, made, made', still⟩ := perform_awaited awaited first column
    obtain ⟨through, through', same, awaited'⟩ := ih still rest
    obtain ⟨goes, moved⟩ := goesThrough_made made (columnMoves (.attached index) calls)
    obtain ⟨goes', moved'⟩ := goesThrough_made made' (columnMoves (.attached index) calls)
    refine ⟨goes.trans through, goes'.trans through', moved'.trans ?_, moved ▸ awaited'⟩
    rw [same, ← moved]
    rfl

/-- A definition completes the column that awaits it, and adds it where no column does. -/
theorem perform_define_awaited (awaited : blueprint.awaiting? (.text name) = .ok (some index))
    {column : TypedColumn} (makes : column.Makes type) :
    blueprint.perform (.table (.define column (.text name) .null)) =
      (blueprint.updateColumn (.attached index) (column.complete type)).awaits
        (.column (.attached index)) := by
  have defined : blueprint.define (.text name) type =
      .ok (blueprint.updateColumn (.attached index) (Column.withType · type), .attached index) := by
    rw [define, awaited]
    rfl
  rw [perform, callTable, callDefine_eq (makes blueprint) defined, if_pos rfl,
    numbered_updateColumn]

theorem perform_define_added (free : blueprint.awaiting? (.text name) = .ok none)
    {column : TypedColumn} (makes : column.Makes type) :
    blueprint.perform (.table (.define column (.text name) .null)) =
      ((blueprint.appendColumn (.bare (.text name) .modify)).updateColumn
        (.attached blueprint.specs.length) (column.add type)).awaits
          (.column (.attached blueprint.specs.length)) := by
  rw [perform, callTable, callDefine_eq (makes blueprint) (define_added free type), if_pos rfl,
    updateColumn_appendColumn, column.add_bare]
  unfold numbered
  split
  · rw [updateColumn_appendColumn]
  · rfl

/-- The blueprint in which a change of the name is announced. -/
def announce (blueprint : Blueprint) (name : String) : Blueprint :=
  blueprint.appendColumn (.bare (.text name) .modify)

theorem awaiting?_announce (blueprint : Blueprint) (name : String) :
    (blueprint.announce name).awaiting? (.text name) = .ok (some blueprint.specs.length) :=
  awaiting?_text_eq_some.mpr ⟨rfl, _, List.getElem?_concat_length, ⟨rfl, rfl⟩, rfl⟩

section Ways

variable {column : TypedColumn} (makes : column.Makes type)
variable {calls : List ColumnCall} (modify : ∀ call ∈ calls, call.Modifies type)
include makes modify

/-- The definition at the end completes what was announced and modified. -/
theorem announcedFirst_completes (blueprint : Blueprint) (name : String) :
    let ref := ColumnRef.attached blueprint.specs.length
    blueprint.goesThrough (announcedFirst column name ref calls) ∧
      blueprint.movedAll (announcedFirst column name ref calls) =
        ((blueprint.announce name).movedAll (columnMoves ref calls)).updateColumn ref
          (column.complete type) := by
  intro ref
  obtain ⟨through, -, -, still⟩ :=
    movedAll_awaited (blueprint.awaiting?_announce name) modify column
  obtain ⟨ends, ended⟩ := goesThrough_made (perform_define_awaited still makes) []
  constructor
  · change (blueprint.announce name).goesThrough (columnMoves ref calls ++ _) = true
    rw [goesThrough_append, through, ends]
    rfl
  · rw [announcedFirst, movedAll_cons, movedAll_append]
    exact ended

/-- The change at the end completes what would have been announced and was modified. -/
theorem changedLast_completes (free : blueprint.awaiting? (.text name) = .ok none) :
    let ref := ColumnRef.attached blueprint.specs.length
    blueprint.goesThrough (changedLast column name ref calls) ∧
      blueprint.movedAll (changedLast column name ref calls) =
        ((blueprint.announce name).movedAll (columnMoves ref calls)).updateColumn ref
          (column.complete type) := by
  intro ref
  obtain ⟨-, through, same, still⟩ :=
    movedAll_awaited (blueprint.awaiting?_announce name) modify column
  obtain ⟨begins, begun⟩ := goesThrough_made (perform_define_added free makes)
    (columnMoves ref calls ++ [.call (.column ref .change)])
  constructor
  · rw [changedLast, begins, goesThrough_append]
    exact congrArg (· && true) through
  · rw [changedLast, begun, movedAll_append]
    obtain ⟨-, found, present, awaiting, -⟩ := awaiting?_text_eq_some.mp still
    let reached := (blueprint.announce name).movedAll (columnMoves ref calls)
    calc _
        = (reached.updateColumn ref (column.add type)).movedAll
            [.call (.column ref .change)] := congrArg (movedAll · _) same
      _ = reached.updateColumn ref
            ((fun changed => { changed with kind := .modify }) ∘ column.add type) :=
          updateColumn_updateColumn reached ref _ _
      _ = reached.updateColumn ref (column.complete type) :=
          updateColumn_congr (column?_attached.mpr present) (column.change_add type awaiting.1)

end Ways

/-- The two ways to declare a change come to the same blueprint. -/
theorem announcedFirst_eq_changedLast (column : TypedColumn) (makes : column.Makes type)
    (free : ∀ index, blueprint.current = some index → ¬ Pending blueprint.specs name index)
    {calls : List ColumnCall} (modify : ∀ call ∈ calls, call.Modifies type) :
    let ref := ColumnRef.attached blueprint.specs.length
    (blueprint.callTable (.modifyColumn (.text name))).result = .ok (.ofColumn ref) ∧
      (blueprint.callTable (.define column (.text name) .null)).result = .ok (.ofColumn ref) ∧
      blueprint.goesThrough (announcedFirst column name ref calls) ∧
      blueprint.goesThrough (changedLast column name ref calls) ∧
      blueprint.movedAll (announcedFirst column name ref calls) =
        blueprint.movedAll (changedLast column name ref calls) := by
  intro ref
  have unawaited : blueprint.awaiting? (.text name) = .ok none := by
    obtain ⟨awaited, found⟩ := blueprint.awaiting?_text name
    cases awaited with
    | none => exact found
    | some index =>
      obtain ⟨current, pending⟩ := awaiting?_text_eq_some.mp found
      exact absurd pending (free index current)
  have defined := perform_define_added unawaited makes
  obtain ⟨through, completed⟩ := announcedFirst_completes makes modify blueprint name
  obtain ⟨through', completed'⟩ := changedLast_completes makes modify unawaited
  exact ⟨rfl, congrArg Compiled.result defined, through, through',
    completed.trans completed'.symm⟩

/-- Modifiers of an enumeration with two indexes between them. -/
def stateChange : List ColumnCall :=
  [.nullable (.bool true), .setDefault (.text "live"), .addIndex .plain .null,
    .comment (.text "it's"), .after (.text "id"), .nullable (.bool false), .useCurrentOnUpdate,
    .addIndex .unique (.text "by_state")]

theorem stateChange_declared :
    let before := (empty "app_" "posts").movedAll
      [.call (.table (.define .increments (.text "id") .null)),
        .call (.table (.modifyColumn (.text "body")))]
    let column : TypedColumn := .enum (.list [.text "draft", .text "live"])
    let announced := before.movedAll (announcedFirst column "state" (.attached 2) stateChange)
    let changed := before.movedAll (changedLast column "state" (.attached 2) stateChange)
    column.Makes (.enum ["draft", "live"]) ∧
      (∀ index, before.current = some index → ¬ Pending before.specs "state" index) ∧
      (∀ call ∈ stateChange, call.Modifies (.enum ["draft", "live"])) ∧
      announced = changed ∧
      announced.toAlter.result = .ok
        ["ALTER TABLE `app_posts` ADD COLUMN `id` INT UNSIGNED NOT NULL AUTO_INCREMENT PRIMARY KEY",
          "ALTER TABLE `app_posts` MODIFY COLUMN `body`",
          "ALTER TABLE `app_posts` MODIFY COLUMN `state` ENUM('draft','live') NOT NULL " ++
            "DEFAULT 'live' ON UPDATE CURRENT_TIMESTAMP COMMENT 'it''s' AFTER `id`",
          "ALTER TABLE `app_posts` ADD KEY `app_posts_state_index` (`state`)",
          "ALTER TABLE `app_posts` ADD UNIQUE KEY `by_state` (`state`)"] := by
  intro before column announced changed
  have plain : ∀ values, column = .enum values → ∃ elements, values = .list elements ∧
      ∀ element ∈ elements, element.MentionsNothing := by
    intro values same
    obtain rfl := TypedColumn.enum.inj same
    exact ⟨_, rfl, by simp [Value.MentionsNothing, Value.fill]⟩
  have makes : column.Makes (.enum ["draft", "live"]) := makes_of_type rfl plain
  have free : ∀ index, before.current = some index → ¬ Pending before.specs "state" index := by
    intro index current
    obtain rfl : 1 = index := Option.some.inj current
    decide +kernel
  have modify : ∀ call ∈ stateChange, call.Modifies (.enum ["draft", "live"]) := by
    have fits : (ColumnType.enum ["draft", "live"]).defaultProblems (.text "live") = [] := by
      decide
    simp [stateChange, ColumnCall.Modifies, Value.MentionsNothing, Value.fill, Value.isWritten,
      fits]
  obtain ⟨-, -, -, -, same⟩ := announcedFirst_eq_changedLast column makes free modify
  exact ⟨makes, free, modify, same, by decide +kernel⟩

end Blueprint

end Tablewright
