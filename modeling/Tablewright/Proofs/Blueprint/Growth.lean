import Tablewright.Proofs.Blueprint.Compiled
import Tablewright.Proofs.Blueprint.Modifiers

/-! # How specs grow

One call changes at most one of the specs there are, and that one stays what it is: a column keeps
its name, its definition and the type it once has, and nothing that is no column changes at all.
Whatever else a call does to the specs it does behind them. So through any history the specs are
those there were, in their places, with others behind them, and the column defined last is always
the last column among them.

A column that a table gets has a type or a definition, unless null is given for its definition. A
statement that creates the table says what each of its columns holds.
-/

namespace Tablewright

/-! ## Specs that persist -/

/-- Whether a spec is another at a later time. A column may become a change, and it may get a type
as long as it has neither a type nor a definition. -/
inductive Spec.Persists : Spec → Spec → Prop
  | plain (spec : PlainSpec) : Persists (.plain spec) (.plain spec)
  | column {before after : Column} (name : after.name = before.name)
    (definition : after.definition = before.definition)
    (kind : after.kind = before.kind ∨ after.kind = .modify)
    (type : before.isTyped = true → after.type = before.type) :
    Persists (.column before) (.column after)

/-- Whether a spec is no column that is added without a type and without a definition. -/
def Spec.IsDeclared (spec : Spec) : Prop :=
  ∀ column ∈ spec.column?, column.kind = .add → column.isTyped = true

namespace Spec

theorem Persists.refl (spec : Spec) : spec.Persists spec := by
  cases spec with
  | column column => exact .column rfl rfl (.inl rfl) fun _ => rfl
  | plain spec => exact .plain spec

/-- What has a type or a definition goes on having one. -/
theorem isTyped_of_kept {before after : Column} (definition : after.definition = before.definition)
    (type : before.isTyped = true → after.type = before.type) (typed : before.isTyped = true) :
    after.isTyped = true := by
  simpa only [Column.isTyped, type typed, definition] using typed

theorem Persists.trans {first second third : Spec} (earlier : first.Persists second)
    (later : second.Persists third) : first.Persists third := by
  cases earlier with
  | plain spec => exact later
  | column name definition kind type =>
    cases later with
    | column name' definition' kind' type' =>
      refine .column (name'.trans name) (definition'.trans definition) ?_ fun typed => ?_
      · rcases kind' with same | change
        · rw [same]
          exact kind
        · exact .inr change
      · exact (type' (isTyped_of_kept definition type typed)).trans (type typed)

theorem Persists.isDeclared {before after : Spec} (persists : before.Persists after)
    (declared : before.IsDeclared) : after.IsDeclared := by
  cases persists with
  | plain spec => exact declared
  | @column before after name definition kind type =>
    rintro _ ⟨⟩ add
    have wasAdded : before.kind = .add := by
      rcases kind with same | change
      · exact same.symm.trans add
      · cases change.symm.trans add
    exact isTyped_of_kept definition type (declared before rfl wasAdded)

theorem persists_mapColumn {spec : Spec} {change : Column → Column}
    (kept : ∀ column, spec = .column column →
      (Spec.column column).Persists (.column (change column))) :
    spec.Persists (spec.mapColumn change) := by
  cases spec with
  | column column => exact kept column rfl
  | plain spec => exact .plain spec

theorem isDeclared_plain (spec : PlainSpec) : (Spec.plain spec).IsDeclared := by
  rintro _ ⟨⟩

theorem isDeclared_typed (name : Value) (type : ColumnType) :
    (Spec.column (.typed name type)).IsDeclared := by
  rintro _ ⟨⟩ -
  rfl

theorem isDeclared_change (name : Value) : (Spec.column (.bare name .modify)).IsDeclared := by
  rintro _ ⟨⟩ ⟨⟩

theorem isDeclared_raw (name : Value) {definition : Value} (given : definition ≠ .null) :
    (Spec.column (.raw name definition)).IsDeclared := by
  rintro _ ⟨⟩ -
  simpa [Column.isTyped, Column.raw, Column.bare] using given

end Spec

/-! ## Specs that grow -/

/-- Whether specs have grown out of others. These stand where they stood, and only the one at the
position may have changed. What is behind them is declared unless something is lacking. -/
structure Grown (lacking : Prop) (position : Nat) (before after : List Spec) : Prop where
  length : before.length ≤ after.length
  others : ∀ index < before.length, index ≠ position → after[index]? = before[index]?
  here : ∀ spec, before[position]? = some spec →
    ∃ edited, after[position]? = some edited ∧ spec.Persists edited
  added : ∀ index spec, before.length ≤ index → after[index]? = some spec →
    spec.IsDeclared ∨ lacking

namespace Grown

variable {lacking : Prop} {position : Nat} {before after : List Spec}

theorem refl (lacking : Prop) (position : Nat) (specs : List Spec) :
    Grown lacking position specs specs where
  length := Nat.le_refl _
  others := fun _ _ _ => rfl
  here := fun spec found => ⟨spec, found, .refl spec⟩
  added := by
    intro index spec behind found
    have inside := (List.getElem?_eq_some_iff.mp found).1
    omega

theorem append (grown : Grown lacking position before after) {specs : List Spec}
    (declared : ∀ spec ∈ specs, spec.IsDeclared ∨ lacking) :
    Grown lacking position before (after ++ specs) where
  length := by
    have longer := grown.length
    rw [List.length_append]
    omega
  others := by
    intro index inside apart
    have within : index < after.length := Nat.lt_of_lt_of_le inside grown.length
    rw [List.getElem?_append_left within]
    exact grown.others index inside apart
  here := by
    intro spec found
    obtain ⟨edited, present, persists⟩ := grown.here spec found
    have within := (List.getElem?_eq_some_iff.mp present).1
    exact ⟨edited, (List.getElem?_append_left within).trans present, persists⟩
  added := by
    intro index spec behind found
    rw [List.getElem?_append] at found
    split at found
    · exact grown.added index spec behind found
    · exact declared spec (List.mem_of_getElem? found)

theorem modify (grown : Grown lacking position before after) {index : Nat}
    (may : index = position ∨ before.length ≤ index) {change : Column → Column}
    (kept : ∀ column, after[index]? = some (.column column) →
      (Spec.column column).Persists (.column (change column))) :
    Grown lacking position before (after.modify index (Spec.mapColumn change)) where
  length := by
    rw [List.length_modify]
    exact grown.length
  others := by
    intro other inside apart
    have elsewhere : index ≠ other := by omega
    rw [List.getElem?_modify_ne _ _ elsewhere]
    exact grown.others other inside apart
  here := by
    intro spec found
    obtain ⟨edited, present, persists⟩ := grown.here spec found
    by_cases same : index = position
    · subst same
      refine ⟨edited.mapColumn change, ?_, persists.trans (Spec.persists_mapColumn ?_)⟩
      · rw [List.getElem?_modify_eq, present]
        rfl
      · rintro column rfl
        exact kept column present
    · exact ⟨edited, (List.getElem?_modify_ne _ _ same).trans present, persists⟩
  added := by
    intro other spec behind found
    by_cases same : index = other
    · subst same
      rw [List.getElem?_modify_eq] at found
      obtain ⟨former, present, rfl⟩ := Option.map_eq_some_iff.mp found
      refine (grown.added index former behind present).imp_left fun declared => ?_
      refine (Spec.persists_mapColumn ?_).isDeclared declared
      rintro column rfl
      exact kept column present
    · rw [List.getElem?_modify_ne _ _ same] at found
      exact grown.added other spec behind found

/-- Every spec is there afterwards, in its place. -/
theorem persists (grown : Grown lacking position before after) {index : Nat} {spec : Spec}
    (found : before[index]? = some spec) :
    ∃ edited, after[index]? = some edited ∧ spec.Persists edited := by
  by_cases same : index = position
  · subst same
    exact grown.here spec found
  · have inside := (List.getElem?_eq_some_iff.mp found).1
    exact ⟨spec, (grown.others index inside same).trans found, .refl spec⟩

/-- If nothing is lacking and all specs were declared, all are declared afterwards. -/
theorem isDeclared (grown : Grown lacking position before after) (complete : ¬ lacking)
    (declared : ∀ spec ∈ before, spec.IsDeclared) : ∀ spec ∈ after, spec.IsDeclared := by
  intro spec member
  obtain ⟨index, found⟩ := List.mem_iff_getElem?.mp member
  by_cases inside : index < before.length
  · obtain ⟨edited, present, persists⟩ := grown.persists (List.getElem?_eq_getElem inside)
    obtain rfl := Option.some.inj (found.symm.trans present)
    exact persists.isDeclared (declared _ (List.getElem_mem inside))
  · have behind : before.length ≤ index := by omega
    exact (grown.added index spec behind found).resolve_right complete

end Grown

/-! ## Calls -/

/-- Whether a call adds a column and gives null for its definition. -/
def TableCall.LacksDefinition : TableCall → Prop
  | .addColumn _ definition => definition = .null
  | _ => False

namespace Blueprint

variable {lacking : Prop} {blueprint after : Blueprint}

/-- Whether the specs of a blueprint have grown to those of another. -/
def Grows (before : Blueprint) (lacking : Prop) (after : Blueprint) : Prop :=
  ∃ position, Grown lacking position before.specs after.specs

theorem Grows.of_specs (same : after.specs = blueprint.specs) : blueprint.Grows lacking after :=
  ⟨0, same ▸ .refl lacking 0 blueprint.specs⟩

theorem Grows.refl (blueprint : Blueprint) (lacking : Prop) : blueprint.Grows lacking blueprint :=
  .of_specs rfl

theorem Grows.append {specs : List Spec} (same : after.specs = blueprint.specs ++ specs)
    (declared : ∀ spec ∈ specs, spec.IsDeclared ∨ lacking) : blueprint.Grows lacking after :=
  ⟨0, same ▸ (Grown.refl lacking 0 blueprint.specs).append declared⟩

theorem updateColumn_grows (ref : ColumnRef) {change : Column → Column}
    (kept : ∀ column, (Spec.column column).Persists (.column (change column))) :
    blueprint.Grows lacking (blueprint.updateColumn ref change) := by
  cases ref with
  | attached index =>
    exact ⟨index, (Grown.refl lacking index blueprint.specs).modify (.inl rfl) fun column _ =>
      kept column⟩
  | detached index => exact .of_specs rfl

theorem appendPlain_grows (spec : PlainSpec) :
    blueprint.Grows lacking (blueprint.appendPlain spec) := by
  refine .append rfl fun other member => .inl ?_
  obtain rfl := List.mem_singleton.mp member
  exact Spec.isDeclared_plain spec

theorem appendColumn_grows {column : Column}
    (declared : (Spec.column column).IsDeclared ∨ lacking) :
    blueprint.Grows lacking (blueprint.appendColumn column) := by
  refine .append rfl fun other member => ?_
  obtain rfl := List.mem_singleton.mp member
  exact declared

theorem appendConstraints_grows (texts : List String)
    (same : after.specs = blueprint.specs ++ texts.map Spec.constraint) :
    blueprint.Grows lacking after := by
  refine .append same fun spec member => .inl ?_
  obtain ⟨text, -, rfl⟩ := List.mem_map.mp member
  exact Spec.isDeclared_plain _

theorem setDefault_grows {ref : ColumnRef} {value : Value}
    (made : blueprint.setDefault ref value = .ok after) : blueprint.Grows lacking after := by
  obtain ⟨-, rfl⟩ | ⟨column, -, -, rfl⟩ := setDefault_cases made
  · exact .refl _ _
  · exact updateColumn_grows ref fun _ => .column rfl rfl (.inl rfl) fun _ => rfl

theorem placeAfter_grows {ref : ColumnRef} {other : Value}
    (made : blueprint.placeAfter ref other = .ok after) : blueprint.Grows lacking after := by
  obtain ⟨name, -, made⟩ := bind_eq_ok.mp made
  obtain rfl := Except.ok.inj made
  exact updateColumn_grows ref fun _ => .column rfl rfl (.inl rfl) fun _ => rfl

theorem addIndex_grows {kind : IndexKind} {columns name : Value}
    (made : blueprint.addIndex kind columns name = .ok after) : blueprint.Grows lacking after := by
  obtain ⟨names, -, made⟩ := bind_eq_ok.mp made
  split at made
  · exact Except.ok.inj made ▸ .refl _ _
  · obtain ⟨label, -, made⟩ := bind_eq_ok.mp made
    obtain ⟨texts, -, made⟩ := bind_eq_ok.mp made
    exact Except.ok.inj made ▸ appendPlain_grows _

/-- Every name that is dropped comes to stand behind all specs. -/
theorem dropColumns_specs (blueprint : Blueprint) (names : List Value) :
    (names.foldl (fun dropped name => dropped.appendPlain ⟨.drop, name, "", .null, false⟩)
      blueprint).specs =
      blueprint.specs ++ names.map fun name => .plain ⟨.drop, name, "", .null, false⟩ := by
  induction names generalizing blueprint with
  | nil => exact (List.append_nil _).symm
  | cons name names ih =>
    rw [List.foldl_cons, ih, List.map_cons]
    exact List.append_assoc ..

theorem dropColumns_grows (blueprint : Blueprint) (names : List Value) :
    blueprint.Grows lacking
      (names.foldl (fun dropped name => dropped.appendPlain ⟨.drop, name, "", .null, false⟩)
        blueprint) := by
  refine .append (blueprint.dropColumns_specs names) fun spec member => .inl ?_
  obtain ⟨name, -, rfl⟩ := List.mem_map.mp member
  exact Spec.isDeclared_plain _

theorem finalize_grows (blueprint : Blueprint) :
    blueprint.Grows lacking blueprint.finalize.blueprint := by
  obtain ⟨texts, settled⟩ := blueprint.settleKeys_specs blueprint.pendingKeys
  refine appendConstraints_grows texts ?_
  simp only [finalize]
  split <;> rw [settled]
  rfl

/-! ### Definitions -/

/-- A definition changes or adds the column that it answers with, which may then be changed on. -/
theorem define_grown (lacking : Prop) {name : Value} {type : ColumnType} {ref : ColumnRef}
    (made : blueprint.define name type = .ok (after, ref)) :
    ∃ index, ref = .attached index ∧ Grown lacking index blueprint.specs after.specs := by
  obtain ⟨index, awaited, rfl, rfl⟩ | ⟨-, rfl, rfl⟩ := define_cases made
  · obtain ⟨-, column, found, awaits, -⟩ := awaiting?_eq_some awaited
    refine ⟨index, rfl, (Grown.refl lacking index blueprint.specs).modify (.inl rfl) ?_⟩
    intro other present
    obtain rfl : column = other := by
      have same := (column?_attached.mp found).symm.trans present
      exact Spec.column.inj (Option.some.inj same)
    refine .column rfl rfl (.inl rfl) fun typed => ?_
    cases awaits.2.symm.trans typed
  · refine ⟨blueprint.specs.length, rfl, (Grown.refl _ _ blueprint.specs).append ?_⟩
    intro spec member
    obtain rfl := List.mem_singleton.mp member
    exact .inl (Spec.isDeclared_typed name type)

theorem numbered_grown {base : Blueprint} {index : Nat}
    (grown : Grown lacking index base.specs blueprint.specs) (column : TypedColumn) :
    Grown lacking index base.specs (blueprint.numbered (.attached index) column).specs := by
  unfold numbered
  split
  · exact grown.modify (.inl rfl) fun _ _ => .column rfl rfl (.inl rfl) fun _ => rfl
  · exact grown

theorem setDefault_grown {base : Blueprint} {index : Nat} {value : Value}
    (grown : Grown lacking index base.specs blueprint.specs)
    (made : blueprint.setDefault (.attached index) value = .ok after) :
    Grown lacking index base.specs after.specs := by
  obtain ⟨-, rfl⟩ | ⟨column, -, -, rfl⟩ := setDefault_cases made
  · exact grown
  · exact grown.modify (.inl rfl) fun _ _ => .column rfl rfl (.inl rfl) fun _ => rfl

theorem callDefine_grows (column : TypedColumn) (name default : Value) :
    blueprint.Grows lacking (blueprint.callDefine column name default).blueprint := by
  obtain ⟨fault, -, outcome⟩ | ⟨type, defined, ref, declared, made⟩ :=
    blueprint.callDefine_cases column name default
  · rw [outcome]
    exact .refl _ _
  · obtain ⟨index, rfl, grown⟩ := define_grown lacking made
    have numbered := numbered_grown grown column
    rw [callDefine_eq declared made]
    split
    · exact ⟨index, numbered⟩
    · have grows : blueprint.Grows lacking (defined.numbered (.attached index) column) :=
        ⟨index, numbered⟩
      exact attempt_keeps grows (fun _ given => ⟨index, setDefault_grown numbered given⟩) _

/-- Of the two columns only the first can be one that was there. -/
theorem addTimestamps_grows (made : blueprint.addTimestamps = .ok after) :
    blueprint.Grows lacking after := by
  obtain ⟨⟨first, ref⟩, defined, -⟩ := bind_eq_ok.mp made
  obtain ⟨index, rfl, grown⟩ := define_grown lacking defined
  rw [addTimestamps_eq defined] at made
  obtain rfl := Except.ok.inj made
  have stamped : Grown lacking index blueprint.specs
      (first.updateColumn (.attached index) (Column.withExpression · (.text currentMoment))).specs :=
    grown.modify (.inl rfl) fun _ _ => .column rfl rfl (.inl rfl) fun _ => rfl
  refine ⟨index, (stamped.append fun spec member => .inl ?_).modify (.inr grown.length) ?_⟩
  · obtain rfl := List.mem_singleton.mp member
    exact Spec.isDeclared_typed _ _
  · exact fun _ _ => .column rfl rfl (.inl rfl) fun _ => rfl

/-! ### Moves -/

theorem editCurrent_grows {change : Column → Column}
    (kept : ∀ column, (Spec.column column).Persists (.column (change column))) :
    blueprint.Grows lacking (blueprint.editCurrent change).blueprint :=
  onCurrent_keeps (.refl _ _) fun ref _ made =>
    Except.ok.inj made ▸ updateColumn_grows ref kept

theorem callTable_grows (blueprint : Blueprint) (call : TableCall) :
    blueprint.Grows call.LacksDefinition (blueprint.callTable call).blueprint := by
  cases call with
  | define column name default => exact callDefine_grows column name default
  | timestamps => exact attempt_keeps (.refl _ _) (fun _ made => addTimestamps_grows made) _
  | softDeletes name =>
    simp only [callTable]
    cases made : blueprint.defineMoment name with
    | error fault => exact .refl _ _
    | ok defined =>
      obtain ⟨index, same, grown⟩ := define_grown False made
      simp only [same]
      exact ⟨index, grown.modify (.inl rfl) fun _ _ => .column rfl rfl (.inl rfl) fun _ => rfl⟩
  | addColumn name definition =>
    refine appendColumn_grows ?_
    by_cases lacks : definition = .null
    · exact .inr lacks
    · exact .inl (Spec.isDeclared_raw name lacks)
  | foreignId column =>
    simp only [callTable]
    cases made : blueprint.define column .unsignedInteger with
    | error fault => exact .refl _ _
    | ok defined =>
      obtain ⟨index, -, grown⟩ := define_grown False made
      exact ⟨index, grown⟩
  | foreign column =>
    simp only [callTable, callForeign]
    split <;> exact .of_specs rfl
  | nullable value | comment text | first =>
    exact editCurrent_grows fun _ => .column rfl rfl (.inl rfl) fun _ => rfl
  | setDefault value => exact onCurrent_keeps (.refl _ _) fun _ _ made => setDefault_grows made
  | after column => exact onCurrent_keeps (.refl _ _) fun _ _ made => placeAfter_grows made
  | addIndex kind columns name =>
    exact attempt_keeps (.refl _ _) (fun _ made => addIndex_grows made) _
  | renameColumn old new => exact appendPlain_grows _
  | modifyColumn name => exact appendColumn_grows (.inl (Spec.isDeclared_change name))
  | dropColumn names => exact dropColumns_grows blueprint names
  | dropIndex name => exact appendPlain_grows _
  | append spec => exact appendPlain_grows spec
  | finalize => exact finalize_grows blueprint
  | addSpecs => exact .refl _ _
  | toCreate options => exact finalize_grows blueprint
  | toAlter =>
    change blueprint.Grows _ blueprint.toAlter.blueprint
    rw [toAlter_blueprint]
    exact finalize_grows blueprint

theorem callColumn_grows (blueprint : Blueprint) (ref : ColumnRef) (call : ColumnCall) :
    blueprint.Grows lacking (blueprint.callColumn ref call).blueprint := by
  cases call with
  | sql =>
    simp only [callColumn]
    split <;> exact .refl _ _
  | setDefault value => exact attempt_keeps (.refl _ _) (fun _ => setDefault_grows) _
  | after other => exact attempt_keeps (.refl _ _) (fun _ => placeAfter_grows) _
  | addIndex kind name => exact attempt_keeps (.refl _ _) (fun _ => addIndex_grows) _
  | change => exact updateColumn_grows ref fun _ => .column rfl rfl (.inr rfl) fun _ => rfl
  | _ => exact updateColumn_grows ref fun _ => .column rfl rfl (.inl rfl) fun _ => rfl

/-- Whether a move adds a column and gives null for its definition. -/
def Move.LacksDefinition : Move → Prop
  | .call (.table made) => made.LacksDefinition
  | _ => False

/-- One move changes at most one of the specs there are, and adds others behind them. -/
theorem moved_grows (blueprint : Blueprint) (move : Move) :
    blueprint.Grows move.LacksDefinition (blueprint.moved move) := by
  cases move with
  | keep values =>
    obtain ⟨lists, same⟩ := keepAll_lists blueprint values
    rw [moved, same]
    exact .of_specs rfl
  | call call =>
    cases call with
    | table made => exact callTable_grows blueprint made
    | column ref made => exact callColumn_grows blueprint ref made
    | key index made =>
      obtain ⟨foreignKeys, -, same⟩ := blueprint.callKey_specs index made
      change blueprint.Grows _ (blueprint.callKey index made).blueprint
      rw [same]
      exact .of_specs rfl

/-! ## Histories -/

/-- Whether the specs of a blueprint are those of an earlier one, in their places and each still
the same, with others behind them. -/
structure Continues (blueprint earlier : Blueprint) : Prop where
  values : earlier.specValues <+: blueprint.specValues
  specs : ∀ (index : Nat) (spec : Spec), earlier.specs[index]? = some spec →
    ∃ edited, blueprint.specs[index]? = some edited ∧ spec.Persists edited

/-- Specs that persist in their places are known by the same values. -/
theorem continues_of_persists
    (each : ∀ (index : Nat) (spec : Spec), blueprint.specs[index]? = some spec →
      ∃ edited, after.specs[index]? = some edited ∧ spec.Persists edited) :
    after.Continues blueprint := by
  refine ⟨List.prefix_iff_getElem?.mpr fun index inside => ?_, each⟩
  have within : index < blueprint.specs.length := by simpa [specValues] using inside
  obtain ⟨spec, there⟩ : ∃ spec, spec = blueprint.specs[index] := ⟨_, rfl⟩
  have was : blueprint.specs[index]? = some spec :=
    there ▸ List.getElem?_eq_getElem within
  obtain ⟨edited, found, persists⟩ := each index spec was
  have known : specTarget index edited = specTarget index spec := by
    cases persists <;> rfl
  simp [specValues, List.getElem?_zipIdx, found, known, ← there]

theorem Continues.refl (blueprint : Blueprint) : blueprint.Continues blueprint :=
  ⟨List.prefix_rfl, fun _ spec found => ⟨spec, found, .refl spec⟩⟩

theorem Continues.trans {middle : Blueprint} (later : after.Continues middle)
    (earlier : middle.Continues blueprint) : after.Continues blueprint := by
  refine ⟨earlier.values.trans later.values, fun index spec found => ?_⟩
  obtain ⟨edited, present, persists⟩ := earlier.specs index spec found
  obtain ⟨final, there, persists'⟩ := later.specs index edited present
  exact ⟨final, there, persists.trans persists'⟩

theorem Grows.continues (grows : blueprint.Grows lacking after) : after.Continues blueprint := by
  obtain ⟨position, grown⟩ := grows
  exact continues_of_persists fun _ _ found => grown.persists found

/-- Through any history the specs there were stay in their places. -/
theorem movedAll_continues (blueprint : Blueprint) (moves : List Move) :
    (blueprint.movedAll moves).Continues blueprint := by
  induction moves generalizing blueprint with
  | nil => exact .refl blueprint
  | cons move moves ih => exact (ih _).trans (blueprint.moved_grows move).continues

/-- Whether every column that is added has a type or a definition. -/
def IsDeclared (blueprint : Blueprint) : Prop :=
  ∀ spec ∈ blueprint.specs, spec.IsDeclared

theorem Grows.isDeclared (grows : blueprint.Grows lacking after) (complete : ¬ lacking)
    (declared : blueprint.IsDeclared) : after.IsDeclared := by
  obtain ⟨position, grown⟩ := grows
  exact grown.isDeclared complete declared

/-- Through any history in which no definition is lacking all columns are declared. -/
theorem IsDeclared.movedAll (declared : blueprint.IsDeclared) {moves : List Move}
    (complete : ∀ move ∈ moves, ¬ move.LacksDefinition) :
    (blueprint.movedAll moves).IsDeclared := by
  induction moves generalizing blueprint with
  | nil => exact declared
  | cons move moves ih =>
    obtain ⟨first, others⟩ := List.forall_mem_cons.mp complete
    exact ih ((blueprint.moved_grows move).isDeclared first declared) others

end Blueprint

end Tablewright
