import Tablewright.Proofs.Blueprint.Edits
import Tablewright.Proofs.Blueprint.Written

/-! # Rejected declarations

A call that fails leaves its blueprint as it was, unless it compiles the blueprint or defines a
column with a default that the type does not take. Compiling never fails because a declaration is
invalid: putting things into words can fail in other ways only. So the one declaration that is
rejected and yet leaves something behind is a column whose default is refused: it stays, without
the default.
-/

namespace Tablewright

variable {α β : Type}

/-- Whether a computation does not find a declaration invalid. -/
def NotInvalid (result : Except Fault α) : Prop :=
  ∀ error, result ≠ .error (.invalidInput error)

theorem notInvalid_ok (value : α) : NotInvalid (.ok value) := by
  rintro error ⟨⟩

theorem NotInvalid.bind {first : Except Fault α} {next : α → Except Fault β}
    (one : NotInvalid first) (other : ∀ value, NotInvalid (next value)) :
    NotInvalid (first >>= next) := by
  cases first with
  | ok value => exact other value
  | error fault =>
    rintro error ⟨⟩
    exact one error rfl

theorem NotInvalid.map {result : Except Fault α} (kept : NotInvalid result) (change : α → β) :
    NotInvalid (result.map change) := by
  cases result with
  | ok value => exact notInvalid_ok (change value)
  | error fault =>
    rintro error ⟨⟩
    exact kept error rfl

theorem notInvalid_mapM {compute : α → Except Fault β} (each : ∀ input, NotInvalid (compute input))
    (inputs : List α) : NotInvalid (inputs.mapM compute) := by
  induction inputs with
  | nil => exact notInvalid_ok []
  | cons input inputs ih =>
    rw [List.mapM_cons]
    exact (each input).bind fun output => ih.bind fun outputs => notInvalid_ok (output :: outputs)

theorem GivenIf.notInvalid {condition : Bool} {result : Except Fault α}
    (given : GivenIf condition result) : NotInvalid result := by
  cases condition with
  | false =>
    rw [given.error]
    rintro error ⟨⟩
  | true =>
    obtain ⟨value, found⟩ := given
    exact found ▸ notInvalid_ok value

theorem Value.notInvalid_shown (value : Value) : NotInvalid value.shown :=
  value.givenIf_shown.notInvalid

/-! ## Equality -/

theorem Value.notInvalid_comparePlain (left right : Value) :
    NotInvalid (left.comparePlain right) := by
  unfold comparePlain
  split
  · rintro error ⟨⟩
  · exact notInvalid_ok _

mutual

theorem Value.notInvalid_equals (left right : Value) : NotInvalid (left.equals right) := by
  unfold equals
  split
  · split
    · exact notInvalid_equalLists _ _
    · exact notInvalid_ok false
  · exact notInvalid_comparePlain left right

theorem Value.notInvalid_equalLists (lefts rights : List Value) :
    NotInvalid (equalLists lefts rights) := by
  unfold equalLists
  split
  · refine (notInvalid_equals _ _).bind fun same => ?_
    split
    · exact notInvalid_equalLists _ _
    · exact notInvalid_ok false
  · exact notInvalid_ok true

end

namespace Blueprint

variable {blueprint : Blueprint}

theorem notInvalid_agree {equal : Value → Value → Except Fault Bool}
    (each : ∀ left right, NotInvalid (equal left right)) (lefts rights : List Value) :
    NotInvalid (agree equal lefts rights) := by
  induction lefts generalizing rights with
  | nil => cases rights <;> exact notInvalid_ok _
  | cons left lefts ih =>
    cases rights with
    | nil => exact notInvalid_ok false
    | cons right rights =>
      refine (each left right).bind fun same => ?_
      split
      · exact ih rights
      · exact notInvalid_ok false

theorem notInvalid_equalWithin (blueprint : Blueprint) (depth : Nat) (left right : Value) :
    NotInvalid (blueprint.equalWithin depth left right) := by
  induction depth generalizing left right with
  | zero => exact left.notInvalid_equals right
  | succ depth ih =>
    unfold equalWithin
    split
    · exact notInvalid_ok true
    · split
      · split
        · exact notInvalid_agree ih _ _
        · exact notInvalid_ok false
      · exact Value.notInvalid_equals _ _

theorem notInvalid_define (blueprint : Blueprint) (name : Value) (type : ColumnType) :
    NotInvalid (blueprint.define name type) := by
  have awaited : NotInvalid (blueprint.awaiting? name) := by
    unfold awaiting?
    split
    · exact notInvalid_ok none
    · split
      · exact (blueprint.notInvalid_equalWithin _ _ _).bind fun _ => notInvalid_ok _
      · exact notInvalid_ok none
  refine awaited.bind fun awaiting => ?_
  split <;> exact notInvalid_ok _

end Blueprint

/-! ## Wording -/

mutual

theorem Value.notInvalid_fill {words : Mention → Except Fault Value}
    (each : ∀ something, NotInvalid (words something)) :
    (value : Value) → NotInvalid (value.fill words)
  | .mention something => each something
  | .list values => (notInvalid_fillAll each values).map Value.list
  | .null | .bool _ | .int _ | .float _ | .decimal _ | .text _ | .bytes _ | .date _ | .dateTime _
  | .map _ | .action _ => notInvalid_ok _

theorem Value.notInvalid_fillAll {words : Mention → Except Fault Value}
    (each : ∀ something, NotInvalid (words something)) :
    (values : List Value) → NotInvalid (fillAll words values)
  | [] => notInvalid_ok []
  | value :: values =>
    (notInvalid_fill each value).bind fun _ =>
      (notInvalid_fillAll each values).bind fun _ => notInvalid_ok _

end

theorem Column.notInvalid_sql (column : Column) : NotInvalid column.sql := by
  have comment : NotInvalid column.commentClause := by
    unfold commentClause
    split
    · exact notInvalid_ok []
    · exact notInvalid_ok _
    all_goals rintro error ⟨⟩
  have definition : NotInvalid column.definitionClause := by
    unfold definitionClause
    split
    · exact notInvalid_ok []
    · exact notInvalid_ok _
    · rintro error ⟨⟩
  refine NotInvalid.map ?_ _
  exact column.name.notInvalid_shown.bind fun _ =>
    column.givenIf_typeClause.notInvalid.bind fun _ =>
      column.givenIf_defaultClauses.notInvalid.bind fun _ => comment.bind fun _ =>
        definition.bind fun _ => notInvalid_ok _

theorem Column.notInvalid_inWords {words : Value → Except Fault Value}
    (each : ∀ value, NotInvalid (words value)) (column : Column) :
    NotInvalid (column.inWords words) := by
  refine (each column.name).bind fun _ => NotInvalid.bind ?_ fun _ => notInvalid_ok _
  cases column.defaultClause with
  | none => exact notInvalid_ok _
  | value given => exact (each given).map _
  | expression given => exact (each given).map _

namespace Blueprint

section Reading

variable {words : Value → Except Fault Value} (blueprint : Blueprint)

theorem notInvalid_specSqlBy (each : ∀ value, NotInvalid (words value)) (spec : Spec) :
    NotInvalid (blueprint.specSqlBy words spec) := by
  cases spec with
  | column column => exact (Column.notInvalid_inWords each _).bind fun _ => Column.notInvalid_sql _
  | plain spec => exact notInvalid_ok spec.text

theorem notInvalid_quotedSpecBy (each : ∀ value, NotInvalid (words value)) (spec : Spec) :
    NotInvalid (blueprint.quotedSpecBy words spec) := by
  unfold quotedSpecBy
  split
  · rintro error ⟨⟩
  · refine (blueprint.notInvalid_specSqlBy each spec).bind fun fragment => ?_
    dsimp only
    split
    · exact ((each spec.columnName).bind Value.notInvalid_shown).bind fun _ => notInvalid_ok _
    · exact notInvalid_ok _

theorem notInvalid_keyColumnName (key : ForeignKey) :
    NotInvalid (blueprint.keyColumnName key) := by
  unfold keyColumnName
  split
  all_goals rintro error ⟨⟩

theorem notInvalid_quotedKeyBy (each : ∀ value, NotInvalid (words value)) (key : ForeignKey) :
    NotInvalid (blueprint.quotedKeyBy words key) :=
  (blueprint.notInvalid_keyColumnName key).bind fun name =>
    ((each name).bind Value.notInvalid_shown).bind fun _ =>
      ((each key.referencedColumn).bind Value.notInvalid_shown).bind fun _ => notInvalid_ok _

theorem notInvalid_mentionBy (each : ∀ value, NotInvalid (words value)) (something : Mention) :
    NotInvalid (blueprint.mentionBy words something) := by
  unfold mentionBy
  split
  · refine NotInvalid.bind ?_ fun _ => notInvalid_ok _
    unfold quotedTargetBy
    split
    · exact notInvalid_ok blueprint.quoted
    · split
      · exact blueprint.notInvalid_quotedSpecBy each _
      · rintro error ⟨⟩
    · split
      · exact blueprint.notInvalid_quotedSpecBy each _
      · rintro error ⟨⟩
    · split
      · exact blueprint.notInvalid_quotedKeyBy each _
      · rintro error ⟨⟩
  · exact notInvalid_ok _

theorem notInvalid_wordsWithin (depth : Nat) (around : List Mention) (value : Value) :
    NotInvalid (blueprint.wordsWithin depth around value) := by
  induction depth generalizing around value with
  | zero =>
    refine Value.notInvalid_fill (fun something => ?_) value
    rintro error ⟨⟩
  | succ depth ih =>
    refine Value.notInvalid_fill (fun something => ?_) value
    split
    · split
      · exact notInvalid_ok _
      · exact ih _ _
    · exact blueprint.notInvalid_mentionBy (ih around) something

end Reading

variable {blueprint : Blueprint}

/-- Whatever is put into words, no declaration is found invalid. -/
theorem notInvalid_words (blueprint : Blueprint) (value : Value) :
    NotInvalid (blueprint.words value) :=
  blueprint.notInvalid_wordsWithin _ _ value

theorem notInvalid_shown (blueprint : Blueprint) (value : Value) :
    NotInvalid (blueprint.shown value) :=
  (blueprint.notInvalid_words value).bind Value.notInvalid_shown

theorem notInvalid_specSql (blueprint : Blueprint) (spec : Spec) :
    NotInvalid (blueprint.specSql spec) :=
  blueprint.notInvalid_specSqlBy blueprint.notInvalid_words spec

/-! ## Compiling -/

theorem notInvalid_keyColumnText (blueprint : Blueprint) (key : ForeignKey) :
    NotInvalid (blueprint.keyColumnText key) :=
  (blueprint.notInvalid_keyColumnName key).bind blueprint.notInvalid_shown

theorem notInvalid_keySql (blueprint : Blueprint) (key : ForeignKey) :
    NotInvalid (blueprint.keySql key) := by
  have column := blueprint.notInvalid_keyColumnText key
  have name : NotInvalid (blueprint.constraintName key) := column.bind fun _ => notInvalid_ok _
  exact name.bind fun _ => column.bind fun _ =>
    (blueprint.notInvalid_shown key.referencedColumn).bind fun _ => notInvalid_ok _

theorem notInvalid_settleKeys (blueprint : Blueprint) (keys : List ForeignKey) :
    NotInvalid (blueprint.settleKeys keys).result := by
  induction keys generalizing blueprint with
  | nil => exact notInvalid_ok ()
  | cons key keys ih =>
    simp only [settleKeys]
    split
    · split
      · exact ih _
      · rename_i fault failed
        rintro error ⟨⟩
        exact blueprint.notInvalid_keySql key error failed
    · split
      · exact ih blueprint
      · rename_i fault failed
        rintro error ⟨⟩
        exact blueprint.notInvalid_keyColumnText key error failed

theorem notInvalid_finalize (blueprint : Blueprint) : NotInvalid blueprint.finalize.result := by
  have settled := blueprint.notInvalid_settleKeys blueprint.pendingKeys
  simp only [finalize]
  split <;> exact settled

theorem notInvalid_toCreate (blueprint : Blueprint) (options : String) :
    NotInvalid (blueprint.toCreate options).result := by
  refine blueprint.notInvalid_finalize.bind fun _ => ?_
  unfold createStatement
  split
  · exact notInvalid_ok none
  · exact (notInvalid_mapM (notInvalid_specSql _) _).bind fun _ => notInvalid_ok _

theorem notInvalid_alterClause (blueprint : Blueprint) (spec : Spec) :
    NotInvalid (blueprint.alterClause spec) := by
  unfold alterClause
  split
  · exact (blueprint.notInvalid_specSql spec).bind fun _ => notInvalid_ok _
  · exact (blueprint.notInvalid_specSql spec).bind fun _ => notInvalid_ok _
  · exact (blueprint.notInvalid_shown _).bind fun _ => notInvalid_ok _
  · exact (blueprint.notInvalid_shown _).bind fun _ =>
      (blueprint.notInvalid_shown _).bind fun _ => notInvalid_ok _
  · exact (blueprint.notInvalid_shown _).bind fun _ => notInvalid_ok _
  · exact notInvalid_ok none

theorem notInvalid_alterTexts (blueprint : Blueprint) (specs : List Spec) :
    NotInvalid (blueprint.alterTexts specs).2 := by
  induction specs with
  | nil => exact notInvalid_ok []
  | cons spec specs ih =>
    simp only [alterTexts]
    split
    · rename_i fault failed
      rintro error ⟨⟩
      exact blueprint.notInvalid_alterClause spec error failed
    · split
      · exact ih.map _
      · exact ih

theorem notInvalid_toAlter (blueprint : Blueprint) : NotInvalid blueprint.toAlter.result := by
  unfold toAlter
  dsimp only
  split
  · rename_i fault failed
    rintro error ⟨⟩
    exact blueprint.notInvalid_finalize error failed
  · exact notInvalid_alterTexts _ _

/-! ## Calls that fail -/

/-- Whether an outcome is no failure, or leaves the blueprint as it was. -/
def Spares (blueprint : Blueprint) (outcome : CallOutcome) : Prop :=
  ∀ fault, outcome.result = .error fault → outcome.blueprint = blueprint

theorem spares_answered (edited : Blueprint) (answer : Value) :
    blueprint.Spares (edited.answered answer) := by
  rintro fault ⟨⟩

theorem spares_asked (answer : Except Fault Value) : blueprint.Spares (blueprint.asked answer) :=
  fun _ _ => rfl

theorem spares_attempt (after : Except Fault Blueprint) (target : Target) :
    blueprint.Spares (blueprint.attempt after target) := by
  cases after with
  | ok changed => exact spares_answered changed _
  | error fault => exact spares_asked _

theorem spares_onCurrent (call : ColumnRef → Except Fault Blueprint) :
    blueprint.Spares (blueprint.onCurrent call) := by
  unfold onCurrent
  split
  · exact spares_answered blueprint _
  · exact spares_attempt _ _

theorem spares_askKey (index : Nat) (question : ForeignKey → Except Fault String) :
    blueprint.Spares (blueprint.askKey index question) :=
  fun _ _ => blueprint.askKey_blueprint index question

theorem spares_callColumn (blueprint : Blueprint) (ref : ColumnRef) (call : ColumnCall) :
    blueprint.Spares (blueprint.callColumn ref call) := by
  cases call with
  | sql =>
    simp only [callColumn]
    split <;> exact spares_asked _
  | setDefault value => exact spares_attempt _ _
  | after other => exact spares_attempt _ _
  | addIndex kind name => exact spares_attempt _ _
  | _ => exact spares_answered _ _

theorem spares_callKey (blueprint : Blueprint) (index : Nat) (call : KeyCall) :
    blueprint.Spares (blueprint.callKey index call) := by
  cases call with
  | references column => exact spares_answered _ _
  | on table => exact spares_attempt _ _
  | onDelete action => exact spares_attempt _ _
  | onUpdate action => exact spares_attempt _ _
  | constraintName => exact spares_askKey index _
  | sql => exact spares_askKey index _

/-- A call on a blueprint that is rejected does nothing, unless it defines a column of a type. -/
theorem callTable_rejected {call : TableCall} {error : DeclarationError}
    (other : ∀ column name default, call ≠ .define column name default)
    (rejected : (blueprint.callTable call).result = .error (.invalidInput error)) :
    (blueprint.callTable call).blueprint = blueprint := by
  have spared (spares : blueprint.Spares (blueprint.callTable call)) :
      (blueprint.callTable call).blueprint = blueprint := spares _ rejected
  cases call with
  | define column name default => exact absurd rfl (other column name default)
  | finalize => exact absurd rejected (blueprint.notInvalid_finalize.map _ error)
  | toCreate options => exact absurd rejected ((blueprint.notInvalid_toCreate options).map _ error)
  | toAlter => exact absurd rejected (blueprint.notInvalid_toAlter.map _ error)
  | timestamps => exact spared (spares_attempt _ _)
  | softDeletes name =>
    refine spared ?_
    simp only [callTable]
    split
    · exact spares_asked _
    · exact spares_answered _ _
  | foreignId column =>
    refine spared ?_
    simp only [callTable]
    split
    · exact spares_asked _
    · exact spares_answered _ _
  | nullable value => exact spared (spares_onCurrent _)
  | setDefault value => exact spared (spares_onCurrent _)
  | comment text => exact spared (spares_onCurrent _)
  | after column => exact spared (spares_onCurrent _)
  | first => exact spared (spares_onCurrent _)
  | addIndex kind columns name => exact spared (spares_attempt _ _)
  | _ => exact spared (spares_answered _ _)

end Blueprint

/-! ## Refused defaults -/

/-- The call without the default that it gives to the column that it defines. -/
def Call.withoutDefault : Call → Call
  | .table (.define definition name _) => .table (.define definition name .null)
  | call => call

namespace Blueprint

variable {blueprint : Blueprint}

/-- Whether a call defines a column and gives it a default that its type does not take. -/
def RefusesDefault (blueprint : Blueprint) : Call → Prop
  | .table (.define column _ default) =>
    default ≠ .null ∧ ∃ type, blueprint.columnType column = .ok type ∧
      type.defaultProblems default ≠ []
  | _ => False

/-- The column that was defined is there and has its type. -/
theorem type_numbered {name : Value} {type : ColumnType} {defined : Blueprint} {ref : ColumnRef}
    (made : blueprint.define name type = .ok (defined, ref)) (column : TypedColumn) :
    ∃ found, (defined.numbered ref column).column? ref = some found ∧ found.type = some type := by
  obtain ⟨found, present, typed, -⟩ := define_column made
  obtain ⟨edited, there, same⟩ := column?_numbered present column
  exact ⟨edited, there, (Column.Core.mk.inj same).2.2.1.trans typed⟩

/-- A definition does not leave the specs as they were. -/
theorem specs_numbered_ne {name : Value} {type : ColumnType} {defined : Blueprint} {ref : ColumnRef}
    (made : blueprint.define name type = .ok (defined, ref)) (column : TypedColumn) :
    (defined.numbered ref column).specs ≠ blueprint.specs := by
  obtain ⟨found, present, typed⟩ := type_numbered made column
  intro same
  obtain ⟨index, awaited, rfl, rfl⟩ | ⟨-, rfl, rfl⟩ := define_cases made
  · obtain ⟨-, before, there, awaits, -⟩ := awaiting?_eq_some awaited
    rw [column?, same] at present
    obtain rfl := Option.some.inj (there.symm.trans present)
    simp [Column.AwaitsType, Column.isTyped, typed] at awaits
  · rw [column?, same] at present
    simp at present

/-- A definition with a default fails because a declaration is invalid in two ways: its arguments
make no type and nothing happens, or the type does not take the default and the column stays. -/
theorem callDefine_rejected {column : TypedColumn} {name default : Value}
    {error : DeclarationError}
    (rejected : (blueprint.callDefine column name default).result = .error (.invalidInput error)) :
    ((blueprint.callDefine column name default).blueprint = blueprint ↔
      ¬ blueprint.RefusesDefault (.table (.define column name default))) ∧
    (blueprint.callDefine column name default).blueprint =
      (blueprint.callDefine column name .null).blueprint := by
  obtain ⟨fault, failed, outcome⟩ | ⟨type, defined, ref, typed, made⟩ :=
    blueprint.callDefine_cases column name default
  · have undefined : blueprint.callDefine column name .null = blueprint.asked (.error fault) := by
      simp only [callDefine, failed]
    rw [outcome] at rejected
    obtain rfl := Except.error.inj rejected
    rw [outcome, undefined]
    refine ⟨⟨fun _ => ?_, fun _ => rfl⟩, rfl⟩
    rintro ⟨-, type, typed, -⟩
    rw [typed] at failed
    exact blueprint.notInvalid_define name type error failed
  · have given : default ≠ .null := by
      rintro rfl
      rw [callDefine_eq typed made, if_pos rfl] at rejected
      cases rejected
    rw [callDefine_eq typed made, if_neg given] at rejected
    rw [callDefine_eq typed made, callDefine_eq typed made, if_neg given, if_pos rfl]
    cases refused : (defined.numbered ref column).setDefault ref default with
    | ok changed =>
      rw [refused] at rejected
      cases rejected
    | error fault =>
      have changed : defined.numbered ref column ≠ blueprint := fun same =>
        specs_numbered_ne made column (congrArg specs same)
      have refuses : blueprint.RefusesDefault (.table (.define column name default)) := by
        refine ⟨given, type, typed, fun taken => ?_⟩
        obtain ⟨found, present, kept⟩ := type_numbered made column
        have problems : found.defaultProblems default = [] := by
          simp [Column.defaultProblems, kept, taken]
        simp [setDefault, present, problems] at refused
      exact ⟨⟨fun same => absurd same changed, fun accepts => absurd refuses accepts⟩, rfl⟩

/-- A declaration that is found invalid leaves the blueprint as it was exactly if it is not a column
whose default is refused. In any case it leaves what the same call leaves without the default. -/
theorem rejected_unchanged_iff {call : Call} {error : DeclarationError}
    (rejected : (blueprint.perform call).result = .error (.invalidInput error)) :
    ((blueprint.perform call).blueprint = blueprint ↔ ¬ blueprint.RefusesDefault call) ∧
      (blueprint.perform call).blueprint = (blueprint.perform call.withoutDefault).blueprint := by
  cases call with
  | table call =>
    cases call with
    | define column name default => exact callDefine_rejected rejected
    | _ =>
      refine ⟨⟨fun _ => id, fun _ => ?_⟩, rfl⟩
      exact callTable_rejected (by simp) rejected
  | column ref call =>
    refine ⟨⟨fun _ => id, fun _ => ?_⟩, rfl⟩
    exact blueprint.spares_callColumn ref call _ rejected
  | key index call =>
    refine ⟨⟨fun _ => id, fun _ => ?_⟩, rfl⟩
    exact blueprint.spares_callKey index call _ rejected

/-- A blueprint with an enumeration, an open foreign key and a pending change. -/
def openBlueprint : Blueprint :=
  (empty "" "posts").movedAll
    [.call (.table (.define (.enum (.list [.text "draft", .text "live"])) (.text "status") .null)),
      .call (.table (.foreignId (.text "author"))),
      .call (.table (.modifyColumn (.text "title")))]

/-- A default that is refused later changes nothing. -/
theorem openBlueprint_spared :
    let call := Call.column (.attached 0) (.setDefault (.text "gone"))
    (openBlueprint.perform call).result =
        .error (.invalidInput (.defaultNotAllowed "status" "'gone'" ["draft", "live"])) ∧
      (openBlueprint.perform call).blueprint = openBlueprint := by
  have rejected : (openBlueprint.perform
      (.column (.attached 0) (.setDefault (.text "gone")))).result =
        .error (.invalidInput (.defaultNotAllowed "status" "'gone'" ["draft", "live"])) := by
    decide +kernel
  exact ⟨rejected, (rejected_unchanged_iff rejected).1.mpr id⟩

/-- A column whose default is refused is declared all the same. -/
theorem refusedDefault_declares :
    let call := Call.table
      (.define (.enum (.list [.text "draft"])) (.text "status") (.text "gone"))
    let before := empty "" "posts"
    (before.perform call).result =
        .error (.invalidInput (.defaultNotAllowed "status" "'gone'" ["draft"])) ∧
      before.specs = [] ∧
      (before.perform call).blueprint.specs =
        [.column (.typed (.text "status") (.enum ["draft"]))] := by
  decide +kernel

end Blueprint

end Tablewright
