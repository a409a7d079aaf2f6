import Tablewright.Proofs.Blueprint.Harmless

/-! # What harmless blueprints compile to

Every part of a harmless blueprint can be put into words, and the words are a fragment. Only a
number that is too long keeps a column from being written. So a harmless blueprint without such
numbers compiles, and the fragments can be taken out of its statement again.
-/

namespace Tablewright

/-! ## Words -/

theorem Value.IsNote.fill {value : Value} (note : value.IsNote)
    (words : Mention → Except Fault Value) : value.fill words = .ok value := by
  cases value with
  | null | text _ => rfl
  | _ => exact note.elim

theorem Value.IsLiteral.fill {value : Value} (literal : value.IsLiteral)
    (words : Mention → Except Fault Value) : value.fill words = .ok value := by
  obtain rfl | measured | ⟨text, rfl⟩ := literal
  · rfl
  · cases value with
    | bool _ | int _ | float _ | decimal _ => rfl
    | _ => simp [magnitude?] at measured
  · rfl

namespace Blueprint

/-- A value that mentions nothing is its own wording. -/
theorem words_eq_self (blueprint : Blueprint) {value : Value}
    (filled : ∀ words, value.fill words = .ok value) : blueprint.words value = .ok value :=
  filled _

theorem shown_note (blueprint : Blueprint) {value : Value} (note : value.IsNote) :
    blueprint.shown value = .ok value.plainForm := by
  rw [shown, words_eq_self blueprint note.fill]
  exact note.shown

theorem shown_name (blueprint : Blueprint) {value : Value} (name : value.IsName) :
    blueprint.shown value = .ok value.plainForm :=
  blueprint.shown_note name.isNote

end Blueprint

/-! ## Columns -/

theorem ColumnType.IsSealed.sql {type : ColumnType} (declared : type.IsSealed) {text : String}
    (made : type.sql = .ok text) : Sealed text := by
  have plain := declared id text
  cases type <;> exact plain made

theorem ColumnType.IsSealed.mapSign {type : ColumnType} (declared : type.IsSealed)
    (change : Value → Value) : (type.mapSign change).IsSealed := by
  intro further
  have both := declared (further ∘ change)
  cases type <;> exact both

theorem Column.exists_definitionClause {column : Column} (definition : column.definition.IsNote) :
    ∃ clause, column.definitionClause = .ok clause := by
  unfold definitionClause
  cases given : column.definition with
  | null | text _ => exact ⟨_, rfl⟩
  | _ => exact (given ▸ definition).elim

theorem Column.exists_commentClause {column : Column} (comment : column.comment.IsNote) :
    ∃ clause, column.commentClause = .ok clause := by
  unfold commentClause
  cases given : column.comment with
  | null | text _ => exact ⟨_, rfl⟩
  | _ => exact (given ▸ comment).elim

/-- A column with texts for its name, its definition and its comment has a fragment if its numbers
can be written out. -/
theorem Column.givenIf_sql_of_notes {column : Column} (name : column.name.IsNote)
    (definition : column.definition.IsNote) (comment : column.comment.IsNote) :
    GivenIf column.isWritten column.sql := by
  obtain ⟨clause, defined⟩ := exists_definitionClause definition
  obtain ⟨remark, commented⟩ := exists_commentClause comment
  exact givenIf_sql name.shown commented defined

namespace Column.IsHarmless

variable {column : Column}

theorem typeClause (harmless : column.IsHarmless) {clause : List String}
    (made : column.typeClause = .ok clause) : ∀ text ∈ clause, Sealed text := by
  rw [Column.typeClause, harmless.definition] at made
  have declared := harmless.type
  cases known : column.type with
  | none =>
    rw [known] at made
    obtain rfl := Except.ok.inj made
    simp
  | some type =>
    rw [known] at made
    obtain ⟨text, given, rfl⟩ := map_eq_ok.mp made
    exact List.forall_mem_singleton.mpr ((declared type known).sql given)

theorem commentClause (harmless : column.IsHarmless) {clause : List String}
    (made : column.commentClause = .ok clause) : ∀ text ∈ clause, Sealed text := by
  have note := harmless.comment
  unfold Column.commentClause at made
  cases found : column.comment with
  | null =>
    rw [found] at made
    obtain rfl := Except.ok.inj made
    simp
  | text comment =>
    rw [found] at made
    obtain rfl := Except.ok.inj made
    have opens : Sealed "COMMENT " := by decide
    exact List.forall_mem_singleton.mpr (opens.append (sealed_quoteLiteral comment))
  | _ => exact (found ▸ note).elim

theorem defaultClauses (harmless : column.IsHarmless) {clause : List String}
    (made : column.defaultClauses = .ok clause) : ∀ text ∈ clause, Sealed text := by
  have given := harmless.defaultClause
  have opens : Sealed "DEFAULT " := by decide
  unfold Column.defaultClauses at made
  cases found : column.defaultClause with
  | none =>
    rw [found] at made
    obtain rfl := Except.ok.inj made
    simp
  | value value =>
    rw [found] at given made
    obtain ⟨text, written, rfl⟩ := map_eq_ok.mp made
    exact List.forall_mem_singleton.mpr (opens.append (sealed_defaultLiteral given written))
  | expression expression =>
    rw [found] at given made
    obtain rfl : expression = .text currentMoment := given
    obtain rfl := Except.ok.inj made
    decide

theorem positionClause (harmless : column.IsHarmless) :
    ∀ text ∈ column.position.toList, Sealed text := by
  intro text member
  exact harmless.position text (Option.mem_toList.mp member)

end Column.IsHarmless

namespace Column

theorem sealed_nullabilityClause (column : Column) :
    ∀ text ∈ column.nullabilityClause, Sealed text := by
  unfold nullabilityClause
  split
  · simp
  · cases column.nullability.isTruthy <;> decide

theorem sealed_keyClauses (column : Column) : ∀ text ∈ column.keyClauses, Sealed text := by
  unfold keyClauses
  cases column.autoIncrement <;> cases column.primaryKey <;> decide

theorem sealed_refreshClause (column : Column) : ∀ text ∈ column.refreshClause, Sealed text := by
  unfold refreshClause
  cases column.refreshed <;> decide

/-- The fragment of a harmless column begins with its name, and every clause after that is
sealed. -/
theorem IsHarmless.sql {column : Column} (harmless : column.IsHarmless) {text : String}
    (rendered : column.sql = .ok text) : IsFragment text := by
  obtain ⟨clauses, listed, rendered⟩ := bind_eq_ok.mp rendered
  obtain rfl := Except.ok.inj rendered
  obtain ⟨name, named, listed⟩ := bind_eq_ok.mp listed
  obtain ⟨type, typed, listed⟩ := bind_eq_ok.mp listed
  obtain ⟨default, defaulted, listed⟩ := bind_eq_ok.mp listed
  obtain ⟨comment, commented, listed⟩ := bind_eq_ok.mp listed
  rw [definitionClause, harmless.definition] at listed
  obtain rfl := Except.ok.inj listed
  obtain rfl := Except.ok.inj (harmless.name.isNote.shown.symm.trans named)
  have first : IsFragment (quoteName column.name.plainForm) :=
    ⟨sealed_quoteName harmless.name.unmarked, by simp [quoteName]⟩
  have space : Sealed " " := by decide
  simp only [List.cons_append, List.nil_append]
  refine first.intercalate space ?_
  simp only [List.forall_mem_append]
  exact ⟨⟨⟨⟨⟨⟨harmless.typeClause typed, column.sealed_nullabilityClause⟩,
    column.sealed_keyClauses⟩, harmless.defaultClauses defaulted⟩, column.sealed_refreshClause⟩,
    harmless.commentClause commented⟩, harmless.positionClause⟩

theorem IsHarmless.inWords {column : Column} (harmless : column.IsHarmless)
    (blueprint : Blueprint) : column.inWords blueprint.words = .ok column := by
  have name := blueprint.words_eq_self harmless.name.isNote.fill
  have clause : column.defaultClause.inWords blueprint.words = .ok column.defaultClause := by
    have given := harmless.defaultClause
    cases found : column.defaultClause with
    | none => rfl
    | value value =>
      rw [found] at given
      rw [DefaultClause.inWords, blueprint.words_eq_self (Value.IsLiteral.fill given)]
      rfl
    | expression expression =>
      rw [found] at given
      obtain rfl : expression = .text currentMoment := given
      rfl
  rw [Column.inWords, name, clause]
  rfl

end Column

/-! ## Fragments -/

theorem IndexKind.sql_isFragment (kind : IndexKind) {name columns : String}
    (unmarked : Unmarked name) (listed : Sealed columns) :
    IsFragment (kind.sql name columns) := by
  have closes : Sealed ")" := by decide
  have enclosed {first opening : String} (begins : IsFragment first) (opens : Sealed opening) :
      IsFragment (first ++ quoteName name ++ opening ++ columns ++ ")") :=
    (((begins.append (sealed_quoteName unmarked)).append opens).append listed).append closes
  cases kind with
  | plain => exact enclosed (by decide) (by decide)
  | unique => exact enclosed (by decide) (by decide)
  | primary => exact enclosed (by decide) (by decide)

namespace Blueprint

variable {blueprint : Blueprint}

/-- A harmless column is declared in a blueprint if its numbers can be written out, and what
declares it is a fragment. -/
theorem columnSql_isFragment (blueprint : Blueprint) {column : Column}
    (harmless : column.IsHarmless) :
    GivenIf column.isWritten (blueprint.columnSql column) ∧
      ∀ text, blueprint.columnSql column = .ok text → IsFragment text := by
  let viewed := blueprint.wordedColumn column column.name column.defaultClause
  have kept : viewed.IsHarmless :=
    { harmless with
      type := by
        intro type member
        obtain ⟨original, found, rfl⟩ := Option.map_eq_some_iff.mp member
        exact (harmless.type original found).mapSign _ }
  have same : viewed.isWritten = column.isWritten := by
    exact column.isWritten_mapSign _ _
  have rendered : blueprint.columnSql column = viewed.sql :=
    congrArg (Except.bind · Column.sql) (kept.inWords blueprint)
  rw [rendered, ← same]
  have definition : viewed.definition.IsNote := harmless.definition ▸ trivial
  exact ⟨Column.givenIf_sql_of_notes kept.name.isNote definition kept.comment, fun _ => kept.sql⟩

theorem specSql_isFragment (blueprint : Blueprint) {spec : Spec} (harmless : spec.IsHarmless)
    (added : spec.kind = .add) :
    GivenIf spec.isWritten (blueprint.specSql spec) ∧
      ∀ text, blueprint.specSql spec = .ok text → IsFragment text := by
  cases spec with
  | column column => exact blueprint.columnSql_isFragment harmless
  | plain spec =>
    refine ⟨givenIf_ok spec.text, ?_⟩
    rintro _ ⟨⟩
    exact harmless added

theorem column?_isHarmless (harmless : blueprint.IsHarmless) {ref : ColumnRef} {column : Column}
    (found : blueprint.column? ref = some column) : column.IsHarmless := by
  cases ref with
  | attached index =>
    obtain ⟨spec, present, same⟩ := Option.bind_eq_some_iff.mp found
    have kept := harmless.specs spec (List.mem_of_getElem? present)
    cases spec with
    | column other => exact Option.some.inj same ▸ kept
    | plain spec => cases same
  | detached index => exact harmless.detached column (List.mem_of_getElem? found)

theorem columnName_isName (harmless : blueprint.IsHarmless) (ref : ColumnRef) :
    (blueprint.columnName ref).IsName := by
  unfold columnName
  cases found : blueprint.column? ref with
  | none => trivial
  | some column => exact (column?_isHarmless harmless found).name

theorem keyColumnText_unmarked (harmless : blueprint.IsHarmless) {key : ForeignKey}
    (declared : key.IsHarmless) :
    ∃ text, blueprint.keyColumnText key = .ok text ∧ Unmarked text := by
  obtain ⟨ref, same⟩ := declared.column
  have name := columnName_isName harmless ref
  refine ⟨(blueprint.columnName ref).plainForm, ?_, name.unmarked⟩
  rw [keyColumnText, keyColumnName, same]
  exact blueprint.shown_name name

theorem sealed_actionClause {event : String} (named : Sealed event) {action : Option String}
    (each : ∀ text ∈ action, Sealed text) : Sealed (ForeignKey.actionClause event action) := by
  cases action with
  | none => exact ⟨rfl⟩
  | some text =>
    have opens : Sealed " ON " := by decide
    have space : Sealed " " := by decide
    rw [ForeignKey.actionClause]
    split
    · exact ⟨rfl⟩
    · exact ((opens.append named).append space).append (each text rfl)

theorem tableText_unmarked {key : ForeignKey} (declared : key.IsHarmless) :
    Unmarked key.tableText := by
  have named := declared.referencedTable
  unfold ForeignKey.tableText ForeignKey.tableValue
  cases found : key.referencedTable with
  | none => decide
  | some table => exact named table found

theorem keySql_isFragment (harmless : blueprint.IsHarmless) {key : ForeignKey}
    (declared : key.IsHarmless) : ∃ text, blueprint.keySql key = .ok text ∧ IsFragment text := by
  obtain ⟨column, found, unmarked⟩ := keyColumnText_unmarked harmless declared
  have referenced := declared.referencedColumn
  have underscore : Unmarked "_" := by decide
  have mark : Unmarked "_fk" := by decide
  have name : Unmarked (blueprint.table ++ "_" ++ column ++ "_fk") := by
    simp [harmless.table, underscore, unmarked, mark]
  have opens : IsFragment "CONSTRAINT " := by decide
  have onColumn : Sealed " FOREIGN KEY (" := by decide
  have toTable : Sealed ") REFERENCES " := by decide
  have toColumn : Sealed " (" := by decide
  have closes : Sealed ")" := by decide
  have delete : Sealed "DELETE" := by decide
  have update : Sealed "UPDATE" := by decide
  have named := opens.append (sealed_quoteName name)
  have columned := (named.append onColumn).append (sealed_quoteName unmarked)
  have tabled := (columned.append toTable).append (sealed_quoteName (tableText_unmarked declared))
  have referring := (tabled.append toColumn).append (sealed_quoteName referenced.unmarked)
  have deleting := sealed_actionClause delete declared.deleteAction
  have updating := sealed_actionClause update declared.updateAction
  refine ⟨_, ?_, ((referring.append closes).append deleting).append updating⟩
  rw [keySql, constraintName, found, blueprint.shown_name referenced]
  rfl

/-! ## Statements -/

/-- Harmless foreign keys all become harmless constraints or notices. -/
theorem settleKeys_isHarmless (harmless : blueprint.IsHarmless) {keys : List ForeignKey}
    (each : ∀ key ∈ keys, key.IsHarmless) :
    (blueprint.settleKeys keys).result = .ok () ∧
      (blueprint.settleKeys keys).blueprint.IsHarmless := by
  induction keys generalizing blueprint with
  | nil => exact ⟨rfl, harmless⟩
  | cons key keys ih =>
    obtain ⟨declared, others⟩ := List.forall_mem_cons.mp each
    rw [settleKeys]
    split
    · obtain ⟨text, rendered, fragment⟩ := keySql_isFragment harmless declared
      rw [rendered]
      exact ih (harmless.appendConstraint fragment) others
    · obtain ⟨text, found, -⟩ := keyColumnText_unmarked harmless declared
      rw [found]
      exact ih harmless others

theorem finalize_isHarmless (harmless : blueprint.IsHarmless) :
    blueprint.finalize.result = .ok () ∧ blueprint.finalize.blueprint.IsHarmless := by
  have pending : ∀ key ∈ blueprint.pendingKeys, key.IsHarmless := fun key member =>
    harmless.keys key (List.mem_of_mem_drop member)
  obtain ⟨settled, kept⟩ := settleKeys_isHarmless harmless pending
  simp only [finalize, settled, true_and]
  exact kept.closeRound

theorem addSpecs_fragments (harmless : blueprint.IsHarmless) :
    GivenIf (blueprint.addSpecs.all Spec.isWritten)
        (blueprint.addSpecs.mapM blueprint.specSql) ∧
      ∀ fragments, blueprint.addSpecs.mapM blueprint.specSql = .ok fragments →
        ∀ fragment ∈ fragments, IsFragment fragment := by
  have each : ∀ spec ∈ blueprint.addSpecs,
      GivenIf spec.isWritten (blueprint.specSql spec) ∧
        ∀ text, blueprint.specSql spec = .ok text → IsFragment text := by
    intro spec member
    obtain ⟨present, added⟩ := List.mem_filter.mp member
    exact blueprint.specSql_isFragment (harmless.specs spec present) (of_decide_eq_true added)
  exact ⟨.mapM fun spec member => (each spec member).1, fun _ rendered =>
    forall_mem_of_mapM rendered fun spec member => (each spec member).2⟩

/-- A harmless blueprint compiles if the numbers in what it adds can be written out, and its
statement falls apart into the fragments of the specs that add something. -/
theorem toCreate_fragments (harmless : blueprint.IsHarmless) (options : String) :
    let compiled := blueprint.toCreate options
    if compiled.blueprint.addSpecs.all Spec.isWritten then
      ∃ fragments, compiled.blueprint.addSpecs.mapM compiled.blueprint.specSql = .ok fragments ∧
        (fragments = [] ∧ compiled.result = .ok none ∨
          ∃ statement, compiled.result = .ok (some statement) ∧
            fragments? statement = some fragments)
    else compiled.result = .error .badValue := by
  obtain ⟨settled, kept⟩ := finalize_isHarmless harmless
  obtain ⟨given, each⟩ := addSpecs_fragments kept
  have result : (blueprint.toCreate options).result =
      blueprint.finalize.blueprint.createStatement options := by
    rw [toCreate, settled]
    rfl
  change if blueprint.finalize.blueprint.addSpecs.all Spec.isWritten then _ else _
  rw [result, createStatement]
  split
  · rename_i written
    obtain ⟨fragments, rendered⟩ := given.ok.mpr written
    refine ⟨fragments, rendered, ?_⟩
    split
    · rename_i missing
      rw [missing] at rendered
      exact .inl ⟨(Except.ok.inj rendered).symm, rfl⟩
    · rename_i added
      refine .inr ⟨createText blueprint.finalize.blueprint.table options fragments, ?_, ?_⟩
      · rw [rendered]
        rfl
      · refine fragments?_createText options kept.table ?_ (each fragments rendered)
        rintro rfl
        exact added (List.forall₂_nil_right_iff.mp (mapM_eq_ok.mp rendered))
  · rename_i tooLong
    rw [Bool.not_eq_true] at tooLong
    rw [tooLong] at given
    split
    · rename_i missing
      rw [missing] at tooLong
      cases tooLong
    · rw [given.error]
      rfl

end Blueprint

end Tablewright
