import Tablewright.Migration.Scripted
import Tablewright.Proofs.Migration.Records
import Tablewright.Proofs.Value.Order

/-! # The database in memory as a record store

The database in memory keeps the contract of a record store, as long as no failures are arranged for
it and no migration drops the tracking table. The name of that table must not be empty or hold a
mark, or else the database would not find it in a query.
-/

namespace Tablewright

/-- Whether a request leaves the rows of a table alone. -/
def Request.Spares (table : String) : Request → Prop
  | .hasTable _ => True
  | .execute statement => droppedTable? statement ≠ some table
  | _ => False

namespace MemoryDatabase

variable {database : MemoryDatabase} {table : String}

/-- Without the entries of a table it has no rows. -/
private theorem lookup_without (database : MemoryDatabase) (table : String) :
    (database.records.filter fun entry => entry.1 != table).lookup table = none := by
  rw [List.lookup_eq_none_iff]
  intro entry member
  have kept : entry.1 ≠ table := by simpa using (List.mem_filter.mp member).2
  simp [kept.symm]

@[simp] theorem rows_setRows (rows : List Row) :
    (database.setRows table rows).rows table = rows := by
  simp [setRows, MemoryDatabase.rows, List.lookup_append, lookup_without]

/-- A table that is dropped has no rows. -/
@[simp] theorem rows_dropTable_self : (database.dropTable table).rows table = [] := by
  simp [dropTable, rows, lookup_without]

/-- Creating a table leaves all rows alone. -/
@[simp] theorem rows_createTable (other : String) :
    (database.createTable table).rows other = database.rows other := by
  unfold createTable
  split <;> rfl

@[simp] theorem createTable_failOn :
    (database.createTable table).failOn = database.failOn := by
  unfold createTable
  split <;> rfl

theorem mem_createTable {other : String} :
    other ∈ (database.createTable table).tables ↔ other ∈ database.tables ∨ other = table := by
  unfold createTable
  split
  · rename_i there
    constructor
    · exact .inl
    · rintro (earlier | rfl)
      · exact earlier
      · exact there
  · simp

/-- Dropping a table leaves the rows of others alone. -/
theorem rows_dropTable {other : String} (different : other ≠ table) :
    (database.dropTable other).rows table = database.rows table := by
  simp only [dropTable, rows]
  congr 1
  induction database.records with
  | nil => rfl
  | cons entry records ih =>
    obtain ⟨name, rows⟩ := entry
    by_cases dropped : name = other
    · have missed : (table == name) = false := by simp [dropped, different.symm]
      simp [List.lookup_cons, dropped ▸ missed, dropped, ih]
    · simp [List.lookup_cons, dropped, ih]

section Statements

variable {statement : String}

/-- A statement that is accepted creates the table that it names. -/
theorem execute_creation (accepted : database.refuses statement = false)
    (created : createdTable? statement = some table) :
    database.execute statement = (.ok (), database.createTable table) := by
  rw [execute, if_neg (ne_true_of_eq_false accepted), created]

/-- A statement that is accepted drops the table that it names. -/
theorem execute_drop (accepted : database.refuses statement = false)
    (created : createdTable? statement = none) (dropped : droppedTable? statement = some table) :
    database.execute statement = (.ok (), database.dropTable table) := by
  rw [execute, if_neg (ne_true_of_eq_false accepted), created, dropped]

/-- A statement that does not drop a table leaves its rows alone. -/
theorem rows_execute (spares : droppedTable? statement ≠ some table) :
    (database.execute statement).2.rows table = database.rows table := by
  unfold execute
  split
  · rfl
  · split
    · exact rows_createTable table
    · rename_i dropped
      exact rows_dropTable fun same => spares (same ▸ dropped)
    · rfl

/-- A statement that does not drop a table leaves it there. -/
theorem mem_execute (spares : droppedTable? statement ≠ some table)
    (there : table ∈ database.tables) : table ∈ (database.execute statement).2.tables := by
  unfold execute
  split
  · exact there
  · split
    · exact mem_createTable.mpr (.inl there)
    · rename_i dropped
      have other : table ≠ _ := fun same => spares (same ▸ dropped)
      exact List.mem_filter.mpr ⟨there, by simpa using other⟩
    · exact there

/-- What a statement does not change beside tables and rows. -/
theorem execute_arranged (statement : String) :
    (database.execute statement).2.failOn = database.failOn ∧
      (database.execute statement).2.scalars = database.scalars ∧
      (database.execute statement).2.conflicts = database.conflicts ∧
      (database.execute statement).2.rejects = database.rejects := by
  unfold execute
  split
  · exact ⟨rfl, rfl, rfl, rfl⟩
  · split
    · unfold createTable
      split <;> exact ⟨rfl, rfl, rfl, rfl⟩
    · exact ⟨rfl, rfl, rfl, rfl⟩
    · exact ⟨rfl, rfl, rfl, rfl⟩

/-- A query changes neither the tables nor the statements that are to fail. -/
theorem queryScalar_keeps (database : MemoryDatabase) (statement : String)
    (parameters : Option Row) :
    (database.queryScalar statement parameters).2.tables = database.tables ∧
      (database.queryScalar statement parameters).2.failOn = database.failOn := by
  unfold queryScalar
  split
  · exact ⟨rfl, rfl⟩
  · split <;> exact ⟨rfl, rfl⟩

/-- An insertion changes neither the tables nor what is arranged. -/
theorem insert_keeps (database : MemoryDatabase) (table : String) (values : Row) :
    (database.insert table values).2.tables = database.tables ∧
      (database.insert table values).2.failOn = database.failOn ∧
        (database.insert table values).2.scalars = database.scalars := by
  simp only [insert]
  split
  · exact ⟨rfl, rfl, rfl⟩
  · split <;> exact ⟨rfl, rfl, rfl⟩

end Statements

end MemoryDatabase

/-- A name that can be found in a statement. -/
structure IsPlainName (name : String) : Prop where
  nonempty : name ≠ ""
  unmarked : nameMark ∉ name.toList

/-- A plain name is found after an opening. -/
theorem nameAfter?_append {name : String} (plain : IsPlainName name) (opening rest : List Char) :
    nameAfter? opening (opening ++ (name.toList ++ nameMark :: rest)) = some name := by
  have taken : (name.toList ++ nameMark :: rest).takeWhile (· ≠ nameMark) = name.toList := by
    rw [List.takeWhile_append_of_pos]
    · simp
    · intro char member
      have other : char ≠ nameMark := fun same => plain.unmarked (same ▸ member)
      simpa using other
  have whole : opening.isPrefixOf (opening ++ (name.toList ++ nameMark :: rest)) = true := by
    simp
  have found : name.toList ≠ [] := by simpa using plain.nonempty
  unfold nameAfter?
  rw [if_pos whole, List.drop_left]
  simp only [taken]
  simp [found]

/-- A statement that does not begin like the opening has no name after it. -/
theorem nameAfter?_other {first char : Char} (different : first ≠ char) (opening rest : List Char) :
    nameAfter? (first :: opening) (char :: rest) = none := by
  simp [nameAfter?, List.isPrefixOf, different]

/-- A plain name between marks is found after words. -/
theorem nameAfter?_quoteName {name : String} (plain : IsPlainName name) (words rest : String) :
    nameAfter? (words.toList ++ [nameMark]) (words ++ quoteName name ++ rest).toList =
      some name := by
  have shape : (words ++ quoteName name ++ rest).toList =
      words.toList ++ [nameMark] ++ (name.toList ++ nameMark :: rest.toList) := by
    simp [quoteName, nameMark]
  rw [shape]
  exact nameAfter?_append plain _ _

/-- A plain name is found after the first opening. -/
theorem firstNameAfter?_append {name : String} (plain : IsPlainName name) {first : Char}
    {before : List Char} (other : first ∉ before) (opening rest : List Char) :
    firstNameAfter? (first :: opening)
      (before ++ (first :: opening ++ (name.toList ++ nameMark :: rest))) = some name := by
  induction before with
  | nil =>
    have found := nameAfter?_append plain (first :: opening) rest
    simp only [List.nil_append, List.cons_append] at found ⊢
    simp [firstNameAfter?, found]
  | cons char before ih =>
    obtain ⟨different, other⟩ := List.ne_and_not_mem_of_not_mem_cons other
    rw [List.cons_append, firstNameAfter?, nameAfter?_other different]
    exact ih other

/-- The database finds the table of a query. -/
theorem queriedTable?_quoteName {name : String} (plain : IsPlainName name) (before : String)
    (other : 'F' ∉ before.toList) (rest : String) :
    queriedTable? (before ++ "FROM " ++ quoteName name ++ rest) = some name := by
  have opening : "FROM `".toList = ['F', 'R', 'O', 'M', ' ', nameMark] := by decide
  have shape : (before ++ "FROM " ++ quoteName name ++ rest).toList =
      before.toList ++ ("FROM `".toList ++ (name.toList ++ nameMark :: rest.toList)) := by
    simp [quoteName, opening, nameMark]
  unfold queriedTable?
  rw [shape, opening]
  exact firstNameAfter?_append plain other _ _

/-- A statement that creates a table drops none. -/
theorem droppedTable?_createText (table options : String) (fragments : List String) :
    droppedTable? (createText table options fragments) = none := by
  have start : "CREATE TABLE ".toList = 'C' :: "REATE TABLE ".toList := by decide
  have opening : "DROP TABLE IF EXISTS `".toList = 'D' :: "ROP TABLE IF EXISTS `".toList := by
    decide
  unfold createText
  rw [String.append_assoc, String.append_assoc, String.append_assoc, String.append_assoc]
  rw [droppedTable?, String.toList_append, start, opening]
  exact nameAfter?_other (by decide) _ _

namespace Repository

variable (repository : Repository)

theorem queriedTable?_countQuery (plain : IsPlainName repository.tableName) :
    queriedTable? repository.countQuery = some repository.tableName :=
  queriedTable?_quoteName plain "SELECT COUNT(*) " (by decide) _

theorem queriedTable?_batchQuery (plain : IsPlainName repository.tableName) :
    queriedTable? repository.batchQuery = some repository.tableName := by
  have query := queriedTable?_quoteName plain "SELECT MAX(batch) " (by decide) ""
  rwa [String.append_empty] at query

theorem queriedTable?_rowsQuery (plain : IsPlainName repository.tableName) :
    queriedTable? repository.rowsQuery = some repository.tableName :=
  queriedTable?_quoteName plain "SELECT id, migration, batch, created_at " (by decide) _

/-- The query for a count is known by its first words. -/
theorem countQuery_counts :
    "SELECT COUNT(*)".toList.isPrefixOf repository.countQuery.toList = true := by
  have start : "SELECT COUNT(*) FROM ".toList = "SELECT COUNT(*)".toList ++ " FROM ".toList := by
    decide
  unfold countQuery
  simp only [String.toList_append, List.append_assoc, List.isPrefixOf_iff_prefix, start]
  exact List.prefix_append _ _

theorem batchQuery_counts_not :
    ¬ "SELECT COUNT(*)".toList.isPrefixOf repository.batchQuery.toList = true := by
  have count : "SELECT COUNT(*)".toList = "SELECT ".toList ++ 'C' :: "OUNT(*)".toList := by decide
  have batch : "SELECT MAX(batch) FROM ".toList =
      "SELECT ".toList ++ 'M' :: "AX(batch) FROM ".toList := by decide
  unfold batchQuery
  simp only [String.toList_append, List.append_assoc, List.cons_append,
    List.isPrefixOf_iff_prefix, count, batch, List.prefix_append_right_inj, List.cons_prefix_cons]
  exact fun same => absurd same.1 (by decide)

/-- The query for the largest batch is about the rows of the tracking table. -/
theorem queryScalar_batchQuery (plain : IsPlainName repository.tableName)
    {database : MemoryDatabase} (unarranged : database.scalars = []) (parameters : Option Row) :
    database.queryScalar repository.batchQuery parameters =
      (MemoryDatabase.largestBatch (database.rows repository.tableName), database) := by
  simp only [MemoryDatabase.queryScalar, unarranged, repository.queriedTable?_batchQuery plain,
    if_neg repository.batchQuery_counts_not]
  rfl

end Repository

/-! ## Rows of records -/

/-- The row of a record that a tracker inserted. -/
def recordRow (id : Value) (identifier : String) (batch : Int) (moment : DateTime) : Row :=
  [("id", id), ("migration", .text identifier), ("batch", .int batch),
    ("created_at", .dateTime moment)]

/-- Whether a tracker inserted a row. -/
def Row.IsRecord (row : Row) : Prop :=
  ∃ id identifier batch moment, row = recordRow id identifier batch moment

/-- The records in rows; rows that are none are left out. -/
def recordsOf (rows : List Row) : List Record :=
  rows.filterMap fun row => (Record.ofRow row).toOption

@[simp] theorem migration_recordRow (id : Value) (identifier : String) (batch : Int)
    (moment : DateTime) :
    Row.cellOrNull (recordRow id identifier batch moment) "migration" = .text identifier := rfl

theorem recordsOf_cons (id : Value) (identifier : String) (batch : Int) (moment : DateTime)
    (rows : List Row) :
    recordsOf (recordRow id identifier batch moment :: rows) =
      ⟨.text identifier, batch, some moment, id⟩ :: recordsOf rows := rfl

section Rows

variable {rows : List Row}

/-- The database counts the records of a migration. -/
theorem count_eq_countP (records : ∀ row ∈ rows, row.IsRecord) (identifier : String) :
    MemoryDatabase.count rows (.text identifier) =
      (recordsOf rows).countP (·.migration = .text identifier) := by
  induction rows with
  | nil => rfl
  | cons row rows ih =>
    obtain ⟨⟨id, name, batch, moment, rfl⟩, others⟩ := List.forall_mem_cons.mp records
    have counted := ih others
    unfold MemoryDatabase.count at counted ⊢
    rw [recordsOf_cons, List.countP_cons, ← counted]
    by_cases same : name = identifier
    · simp [Value.same, same]
    · simp [Value.same, same]

private theorem batches_mapM (records : ∀ row ∈ rows, row.IsRecord) :
    rows.mapM (fun row => Row.cell row "batch") =
      .ok ((recordsOf rows).map fun record => .int record.batch) := by
  induction rows with
  | nil => rfl
  | cons row rows ih =>
    obtain ⟨⟨id, name, batch, moment, rfl⟩, others⟩ := List.forall_mem_cons.mp records
    rw [recordsOf_cons, List.mapM_cons, ih others]
    rfl

/-- The database finds the largest batch of the records. -/
theorem largestBatch_eq_max (records : ∀ row ∈ rows, row.IsRecord) :
    MemoryDatabase.largestBatch rows =
      .ok ((((recordsOf rows).map (·.batch)).max?.map Value.int).getD .null) := by
  unfold MemoryDatabase.largestBatch
  rw [batches_mapM records]
  cases recordsOf rows with
  | nil => rfl
  | cons first rest =>
    have largest := Value.largest_int first.batch (rest.map (·.batch))
    rw [List.map_map] at largest
    exact largest

end Rows

namespace ScriptedWorld

/-- Whether the database is a record store: no answers or failures are arranged, the tracking table
holds records only, and no migration drops it. -/
structure IsStore (repository : Repository) (world : ScriptedWorld) : Prop where
  scalars : world.database.scalars = []
  conflicts : world.database.conflicts = []
  rejects : world.database.rejects = []
  records : ∀ row ∈ world.database.rows repository.tableName, row.IsRecord
  spared : ∀ migration earlier,
    (SchemaStep.programAll world.schema earlier (world.upSteps migration)).AsksOnly
      (Request.Spares repository.tableName)

/-- The records in the tracking table. -/
def stored (repository : Repository) (world : ScriptedWorld) : List Record :=
  recordsOf (world.database.rows repository.tableName)

/-- Whether two worlds have the same record store in a table. -/
structure SameStore (table : String) (before next : ScriptedWorld) : Prop where
  rows : next.database.rows table = before.database.rows table
  scalars : next.database.scalars = before.database.scalars
  conflicts : next.database.conflicts = before.database.conflicts
  rejects : next.database.rejects = before.database.rejects
  schema : next.schema = before.schema
  scripts : next.scripts = before.scripts

section Store

variable {repository : Repository} {world next : ScriptedWorld}

theorem SameStore.isStore (same : SameStore repository.tableName world next)
    (store : world.IsStore repository) : next.IsStore repository where
  scalars := same.scalars.trans store.scalars
  conflicts := same.conflicts.trans store.conflicts
  rejects := same.rejects.trans store.rejects
  records := same.rows ▸ store.records
  spared migration earlier := by
    unfold upSteps
    rw [same.schema, same.scripts]
    exact store.spared migration earlier

theorem SameStore.stored (same : SameStore repository.tableName world next) :
    next.stored repository = world.stored repository :=
  congrArg recordsOf same.rows

/-- A request that spares a table leaves its record store alone. -/
theorem respondDatabase_sameStore {table : String} (request : Request)
    (spares : request.Spares table) (world : ScriptedWorld) :
    SameStore table world (respondDatabase request world).state := by
  cases request with
  | hasTable other => exact ⟨rfl, rfl, rfl, rfl, rfl, rfl⟩
  | execute statement =>
    obtain ⟨-, scalars, conflicts, rejects⟩ := MemoryDatabase.execute_arranged statement
    exact ⟨MemoryDatabase.rows_execute spares, scalars, conflicts, rejects, rfl, rfl⟩
  | queryScalar | queryRows | insert | now | apply => exact spares.elim

/-- Applying a migration leaves the record store alone. -/
theorem respond_apply_sameStore (store : world.IsStore repository) (migration : Migration) :
    SameStore repository.tableName world (respond (.apply migration) world).state := by
  refine (store.spared migration _).run_state (fun request state spares same => ?_)
    ⟨rfl, rfl, rfl, rfl, rfl, rfl⟩
  have step := respondDatabase_sameStore request spares state
  exact ⟨step.rows.trans same.rows, step.scalars.trans same.scalars,
    step.conflicts.trans same.conflicts, step.rejects.trans same.rejects,
    step.schema.trans same.schema, step.scripts.trans same.scripts⟩

theorem respond_count (plain : IsPlainName repository.tableName)
    (store : world.IsStore repository) (identifier : String) :
    respond (repository.countRequest identifier) world =
      ⟨.ok (.int ((world.stored repository).countP (·.migration = .text identifier))), [],
        world⟩ := by
  have found := repository.queriedTable?_countQuery plain
  have counted := count_eq_countP store.records identifier
  simp only [respond, respondDatabase, Repository.countRequest, reaction,
    MemoryDatabase.queryScalar, store.scalars, found, if_pos repository.countQuery_counts]
  exact congrArg (fun count : Nat => Reaction.mk (.ok (Value.int count)) [] world) counted

theorem respond_batch (plain : IsPlainName repository.tableName)
    (store : world.IsStore repository) :
    respond repository.batchRequest world =
      ⟨.ok ((((world.stored repository).map (·.batch)).max?.map Value.int).getD .null), [],
        world⟩ := by
  have largest := largestBatch_eq_max store.records
  change world.reaction (world.database.queryScalar repository.batchQuery none) = _
  rw [repository.queryScalar_batchQuery plain store.scalars, largest]
  rfl

/-- A migration that is stored is refused. -/
theorem respond_record_stored (store : world.IsStore repository) {identifier : String}
    (recorded : Recorded (world.stored repository) identifier) (batch : Int) (moment : DateTime) :
    ∃ message statement, respond (repository.recordRequest identifier batch moment) world =
      ⟨.error (.duplicateRecord message statement), [], world⟩ := by
  have counted := count_eq_countP store.records identifier
  have found : (MemoryDatabase.count (world.database.rows repository.tableName)
      (.text identifier) != 0) = true := by
    have positive := (recorded_iff_countP _ _).mp recorded
    rw [stored, ← counted] at positive
    simp only [bne_iff_ne]
    omega
  refine ⟨"Duplicate migration in " ++ repository.tableName, none, ?_⟩
  change reaction world (world.database.insert _ _) = _
  unfold MemoryDatabase.insert
  rw [if_pos]
  · rfl
  · exact Bool.or_eq_true_iff.mpr (.inr found)

/-- A migration that is not stored is taken. -/
theorem respond_record_new (store : world.IsStore repository) {identifier : String}
    (unrecorded : ¬ Recorded (world.stored repository) identifier) (batch : Int)
    (moment : DateTime) :
    ∃ id : Value, respond (repository.recordRequest identifier batch moment) world =
      ⟨.ok id, [],
        world.withDatabase (world.database.setRows repository.tableName
          (world.database.rows repository.tableName ++
            [recordRow id identifier batch moment]))⟩ := by
  have counted := count_eq_countP store.records identifier
  have unseen : MemoryDatabase.count (world.database.rows repository.tableName)
      (.text identifier) = 0 := by
    have zero := mt (recorded_iff_countP _ _).mpr unrecorded
    rw [stored, ← counted] at zero
    omega
  have admitted : ¬ (world.database.conflicts.any (fun name => name.same (.text identifier)) ||
      MemoryDatabase.count (world.database.rows repository.tableName) (.text identifier) != 0) =
        true := by
    simp [store.conflicts, unseen]
  refine ⟨.int ((world.database.rows repository.tableName).length + 1 : Nat), ?_⟩
  change reaction world (world.database.insert _ _) = _
  unfold MemoryDatabase.insert
  rw [if_neg, if_neg]
  · rfl
  · simp [store.rejects]
  · exact admitted

end Store

/-- Whether a reaction to a request keeps the contract and leaves a store behind. -/
structure KeepsContract (repository : Repository) (world : ScriptedWorld) (request : Request)
    (reaction : Reaction request.Answer ScriptedWorld) : Prop where
  store : reaction.state.IsStore repository
  answer : (Event.asked request reaction.answer).Keeps (world.stored repository)
  stored : reaction.state.stored repository =
    world.stored repository ++ (Event.asked request reaction.answer).added?.toList

section Contract

variable {repository : Repository} {world : ScriptedWorld}

theorem SameStore.keepsContract {request : Request}
    {reaction : Reaction request.Answer ScriptedWorld}
    (same : SameStore repository.tableName world reaction.state)
    (store : world.IsStore repository)
    (answer : (Event.asked request reaction.answer).Keeps (world.stored repository))
    (other : (Event.asked request reaction.answer).added? = none) :
    KeepsContract repository world request reaction where
  store := same.isStore store
  answer := answer
  stored := by simp [other, same.stored]

theorem SameStore.refl (table : String) (world : ScriptedWorld) : SameStore table world world :=
  ⟨rfl, rfl, rfl, rfl, rfl, rfl⟩

theorem IsStore.withRow (store : world.IsStore repository) {row : Row} (record : row.IsRecord) :
    (world.withDatabase (world.database.setRows repository.tableName
      (world.database.rows repository.tableName ++ [row]))).IsStore repository where
  scalars := store.scalars
  conflicts := store.conflicts
  rejects := store.rejects
  records := by
    intro other member
    rw [withDatabase, MemoryDatabase.rows_setRows] at member
    rcases List.mem_append.mp member with earlier | latest
    · exact store.records other earlier
    · exact List.mem_singleton.mp latest ▸ record
  spared := store.spared

theorem respond_record_keeps (store : world.IsStore repository) (identifier : String)
    (batch : Int) (moment : DateTime) :
    KeepsContract repository world (repository.recordRequest identifier batch moment)
      (respond (repository.recordRequest identifier batch moment) world) := by
  by_cases recorded : Recorded (world.stored repository) identifier
  · obtain ⟨message, statement, refused⟩ := respond_record_stored store recorded batch moment
    rw [refused]
    refine (SameStore.refl _ world).keepsContract store ?_ rfl
    exact (if_pos recorded).mpr ⟨message, statement, rfl⟩
  · obtain ⟨id, taken⟩ := respond_record_new store recorded batch moment
    rw [taken]
    refine ⟨?_, (if_neg recorded).mpr ⟨id, rfl⟩, ?_⟩
    · exact store.withRow (.intro id ⟨identifier, batch, moment, rfl⟩)
    · change recordsOf (MemoryDatabase.rows _ _) = recordsOf _ ++ [_]
      rw [withDatabase, MemoryDatabase.rows_setRows, recordsOf, List.filterMap_append]
      rfl

/-- What is asked of a store is answered by the contract, and leaves a store behind. -/
theorem respond_keeps (plain : IsPlainName repository.tableName)
    (store : world.IsStore repository) {request : Request} (asks : repository.Asks request) :
    KeepsContract repository world request (respond request world) := by
  have unchanged := SameStore.refl repository.tableName world
  cases asks with
  | table asked =>
    cases asked with
    | «exists» => exact unchanged.keepsContract store trivial rfl
    | create options fragments =>
      have spares : (Request.execute (createText repository.tableName options fragments)).Spares
          repository.tableName := by
        simp [Request.Spares, droppedTable?_createText]
      exact (respondDatabase_sameStore _ spares world).keepsContract store trivial rfl
  | count identifier =>
    rw [respond_count plain store]
    exact unchanged.keepsContract store rfl rfl
  | batch =>
    rw [respond_batch plain store]
    exact unchanged.keepsContract store rfl rfl
  | now => exact unchanged.keepsContract store ⟨_, rfl⟩ rfl
  | apply migration => exact (respond_apply_sameStore store migration).keepsContract store trivial rfl
  | record identifier batch moment => exact respond_record_keeps store identifier batch moment

end Contract

/-- The database in memory keeps the contract of a record store. -/
theorem keepsRecords {repository : Repository} (plain : IsPlainName repository.tableName) :
    full.KeepsRecords repository (IsStore repository) (stored repository) where
  stays _ _ store asks := (respond_keeps plain store asks).store
  answers _ _ store asks := (respond_keeps plain store asks).answer
  takes _ _ store asks _ := (respond_keeps plain store asks).stored
  leaves _ migration store :=
    (respond_keeps plain store (.apply migration)).stored.trans (List.append_nil _)

/-! ## A first world -/

/-- A migration that creates the table of the users. -/
def createUsers : Migration :=
  ⟨"users", "app.migrations", "CreateUsers"⟩

/-- A world without tables, in which a migration fails when it is applied for the first time. -/
def fresh : ScriptedWorld where
  database := .empty
  clock := ⟨⟨2024, 2, 29, by decide⟩, .midnight, none⟩
  schema := .ok ⟨"app_", "ENGINE=InnoDB"⟩
  scripts := [("users", ⟨[.raise (.raised "TimeoutError" "lock wait") (some 1)], []⟩)]
  attempts := []

/-- Its tracking table. -/
def tracking : Repository :=
  ⟨⟨"app_", "ENGINE=InnoDB"⟩, "migrations"⟩

theorem isPlainName_tracking : IsPlainName tracking.tableName :=
  ⟨by decide, by decide⟩

theorem fresh_isStore : fresh.IsStore tracking where
  scalars := rfl
  conflicts := rfl
  rejects := rfl
  records := nofun
  spared migration earlier := by
    have steps : fresh.upSteps migration = [] ∨
        fresh.upSteps migration = [.raise (.raised "TimeoutError" "lock wait") (some 1)] := by
      cases named : migration.object == "users" with
      | true => exact .inr (by simp only [upSteps, fresh, List.lookup_cons, named]; rfl)
      | false => exact .inl (by simp only [upSteps, fresh, List.lookup_cons, named]; rfl)
    rcases steps with none | one
    · rw [none]
      trivial
    · rw [one]
      refine Program.AsksOnly.bind ?_ fun _ => trivial
      simp only [SchemaStep.program]
      split <;> trivial

end ScriptedWorld

end Tablewright
