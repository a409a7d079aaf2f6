import Tablewright.Proofs.Migration.Operations
import Tablewright.Proofs.Program.Lawful
import Tablewright.Proofs.Program.Trace

/-! # Reading a record store

What a tracker tells about its store it reads from all rows, after creating the tracking table if it
is missing. The four readings differ in what they make of the rows. None of them changes a row, and
the only statement that they execute creates the table, directly after it was found missing.
-/

namespace Tablewright

open Program

/-- A world whose store can be read: the query for all rows answers the records that are stored, in
some order, and changes nothing. -/
structure World.ReadsRecords {State : Type} (world : World State) (repository : Repository)
    (usable : State → Prop) (stored : State → List Record) : Prop where
  stays : ∀ state, usable state →
    usable (world.respond (.queryRows repository.rowsQuery) state).state
  answers : ∀ state, usable state → ∃ rows records,
    (world.respond (.queryRows repository.rowsQuery) state).answer = .ok rows ∧
      rows.mapM Record.ofRow = .ok records ∧ records.Perm (stored state)
  unchanged : ∀ state, usable state →
    stored (world.respond (.queryRows repository.rowsQuery) state).state = stored state

/-- A text is read as the moment that it is a text of. -/
theorem readMoment_text {text : String} {moment : DateTime}
    (read : DateTime.readIso? text = some moment) :
    readMoment (.text text) = .ok (some moment) := by
  simp only [readMoment, Value.shown_text, Bind.bind, Except.bind, read]
  rfl

/-- The record in a row with the cells of one. -/
theorem Record.ofRow_eq {row : Row} {id migration cell : Value} {batch : Int}
    {moment? : Option DateTime} (named : row.lookup "id" = some id)
    (about : row.lookup "migration" = some migration)
    (numbered : row.lookup "batch" = some (.int batch))
    (dated : row.lookup "created_at" = some cell) (read : readMoment cell = .ok moment?) :
    Record.ofRow row = .ok ⟨migration, batch, moment?, id⟩ := by
  simp only [Record.ofRow, Row.cell, Row.cellOrNull, named, about, numbered, dated,
    Option.getD_some]
  change (do
    let batch ← (Value.int batch).toInteger
    let createdAt ← readMoment cell
    pure { migration, batch, createdAt, id : Record }) = _
  rw [read]
  rfl

namespace Repository

variable {α : Type}

/-- What a tracker makes of all rows, after creating the tracking table if it is missing. -/
def reading (repository : Repository) (tell : List Record → Except Fault α) : Program α := do
  repository.ensureTable
  let records ← repository.applied
  ofExcept (tell records)

/-- The migrations seen so far with that of one more row. -/
def withMigration (seen : List Value) (record : Record) : List Value :=
  if seen.any fun value => value.same record.migration then seen else seen ++ [record.migration]

/-- The migrations in rows, each once. -/
def migrationsOf (records : List Record) : List Value :=
  records.foldl withMigration []

/-- The migrations of candidates that are not in rows. -/
def pendingIn (candidates : List Candidate) (records : List Record) : List Migration :=
  (candidates.filterMap Candidate.migration?).filter fun migration =>
    !(migrationsOf records).any fun value => value.same (.text migration.identifier)

/-- The statuses of the migrations of candidates by rows. -/
def statusesIn (candidates : List Candidate) (records : List Record) : List Status :=
  (candidates.filterMap Candidate.migration?).map fun migration =>
    .of migration.identifier (batchOf? records migration.identifier)

theorem pending_eq (repository : Repository) (candidates : List Candidate) :
    repository.pending candidates = repository.reading fun records =>
      (checkKeys records).map fun _ => pendingIn candidates records := by
  simp only [pending, appliedIdentifiers, reading, bind_assoc]
  refine bind_congr fun _ => bind_congr fun records => ?_
  cases checkKeys records <;> rfl

theorem status_eq (repository : Repository) (candidates : List Candidate) :
    repository.status candidates = repository.reading fun records =>
      (checkKeys records).map fun _ => statusesIn candidates records := by
  simp only [status, reading]
  refine bind_congr fun _ => bind_congr fun records => ?_
  cases checkKeys records <;> rfl

theorem allApplied_eq (repository : Repository) :
    repository.allApplied = repository.reading .ok := by
  simp only [allApplied, reading]
  refine bind_congr fun _ => ?_
  exact (bind_pure repository.applied).symm

theorem lastBatch_eq (repository : Repository) :
    repository.lastBatch = repository.reading fun records => .ok (latestRecords records) := by
  simp only [lastBatch, allApplied, reading, bind_assoc]
  rfl

/-! ## What a reading asks for -/

/-- What a reading asks for. -/
inductive AsksToRead (repository : Repository) : Request → Prop
  | table {request : Request} (asked : repository.AsksForTable request) :
    AsksToRead repository request
  | rows : AsksToRead repository (.queryRows repository.rowsQuery)

theorem asksOnly_reading (repository : Repository) (tell : List Record → Except Fault α) :
    (repository.reading tell).AsksOnly repository.AsksToRead := by
  have table := repository.asksOnly_ensureTable.imp fun request asked => AsksToRead.table asked
  refine table.bind fun _ => AsksOnly.bind ⟨.rows, fun answer => ?_⟩ fun records => trivial
  cases answer <;> trivial

/-- What a reading may ask for by what happened before: whether the table exists, the rows, and the
creation of the table directly after it was found missing. -/
inductive MayRead (repository : Repository) (earlier : List Event) : Request → Prop
  | exists : MayRead repository earlier (.hasTable repository.tableName)
  | create (options : String) (fragments : List String)
      (missing : earlier.getLast? = some (.asked (.hasTable repository.tableName) (.ok false))) :
    MayRead repository earlier (.execute (createText repository.tableName options fragments))
  | rows : MayRead repository earlier (.queryRows repository.rowsQuery)

/-- The protocol of readings, whatever they are answered. -/
def readProtocol (repository : Repository) : Protocol (List Event) :=
  .tracing repository.MayRead fun _ => True

variable {repository : Repository} {earlier : List Event}

/-- The tracking table is created directly after it was found missing. -/
theorem ensureTable_mayRead :
    repository.ensureTable.Ensures repository.readProtocol (fun _ _ => True) earlier := by
  obtain ⟨fragments, compiles⟩ := repository.declared_toCreate repository.schema.options
  simp only [ensureTable, Schema.create, definition_eq, compiles, Schema.compiled, sayAll,
    ensures_bind]
  refine ensures_request_tracing .exists fun answer _ => ?_
  cases answer with
  | error fault => trivial
  | ok present =>
    cases present with
    | true =>
      simp only [continues_ok, if_true, ensures_bind]
      exact ensures_say_tracing trivial
    | false =>
      simp only [continues_ok, Bool.false_eq_true, if_false, ensures_bind, ensures_pure,
        ensures_ofExcept]
      refine ensures_request_tracing (.create _ _ List.getLast?_concat) fun answer _ => ?_
      cases answer with
      | error fault => trivial
      | ok answer =>
        simp only [continues_ok, ensures_bind]
        exact ensures_say_tracing (ensures_say_tracing trivial)

theorem reading_mayRead (tell : List Record → Except Fault α) :
    (repository.reading tell).Ensures repository.readProtocol (fun _ _ => True) earlier := by
  simp only [reading, applied, ensures_bind]
  refine ensureTable_mayRead.imp ?_
  rintro (fault | created) later -
  · trivial
  · simp only [continues_ok, ensures_bind]
    refine ensures_request_tracing .rows fun answer _ => ?_
    cases answer with
    | error fault => trivial
    | ok rows =>
      simp only [continues_ok, ensures_ofExcept]
      cases rows.mapM Record.ofRow <;> trivial

/-! ## What a reading does and tells -/

/-- Whether a program only reads a record store: every request is permitted by what the program asked
before, and no row is changed. -/
structure OnlyReads {State : Type} (repository : Repository) (world : World State)
    (stored : State → List Record) (program : Program α) (state : State) : Prop where
  permitted : ∀ before request answer after,
    program.trace world state = before ++ .asked request answer :: after →
      repository.MayRead before request
  unchanged : ∀ exchange ∈ program.exchanges world state, stored exchange.before = stored state
  left : stored (program.run world state).state = stored state

section World

variable {State : Type} {world : World State} {usable : State → Prop}
  {stored : State → List Record} {state : State}

/-- Whether a state is usable and stores the rows. -/
structure StoresRows (usable : State → Prop) (stored : State → List Record) (rows : List Record)
    (state : State) : Prop where
  ready : usable state
  rows : stored state = rows

/-- What a reading asks for leaves the store usable and its rows as they are. -/
theorem AsksToRead.leaves (keeps : world.KeepsRecords repository usable stored)
    (reads : world.ReadsRecords repository usable stored) {rows : List Record} {request : Request}
    (asks : repository.AsksToRead request) (stores : StoresRows usable stored rows state) :
    StoresRows usable stored rows (world.respond request state).state := by
  obtain ⟨ready, rfl⟩ := stores
  cases asks with
  | rows => exact ⟨reads.stays state ready, reads.unchanged state ready⟩
  | table asked =>
    refine ⟨keeps.stays state request ready (.table asked), ?_⟩
    rw [keeps.stores state request ready (.table asked)]
    cases asked with
    | «exists» => exact List.append_nil _
    | create options fragments => exact List.append_nil _

theorem ensureTable_leaves (keeps : world.KeepsRecords repository usable stored)
    (reads : world.ReadsRecords repository usable stored) (ready : usable state) :
    StoresRows usable stored (stored state) (repository.ensureTable.run world state).state := by
  have asks := repository.asksOnly_ensureTable.imp fun request asked => AsksToRead.table asked
  have initially : StoresRows usable stored (stored state) state := ⟨ready, rfl⟩
  exact asks.run_state (fun request state asked => asked.leaves keeps reads) initially

theorem reading_leaves (keeps : world.KeepsRecords repository usable stored)
    (reads : world.ReadsRecords repository usable stored) (ready : usable state)
    (tell : List Record → Except Fault α) :
    StoresRows usable stored (stored state) ((repository.reading tell).run world state).state := by
  have asks := repository.asksOnly_reading tell
  have initially : StoresRows usable stored (stored state) state := ⟨ready, rfl⟩
  exact asks.run_state (fun request state asked => asked.leaves keeps reads) initially

theorem reading_onlyReads (keeps : world.KeepsRecords repository usable stored)
    (reads : world.ReadsRecords repository usable stored) (ready : usable state)
    (tell : List Record → Except Fault α) :
    repository.OnlyReads world stored (repository.reading tell) state := by
  constructor
  · have ensures : (repository.reading tell).Ensures repository.readProtocol (fun _ _ => True) [] :=
      reading_mayRead tell
    exact (ensures.traced (fun _ => trivial) (fun _ _ => trivial) state).2
  · have asks := repository.asksOnly_reading tell
    have initially : StoresRows usable stored (stored state) state := ⟨ready, rfl⟩
    intro exchange member
    exact (asks.exchanges (fun request state asked => asked.leaves keeps reads) initially
      exchange member).rows
  · exact (reading_leaves keeps reads ready tell).rows

/-- The result of an operation that needs the tracking table: the value, unless the table is missing
and cannot be created. -/
def tabled (repository : Repository) (world : World State) (state : State) (value : Except Fault α) :
    Except Fault α :=
  (repository.ensureTable.run world state).result.bind fun _ => value

/-- The records that are read are those in the rows that are answered. -/
theorem applied_answered {rows : List Row}
    (answered : (world.respond (.queryRows repository.rowsQuery) state).answer = .ok rows) :
    (repository.applied.run world state).result = rows.mapM Record.ofRow := by
  have asked : ((request (.queryRows repository.rowsQuery)).run world state).result = .ok rows :=
    answered
  have whole := (request (.queryRows repository.rowsQuery)).run_bind_result world
    (fun rows => ofExcept (rows.mapM Record.ofRow)) state
  rw [asked] at whole
  exact whole

/-- The rows that are read are those that are stored, in some order. -/
theorem applied_result (reads : world.ReadsRecords repository usable stored)
    (ready : usable state) : ∃ records, records.Perm (stored state) ∧
      (repository.applied.run world state).result = .ok records := by
  obtain ⟨rows, records, answered, read, same⟩ := reads.answers state ready
  exact ⟨records, same, (applied_answered answered).trans read⟩

/-- A reading tells what it makes of the records that are read after making sure of the table. -/
theorem reading_told {records : List Record}
    (found : (repository.applied.run world (repository.ensureTable.run world state).state).result =
      .ok records) (tell : List Record → Except Fault α) :
    ((repository.reading tell).run world state).result =
      repository.tabled world state (tell records) := by
  have whole := repository.ensureTable.run_bind_result world
    (fun _ => repository.applied >>= fun records => ofExcept (tell records)) state
  refine whole.trans ?_
  unfold tabled
  cases (repository.ensureTable.run world state).result with
  | error fault => rfl
  | ok created =>
    have rest := repository.applied.run_bind_result world (fun records => ofExcept (tell records))
      (repository.ensureTable.run world state).state
    rw [found] at rest
    exact rest

/-- A reading tells what it makes of the rows that are stored, in some order. -/
theorem reading_result (keeps : world.KeepsRecords repository usable stored)
    (reads : world.ReadsRecords repository usable stored) (ready : usable state)
    (tell : List Record → Except Fault α) :
    ∃ records, records.Perm (stored state) ∧
      ((repository.reading tell).run world state).result =
        repository.tabled world state (tell records) := by
  have prepared := ensureTable_leaves keeps reads ready
  obtain ⟨records, same, found⟩ := applied_result reads prepared.ready
  exact ⟨records, prepared.rows ▸ same, reading_told found tell⟩

end World

end Repository

end Tablewright
