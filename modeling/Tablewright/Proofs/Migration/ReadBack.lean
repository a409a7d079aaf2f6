import Tablewright.Proofs.Calendar.Iso
import Tablewright.Proofs.Migration.OneRun
import Tablewright.Proofs.Migration.Views

/-! # What a run answers is read back

A run answers the records that it made itself, with the ids that its inserts were answered with.
Later they are made again, from rows, by other means. On a store that was made by runs, gives rising
ids and returns its rows by batch and id, the two agree: what is read is what was there before and
then what the run answered, and what it answered is the last batch.
-/

namespace Tablewright

open Program

/-! ## Records in rows -/

/-- How a row can show the moment of a record: as it is, or written out if its distance from
universal time is not known. -/
inductive ShowsMoment : Option DateTime → Value → Prop
  | missing : ShowsMoment none .null
  | kept (moment : DateTime) : ShowsMoment (some moment) (.dateTime moment)
  | written (moment : DateTime) (naive : moment.offset = none) (separator : Char) :
    ShowsMoment (some moment) (.text (String.ofList (moment.isoChars separator)))

/-- Whether a row has the cells of a record. -/
structure Row.Shows (row : Row) (record : Record) : Prop where
  id : row.lookup "id" = some record.id
  migration : row.lookup "migration" = some record.migration
  batch : row.lookup "batch" = some (.int record.batch)
  createdAt : ∃ cell, row.lookup "created_at" = some cell ∧ ShowsMoment record.createdAt cell

theorem ShowsMoment.read {moment? : Option DateTime} {cell : Value}
    (shows : ShowsMoment moment? cell) : readMoment cell = .ok moment? := by
  cases shows with
  | missing => rfl
  | kept moment => rfl
  | written moment naive separator =>
    exact readMoment_text (DateTime.readIso?_isoChars naive separator)

/-- A record is made again from a row that shows it. -/
theorem Row.Shows.ofRow {row : Row} {record : Record} (shows : row.Shows record) :
    Record.ofRow row = .ok record := by
  obtain ⟨cell, found, moment⟩ := shows.createdAt
  exact Record.ofRow_eq shows.id shows.migration shows.batch found moment.read

/-- A world that returns rows in order: the query for all rows is answered with rows that show the
records that are stored, by batch and id, and changes nothing. -/
structure World.ReturnsRows {State : Type} (world : World State) (repository : Repository)
    (usable : State → Prop) (stored : State → List Record) : Prop where
  stays : ∀ state, usable state →
    usable (world.respond (.queryRows repository.rowsQuery) state).state
  answers : ∀ state, usable state → ∃ rows records,
    (world.respond (.queryRows repository.rowsQuery) state).answer = .ok rows ∧
      List.Forall₂ Row.Shows rows records ∧ records.Perm (stored state) ∧
      records.Pairwise fun record later => ¬ later.Precedes record
  unchanged : ∀ state, usable state →
    stored (world.respond (.queryRows repository.rowsQuery) state).state = stored state

/-- A world whose store gives rising ids: a new row is given a number above those of all rows. -/
def World.RaisesIds {State : Type} (world : World State) (repository : Repository)
    (usable : State → Prop) (stored : State → List Record) : Prop :=
  ∀ state identifier batch moment id, usable state →
    (world.respond (repository.recordRequest identifier batch moment) state).answer = .ok id →
      ∃ number, id = .int number ∧
        ∀ record ∈ stored state, ∀ earlier, record.id = .int earlier → earlier < number

/-! ## Rows in order -/

/-- Whether the ids of rows are numbers that rise. -/
def RisingIds (records : List Record) : Prop :=
  ∃ numbers : List Int, records.map (·.id) = numbers.map .int ∧ numbers.Pairwise (· < ·)

/-- Whether rows are in the order of their batches and of their ids. -/
structure InOrder (records : List Record) : Prop where
  ascending : records.Pairwise fun record later => record.batch ≤ later.batch
  rising : RisingIds records

section Rows

variable {records added : List Record}

theorem RisingIds.concat (rising : RisingIds records) {record : Record} {number : Int}
    (named : record.id = .int number)
    (above : ∀ other ∈ records, ∀ earlier, other.id = .int earlier → earlier < number) :
    RisingIds (records ++ [record]) := by
  obtain ⟨numbers, ids, rises⟩ := rising
  refine ⟨numbers ++ [number], by simp [ids, named], List.pairwise_append.mpr ⟨rises, ?_, ?_⟩⟩
  · exact List.pairwise_singleton _ _
  · intro earlier member last only
    obtain rfl := List.mem_singleton.mp only
    have listed : Value.int earlier ∈ records.map (·.id) := ids ▸ List.mem_map_of_mem member
    obtain ⟨other, present, same⟩ := List.mem_map.mp listed
    exact above other present earlier same

/-- Of two rows in order, the earlier one precedes the later one, and not the other way. -/
theorem InOrder.precedes (ordered : InOrder records) :
    records.Pairwise fun record later => record.Precedes later ∧ ¬ later.Precedes record := by
  obtain ⟨numbers, ids, rising⟩ := ordered.rising
  have ordering : (records.map (·.id)).Pairwise fun id later =>
      id.before later = .ok true ∧ ¬ later.before id = .ok true := by
    rw [ids, List.pairwise_map]
    refine rising.imp fun {number later} less => ?_
    simp only [Value.before_int, Except.ok.injEq, decide_eq_true_eq]
    omega
  refine (ordered.ascending.and (List.pairwise_map.mp ordering)).imp ?_
  rintro record later ⟨batches, before, notAfter⟩
  unfold Record.Precedes
  constructor
  · rcases Int.lt_or_eq_of_le batches with less | level
    · exact .inl less
    · exact .inr ⟨level, before⟩
  · rintro (less | ⟨-, after⟩)
    · omega
    · exact notAfter after

/-- Rows in order are the only ones that reading them by batch and id can give. -/
theorem InOrder.eq_of_perm (ordered : InOrder records) {rows : List Record}
    (same : rows.Perm records)
    (sorted : rows.Pairwise fun record later => ¬ later.Precedes record) : rows = records := by
  refine same.eq_of_pairwise ?_ sorted (ordered.precedes.imp And.right)
  intro record other member also unpreceded unfollowed
  obtain ⟨index, present, rfl⟩ := List.mem_iff_getElem.mp (same.subset member)
  obtain ⟨place, within, rfl⟩ := List.mem_iff_getElem.mp also
  have precedes := List.pairwise_iff_getElem.mp ordered.precedes
  rcases Nat.lt_trichotomy index place with less | rfl | more
  · exact absurd (precedes index place present within less).1 unfollowed
  · rfl
  · exact absurd (precedes place index within present more).1 unpreceded

/-- What is added in the batch after the largest one is the last batch. -/
theorem latestRecords_append (some : added ≠ [])
    (next : ∀ record ∈ added, record.batch = largestBatch records + 1) :
    Repository.latestRecords (records ++ added) = added := by
  have within : ∀ batch ∈ (records ++ added).map (·.batch), batch ≤ largestBatch records + 1 := by
    simp only [List.map_append, List.mem_append, List.mem_map]
    rintro batch (⟨record, member, rfl⟩ | ⟨record, member, rfl⟩)
    · have bound := le_largestBatch member
      omega
    · exact (next record member).le
  obtain ⟨first, rest, rfl⟩ := List.exists_cons_of_ne_nil some
  have largest : ((records ++ first :: rest).map (·.batch)).max? =
      .some (largestBatch records + 1) := by
    refine List.max?_eq_some_iff.mpr ⟨?_, within⟩
    rw [← next first List.mem_cons_self]
    exact List.mem_map_of_mem (List.mem_append_right _ List.mem_cons_self)
  rw [Repository.latestRecords, largest]
  dsimp only
  rw [List.filter_append, List.filter_eq_nil_iff.mpr, List.filter_eq_self.mpr, List.nil_append]
  · intro record member
    exact decide_eq_true (next record member)
  · intro record member
    have bound := le_largestBatch member
    rw [decide_eq_true_eq]
    omega

end Rows

/-! ## Reading and running on rows in order -/

section World

variable {State : Type} {world : World State} {repository : Repository} {usable : State → Prop}
  {stored : State → List Record} {rows : List Record} {state : State}

/-- Whether a state is usable and stores the rows, which are of different migrations and in
order. -/
structure StoresInOrder (usable : State → Prop) (stored : State → List Record)
    (rows : List Record) (state : State) : Prop where
  stores : Repository.StoresRows usable stored rows state
  distinct : Distinct rows
  ordered : InOrder rows

/-- Rows that are returned in order can be read. -/
theorem World.ReturnsRows.readsRecords (returns : world.ReturnsRows repository usable stored) :
    world.ReadsRecords repository usable stored where
  stays := returns.stays
  unchanged := returns.unchanged
  answers state ready := by
    obtain ⟨rows, records, answered, shown, same, -⟩ := returns.answers state ready
    exact ⟨rows, records, answered, mapM_eq_ok.mpr (shown.imp fun _ _ => Row.Shows.ofRow), same⟩

/-- The rows that are stored in order are read as they are stored. -/
theorem StoresInOrder.applied (keeps : StoresInOrder usable stored rows state)
    (returns : world.ReturnsRows repository usable stored) :
    (repository.applied.run world state).result = .ok rows := by
  obtain ⟨⟨ready, rfl⟩, -, ordered⟩ := keeps
  obtain ⟨shown, records, answered, each, same, sorted⟩ := returns.answers state ready
  obtain rfl := ordered.eq_of_perm same sorted
  rw [Repository.applied_answered answered]
  exact mapM_eq_ok.mpr (each.imp fun _ _ => Row.Shows.ofRow)

/-- A reading tells what it makes of the rows that are stored in order, and leaves them so. -/
theorem StoresInOrder.reading {α : Type} (inOrder : StoresInOrder usable stored rows state)
    (keeps : world.KeepsRecords repository usable stored)
    (returns : world.ReturnsRows repository usable stored)
    (offers : world.OffersTable repository usable) (tell : List Record → Except Fault α) :
    ((repository.reading tell).run world state).result = tell rows ∧
      StoresInOrder usable stored rows ((repository.reading tell).run world state).state := by
  obtain ⟨⟨ready, rfl⟩, distinct, ordered⟩ := inOrder
  have prepared : StoresInOrder usable stored (stored state)
      (repository.ensureTable.run world state).state :=
    ⟨Repository.ensureTable_leaves keeps returns.readsRecords ready, distinct, ordered⟩
  have told := Repository.reading_told (prepared.applied returns) tell
  rw [Repository.tabled, offers.ensureTable_result ready] at told
  exact ⟨told, Repository.reading_leaves keeps returns.readsRecords ready tell, distinct, ordered⟩

/-- Ids rise further in every request of a run. -/
theorem World.RaisesIds.risen (raises : world.RaisesIds repository usable stored)
    (keeps : world.KeepsRecords repository usable stored) {request : Request}
    (ready : usable state) (asks : repository.Asks request)
    (rising : RisingIds (stored state)) :
    RisingIds (stored (world.respond request state).state) := by
  rw [keeps.stores state request ready asks]
  cases added : (world.exchange request state).event.added? with
  | none => exact (List.append_nil _).symm ▸ rising
  | some record =>
    obtain ⟨identifier, batch, moment, answered⟩ := asks.added added
    obtain ⟨number, named, above⟩ := raises state identifier batch moment _ ready answered
    exact rising.concat named above

/-- Ids rise in a run, whether it fails or not. -/
theorem World.RaisesIds.runMigrations (raises : world.RaisesIds repository usable stored)
    (keeps : world.KeepsRecords repository usable stored)
    (initially : usable state ∧ RisingIds (stored state)) (candidates : List Candidate) :
    let ended := ((repository.runMigrations candidates).run world state).state
    usable ended ∧ RisingIds (stored ended) := by
  have asks : (repository.runMigrations candidates).AsksOnly repository.Asks :=
    Repository.asksOnly_runMigrations candidates
  have leaves (request : Request) (later : State) (asked : repository.Asks request)
      (holds : usable later ∧ RisingIds (stored later)) :
      usable (world.respond request later).state ∧
        RisingIds (stored (world.respond request later).state) :=
    ⟨keeps.stays later request holds.1 asked, raises.risen keeps holds.1 asked holds.2⟩
  exact asks.run_state leaves initially

/-- Ids rise in runs that follow one another. -/
theorem World.RaisesIds.afterRuns (raises : world.RaisesIds repository usable stored)
    (keeps : world.KeepsRecords repository usable stored) {past : History State}
    (initially : usable past.state ∧ RisingIds (stored past.state))
    (runs : List (List Candidate)) :
    RisingIds (stored (past.afterRuns world repository runs).state) := by
  induction runs generalizing past with
  | nil => exact initially.2
  | cons candidates runs ih => exact ih (raises.runMigrations keeps initially candidates)

theorem ComesOut.answered {worded : Prop} {returned due : List Migration}
    {added records : List Record} {tried : List Attempt}
    (out : ComesOut worded returned added due tried (.ok records)) :
    added = records := by
  cases out
  rfl

/-- A run that answers records has added just these, in its batch. -/
theorem RunAccount.Goes.answered {α : Type} {account : RunAccount} {candidates : List Candidate}
    {prepared : Except Fault α} (goes : account.Goes candidates prepared) {records : List Record}
    (ended : account.result = .ok records) :
    account.added = records ∧ ∀ record ∈ records, record.batch = account.number := by
  cases prepared with
  | error fault =>
    have stopped : account.Stopped fault := goes
    cases ended.symm.trans stopped.result
  | ok value =>
    have ran : account.Ran candidates := goes
    obtain ⟨returned, out, -⟩ := ran.course.comesOut
    have same : account.added = records := (ended ▸ out).answered
    exact ⟨same, same ▸ ran.batch⟩

/-- A run that comes to an end on rows in order leaves them with the records that it answers, which
are of the batch after the largest one, and in order. -/
theorem StoresInOrder.runMigrations (inOrder : StoresInOrder usable stored rows state)
    (keeps : world.KeepsRecords repository usable stored)
    (raises : world.RaisesIds repository usable stored) {candidates : List Candidate}
    {records : List Record}
    (ended : ((repository.runMigrations candidates).run world state).result = .ok records) :
    StoresInOrder usable stored (rows ++ records)
        ((repository.runMigrations candidates).run world state).state ∧
      ∀ record ∈ records, record.batch = largestBatch rows + 1 := by
  obtain ⟨⟨ready, rfl⟩, distinct, ordered⟩ := inOrder
  have alone : (History.start state).IsAlone repository usable stored :=
    History.start_isAlone ready
  let account := (History.start state).account world repository stored candidates
  obtain ⟨on, goes⟩ := alone.runs keeps distinct candidates
  obtain ⟨added, batch⟩ := RunAccount.Goes.answered goes ended
  have left : stored ((repository.runMigrations candidates).run world state).state =
      stored state ++ records := added ▸ on.rows
  have rising := (raises.runMigrations keeps ⟨ready, ordered.rising⟩ candidates).2
  have bound (record : Record) (member : record ∈ stored state) :
      record.batch ≤ largestBatch (stored state) + 1 := by
    have largest := le_largestBatch member
    omega
  refine ⟨⟨⟨on.alone.1, left⟩, left ▸ on.distinct, ?_, left ▸ rising⟩, batch⟩
  exact ascending_append ordered.ascending bound batch

/-- Runs from an empty store, whether they fail or not, leave its rows in order. -/
theorem storesInOrder_afterRuns (keeps : world.KeepsRecords repository usable stored)
    (raises : world.RaisesIds repository usable stored) {initial : State}
    (ready : usable initial) (empty : stored initial = []) (runs : List (List Candidate)) :
    let reached := ((History.start initial).afterRuns world repository runs).state
    StoresInOrder usable stored (stored reached) reached := by
  intro reached
  have alone : (History.start initial).IsAlone repository usable stored :=
    History.start_isAlone ready
  have settled : ((History.start initial).standing stored).Settled := History.start_settled empty
  have ledger := alone.ledger keeps settled.distinct runs
  have start : stored (History.start initial).state = [] := empty
  rw [start] at ledger
  have none : RisingIds (stored initial) := empty ▸ ⟨[], rfl, .nil⟩
  have initially : usable (History.start initial).state ∧
      RisingIds (stored (History.start initial).state) := ⟨ready, none⟩
  have rising := raises.afterRuns keeps initially runs
  obtain ⟨alone, settled⟩ := alone.afterRuns keeps settled runs
  exact ⟨⟨alone.1, rfl⟩, settled.distinct, (ledger.ordered gapless_nil .nil).2, rising⟩

/-- What is told before a run and after it, of all records and of the last batch, if the run answers
records: those that were made are the last batch and come after all that were there before, and if
none were made everything is as before. -/
structure ReadBack (earlier latest : List Record)
    (listed grouped ran regrouped relisted : Except Fault (List Record)) : Prop where
  listed : listed = .ok earlier
  grouped : grouped = .ok latest
  some : ∀ records, ran = .ok records → records ≠ [] →
    regrouped = .ok records ∧ relisted = .ok (earlier ++ records)
  none : ran = .ok [] → regrouped = .ok latest ∧ relisted = .ok earlier

/-- What a run answers is read back, on every store that was made by runs from an empty one: all
records and the last batch are read, the run follows, then the last batch and all records are read
again. -/
theorem runs_readBack (keeps : world.KeepsRecords repository usable stored)
    (returns : world.ReturnsRows repository usable stored)
    (raises : world.RaisesIds repository usable stored)
    (offers : world.OffersTable repository usable) {initial : State} (ready : usable initial)
    (empty : stored initial = []) (runs : List (List Candidate)) (candidates : List Candidate) :
    let reached := ((History.start initial).afterRuns world repository runs).state
    let listed := repository.allApplied.run world reached
    let grouped := repository.lastBatch.run world listed.state
    let ran := (repository.runMigrations candidates).run world grouped.state
    let regrouped := repository.lastBatch.run world ran.state
    let relisted := repository.allApplied.run world regrouped.state
    ∃ earlier latest, ReadBack earlier latest listed.result grouped.result ran.result
      regrouped.result relisted.result := by
  intro reached listed grouped ran regrouped relisted
  have reading {rows : List Record} {state : State}
      (inOrder : StoresInOrder usable stored rows state) {program : Program (List Record)}
      {tell : List Record → Except Fault (List Record)}
      (reads : program = repository.reading tell) :
      (program.run world state).result = tell rows ∧
        StoresInOrder usable stored rows (program.run world state).state := by
    subst reads
    exact inOrder.reading keeps returns offers tell
  have initially := storesInOrder_afterRuns keeps raises ready empty runs
  obtain ⟨allBefore, afterAll⟩ := reading initially repository.allApplied_eq
  obtain ⟨lastBefore, before⟩ := reading afterAll repository.lastBatch_eq
  have again {records : List Record} (ended : ran.result = .ok records) :
      regrouped.result = .ok (Repository.latestRecords (stored reached ++ records)) ∧
        relisted.result = .ok (stored reached ++ records) ∧
        ∀ record ∈ records, record.batch = largestBatch (stored reached) + 1 := by
    obtain ⟨after, batch⟩ := before.runMigrations keeps raises ended
    obtain ⟨lastAfter, between⟩ := reading after repository.lastBatch_eq
    exact ⟨lastAfter, (reading between repository.allApplied_eq).1, batch⟩
  refine ⟨stored reached, _, allBefore, lastBefore, fun records ended some => ?_, fun ended => ?_⟩
  · obtain ⟨last, all, batch⟩ := again ended
    rw [latestRecords_append some batch] at last
    exact ⟨last, all⟩
  · obtain ⟨last, all, -⟩ := again ended
    rw [List.append_nil] at last all
    exact ⟨last, all⟩

end World

/-! ## The database in memory -/

/-- The number in a cell, zero if there is none. -/
def Row.number (row : Row) (column : String) : Int :=
  match Row.cellOrNull row column with
  | .int number => number
  | _ => 0

/-- Whether a row may be returned before another one, by batch and id. -/
def Row.goesBefore (row other : Row) : Bool :=
  row.number "batch" < other.number "batch" ||
    row.number "batch" = other.number "batch" && row.number "id" ≤ other.number "id"

/-- Sorting by batch and id puts no row behind one that it precedes. -/
theorem Row.pairwise_goesBefore (rows : List Row) :
    (rows.mergeSort Row.goesBefore).Pairwise fun row later => row.goesBefore later = true := by
  refine List.pairwise_mergeSort ?_ ?_ rows
  · intro row other later first second
    simp only [goesBefore, Bool.or_eq_true, Bool.and_eq_true, decide_eq_true_eq] at first second ⊢
    omega
  · intro row other
    simp only [goesBefore, Bool.or_eq_true, Bool.and_eq_true, decide_eq_true_eq]
    omega

theorem toOption_eq_some {α : Type} {result : Except Fault α} {value : α} :
    result.toOption = some value ↔ result = .ok value := by
  cases result <;> simp [Except.toOption]

/-- Rows that a tracker inserted show the records in them. -/
theorem forall₂_shows_recordsOf {rows : List Row} (records : ∀ row ∈ rows, row.IsRecord) :
    List.Forall₂ Row.Shows rows (recordsOf rows) := by
  induction rows with
  | nil => exact .nil
  | cons row rows ih =>
    obtain ⟨⟨id, identifier, batch, moment, rfl⟩, others⟩ := List.forall_mem_cons.mp records
    rw [recordsOf_cons]
    exact .cons ⟨rfl, rfl, rfl, _, rfl, .kept moment⟩ (ih others)

/-- A record does not precede one whose row goes before its own. -/
theorem Row.IsRecord.not_precedes {row other : Row} (inserted : row.IsRecord)
    (also : other.IsRecord) {record later : Record} (read : Record.ofRow row = .ok record)
    (readLater : Record.ofRow other = .ok later) {first second : Int}
    (named : record.id = .int first) (namedLater : later.id = .int second)
    (before : row.goesBefore other = true) : ¬ later.Precedes record := by
  obtain ⟨id, identifier, batch, moment, rfl⟩ := inserted
  obtain ⟨id', identifier', batch', moment', rfl⟩ := also
  cases read
  cases readLater
  obtain rfl : id = .int first := named
  obtain rfl : id' = .int second := namedLater
  have order : (decide (batch < batch') || decide (batch = batch') && decide (first ≤ second)) =
      true := before
  change ¬ (batch' < batch ∨
    batch' = batch ∧ (Value.int second).before (.int first) = .ok true)
  simp only [Bool.or_eq_true, Bool.and_eq_true, decide_eq_true_eq] at order
  simp only [Value.before_int, Except.ok.injEq, decide_eq_true_eq]
  omega

namespace ScriptedWorld

variable {repository : Repository}

/-- The world in which the tracker runs, if the database returns rows by batch and id. -/
def sorting : World ScriptedWorld where
  respond
    | .queryRows statement, world =>
      let reaction := full.respond (.queryRows statement) world
      ⟨reaction.answer.map fun rows => rows.mergeSort Row.goesBefore, reaction.events,
        reaction.state⟩
    | other, world => full.respond other world

theorem sorting_respond {request : Request} (asks : repository.Asks request)
    (world : ScriptedWorld) : sorting.respond request world = full.respond request world := by
  cases asks with
  | table asked => cases asked <;> rfl
  | _ => rfl

/-- Whether the database keeps the tracking table and the ids in it count its rows. -/
structure IsCounted (repository : Repository) (world : ScriptedWorld) : Prop where
  table : world.IsTable repository
  counted : CountedByIds (world.stored repository)

theorem keepsRecords_sorting (plain : IsPlainName repository.tableName) :
    sorting.KeepsRecords repository (IsCounted repository) (stored repository) := by
  have keeps := keepsRecords_isTable plain
  refine ⟨⟨?_, ?_, ?_⟩, ?_⟩
  · intro world request counts asks
    rw [sorting_respond asks]
    exact ⟨keeps.stays world request counts.table asks,
      keeps.counts (numbersRows_isTable repository) counts.table asks counts.counted⟩
  · intro world request counts asks
    rw [World.exchange, sorting_respond asks]
    exact keeps.answers world request counts.table asks
  · intro world request counts asks other
    rw [World.exchange, sorting_respond asks]
    exact keeps.takes world request counts.table asks other
  · intro world migration counts
    have asked : repository.Asks (.apply migration) := .apply migration
    rw [sorting_respond asked]
    exact keeps.leaves world migration counts.table

/-- The ids of a database that counts its rows rise. -/
theorem raisesIds_sorting (repository : Repository) :
    sorting.RaisesIds repository (IsCounted repository) (stored repository) := by
  intro world identifier batch moment id counts answered
  rw [sorting_respond (.record identifier batch moment)] at answered
  have next := numbersRows_isTable repository world identifier batch moment id counts.table answered
  refine ⟨_, next, fun record member earlier same => ?_⟩
  obtain ⟨index, present, rfl⟩ := List.mem_iff_getElem.mp member
  have counted := (counts.counted index present).symm.trans same
  have number := Value.int.inj counted
  omega

theorem offersTable_sorting (plain : IsPlainName repository.tableName) :
    sorting.OffersTable repository (IsCounted repository) :=
  fun world counts => offersTable plain world counts.table

/-- Sorted rows are returned in order. -/
theorem returnsRows_sorting (plain : IsPlainName repository.tableName) :
    sorting.ReturnsRows repository (IsCounted repository) (stored repository) where
  stays world counts := counts
  unchanged world counts := rfl
  answers world counts := by
    have found := repository.queriedTable?_rowsQuery plain
    have rows : world.database.queryRows repository.rowsQuery =
        world.database.rows repository.tableName := by
      simp [MemoryDatabase.queryRows, found]
    let inserted := world.database.rows repository.tableName
    let sorted := inserted.mergeSort Row.goesBefore
    have same : sorted.Perm inserted := inserted.mergeSort_perm Row.goesBefore
    have records : ∀ row ∈ sorted, row.IsRecord := fun row member =>
      counts.table.store.records row (same.subset member)
    have answered : (sorting.respond (.queryRows repository.rowsQuery) world).answer =
        .ok sorted := by
      change Except.ok ((world.database.queryRows repository.rowsQuery).mergeSort _) = _
      rw [rows]
    have stores : (recordsOf sorted).Perm (world.stored repository) := same.filterMap _
    have named (record : Record) (member : record ∈ recordsOf sorted) :
        ∃ number, record.id = .int number := by
      obtain ⟨index, present, rfl⟩ := List.mem_iff_getElem.mp (stores.subset member)
      exact ⟨_, counts.counted index present⟩
    refine ⟨sorted, recordsOf sorted, answered, forall₂_shows_recordsOf records, stores, ?_⟩
    refine List.pairwise_filterMap.mpr ((Row.pairwise_goesBefore inserted).imp_of_mem ?_)
    intro row other member also before record read later readLater
    obtain ⟨first, same⟩ := named record (List.mem_filterMap.mpr ⟨row, member, read⟩)
    obtain ⟨second, sameLater⟩ := named later (List.mem_filterMap.mpr ⟨other, also, readLater⟩)
    exact (records row member).not_precedes (records other also) (toOption_eq_some.mp read)
      (toOption_eq_some.mp readLater) same sameLater before

theorem fresh_isCounted : fresh.IsCounted tracking where
  table := ⟨fresh_isStore, ⟨fun _ _ => rfl, rfl, fresh_isStore.spared⟩⟩
  counted := by
    intro index present
    cases present

/-- The database in memory, after a run that failed and one that recorded two migrations; the run
that is read back records a third one. -/
theorem fresh_readBack :
    let runs : List (List Candidate) :=
      [[.migration createUsers], [.migration ⟨"roles", "app", "CreateRoles"⟩,
        .migration ⟨"tags", "app", "CreateTags"⟩]]
    let reached := ((History.start fresh).afterRuns sorting tracking runs).state
    let listed := tracking.allApplied.run sorting reached
    let grouped := tracking.lastBatch.run sorting listed.state
    let ran := (tracking.runMigrations [.migration ⟨"posts", "app", "CreatePosts"⟩]).run sorting
      grouped.state
    let regrouped := tracking.lastBatch.run sorting ran.state
    let relisted := tracking.allApplied.run sorting regrouped.state
    ∃ earlier latest, ReadBack earlier latest listed.result grouped.result ran.result
      regrouped.result relisted.result :=
  runs_readBack (keepsRecords_sorting isPlainName_tracking)
    (returnsRows_sorting isPlainName_tracking) (raisesIds_sorting tracking)
    (offersTable_sorting isPlainName_tracking) fresh_isCounted rfl _ _

end ScriptedWorld

end Tablewright
