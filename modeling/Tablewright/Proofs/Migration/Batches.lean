import Mathlib.Data.List.Chain
import Mathlib.Data.List.Sort
import Tablewright.Proofs.Migration.Course
import Tablewright.Proofs.Migration.Runners

/-! # The numbering of batches

A run numbers its batch after the largest one that it meets. When runs follow one another on a store
that is empty at first and gives each row the next number, batches and numbers both rise in the order
of insertion, without gaps, so reading by batch and number gives the rows as they were inserted. This
holds in the midst of a run as well, since every store on the way is the beginning of a later one.
-/

namespace Tablewright

open Program Standing

/-- The largest batch is that of a row, unless there are no rows. -/
theorem largestBatch_eq (records : List Record) :
    records = [] ∧ largestBatch records = 0 ∨
      ∃ record ∈ records, record.batch = largestBatch records := by
  unfold largestBatch
  cases largest : (records.map (·.batch)).max? with
  | none =>
    have empty : records = [] := by simpa using largest
    exact .inl ⟨empty, rfl⟩
  | some batch =>
    obtain ⟨record, member, same⟩ := List.mem_map.mp (List.max?_mem largest)
    exact .inr ⟨record, member, same⟩

theorem le_largestBatch {records : List Record} {record : Record} (member : record ∈ records) :
    record.batch ≤ largestBatch records := by
  have listed : record.batch ∈ records.map (·.batch) := List.mem_map_of_mem member
  unfold largestBatch
  cases largest : (records.map (·.batch)).max? with
  | none =>
    rw [List.max?_eq_none_iff.mp largest] at listed
    cases listed
  | some batch => exact (List.max?_eq_some_iff.mp largest).2 _ listed

/-- A store that numbers its rows: the id of a row is one more than the number of rows before. -/
def World.NumbersRows {State : Type} (world : World State) (repository : Repository)
    (usable : State → Prop) (stored : State → List Record) : Prop :=
  ∀ state identifier batch moment id, usable state →
    (world.respond (repository.recordRequest identifier batch moment) state).answer = .ok id →
      id = .int ((stored state).length + 1)

/-- Whether rows are read before others by batch and id. -/
def Record.Precedes (record other : Record) : Prop :=
  record.batch < other.batch ∨
    record.batch = other.batch ∧ record.id.before other.id = .ok true

/-- Whether the ids of rows count them, from one on. -/
def CountedByIds (records : List Record) : Prop :=
  ∀ (index : Nat) (present : index < records.length), records[index].id = .int (index + 1)

theorem CountedByIds.concat {records : List Record} (counted : CountedByIds records)
    {record : Record} (next : record.id = .int (records.length + 1)) :
    CountedByIds (records ++ [record]) := by
  intro index present
  rcases Nat.lt_or_ge index records.length with earlier | reached
  · rw [List.getElem_append_left earlier]
    exact counted index earlier
  · rw [List.length_append, List.length_singleton] at present
    obtain rfl : index = records.length := by omega
    rw [List.getElem_concat_length rfl]
    exact next

/-- Whether rows are numbered in the order of insertion, by their ids and by their batches. -/
structure Numbered (records : List Record) : Prop where
  gapless : Gapless records
  ascending : records.Pairwise fun record later => record.batch ≤ later.batch
  ids : CountedByIds records

/-- Whether reading rows by batch and id gives them in the order of insertion, and no other way. -/
def ReadsInOrder (records : List Record) : Prop :=
  ∀ rows : List Record, rows.Perm records ∧ rows.Pairwise Record.Precedes ↔ rows = records

namespace Numbered

variable {records : List Record}

/-- The beginning of numbered rows is numbered. -/
theorem of_prefix {earlier : List Record} (numbered : Numbered records)
    (start : earlier <+: records) : Numbered earlier := by
  obtain ⟨later, rfl⟩ := start
  obtain ⟨ascends, -, across⟩ := List.pairwise_append.mp numbered.ascending
  refine ⟨?_, ascends, ?_⟩
  · obtain ⟨last, spans⟩ := numbered.gapless
    refine ⟨(largestBatch earlier).toNat, fun batch => ⟨?_, ?_⟩⟩
    · rintro ⟨record, member, rfl⟩
      have within := (spans record.batch).mp ⟨record, List.mem_append_left _ member, rfl⟩
      have bound := le_largestBatch member
      omega
    · intro within
      rcases largestBatch_eq earlier with ⟨-, zero⟩ | ⟨top, member, same⟩
      · omega
      · have bound := (spans top.batch).mp ⟨top, List.mem_append_left _ member, rfl⟩
        obtain ⟨record, found, rfl⟩ := (spans batch).mpr (by omega)
        rcases List.mem_append.mp found with early | late
        · exact ⟨record, early, rfl⟩
        · have rises := across top member record late
          exact ⟨top, member, by omega⟩
  · intro index present
    have whole := numbered.ids index (by simp only [List.length_append]; omega)
    rwa [List.getElem_append_left present] at whole

/-- Later rows are read later. -/
theorem precedes (numbered : Numbered records) : records.Pairwise Record.Precedes := by
  rw [List.pairwise_iff_getElem]
  intro index later present further less
  have rises := List.pairwise_iff_getElem.mp numbered.ascending index later present further less
  rcases Int.lt_or_eq_of_le rises with below | level
  · exact .inl below
  · refine .inr ⟨level, ?_⟩
    rw [numbered.ids index present, numbered.ids later further, Value.before_int]
    simp only [Except.ok.injEq, decide_eq_true_eq]
    omega

/-- Two rows do not precede each other. -/
theorem asymmetric (numbered : Numbered records) {record other : Record}
    (member : record ∈ records) (also : other ∈ records) (precedes : record.Precedes other) :
    ¬ other.Precedes record := by
  obtain ⟨index, present, rfl⟩ := List.mem_iff_getElem.mp member
  obtain ⟨later, further, rfl⟩ := List.mem_iff_getElem.mp also
  unfold Record.Precedes at precedes ⊢
  rw [numbered.ids index present, numbered.ids later further, Value.before_int] at precedes ⊢
  simp only [Except.ok.injEq, decide_eq_true_eq] at precedes ⊢
  omega

theorem readsInOrder (numbered : Numbered records) : ReadsInOrder records := by
  intro rows
  constructor
  · rintro ⟨same, sorted⟩
    refine same.eq_of_pairwise ?_ sorted numbered.precedes
    intro record other member also precedes follows
    exact (numbered.asymmetric (same.subset member) also precedes follows).elim
  · rintro rfl
    exact ⟨.refl _, numbered.precedes⟩

end Numbered

/-! ## Ledgers -/

/-- Whether a run computed no batch and added nothing, or computed its batch once and added only
rows of it. -/
def RunAccount.Numbers (account : RunAccount) : Prop :=
  account.computed = [] ∧ account.added = [] ∨
    account.computed = [account.number] ∧ ∀ record ∈ account.added, record.batch = account.number

theorem RunAccount.Numbers.batch {account : RunAccount} (numbers : account.Numbers) :
    ∀ record ∈ account.added, record.batch = account.number := by
  rcases numbers with ⟨-, nothing⟩ | ⟨-, same⟩
  · rw [nothing]
    intro record member
    cases member
  · exact same

/-- Accounts of runs that lead from rows to rows, one after another. -/
inductive Ledger : List Record → List RunAccount → List Record → Prop
  | nil (rows : List Record) : Ledger rows [] rows
  | cons {account : RunAccount} {accounts : List RunAccount} {start rows : List Record}
      (met : account.met = start) (numbers : account.Numbers)
      (onward : Ledger (start ++ account.added) accounts rows) :
    Ledger start (account :: accounts) rows

/-- Rows of one batch that may be started leave no gap. -/
theorem Gapless.append {records added : List Record} {batch : Int} (gapless : Gapless records)
    (startable : Startable batch records) (same : ∀ record ∈ added, record.batch = batch) :
    Gapless (records ++ added) := by
  induction added generalizing records with
  | nil => rwa [List.append_nil]
  | cons record added ih =>
    obtain ⟨rfl, others⟩ := List.forall_mem_cons.mp same
    rw [List.append_cons]
    exact ih (gapless.concat startable) (startable.mono (List.prefix_append _ _)) others

theorem ascending_append {records added : List Record} {batch : Int}
    (ascending : records.Pairwise fun record later => record.batch ≤ later.batch)
    (bound : ∀ record ∈ records, record.batch ≤ batch)
    (same : ∀ record ∈ added, record.batch = batch) :
    (records ++ added).Pairwise fun record later => record.batch ≤ later.batch := by
  refine List.pairwise_append.mpr ⟨ascending, ?_, ?_⟩
  · refine List.pairwise_of_forall_mem_list fun record member later further => ?_
    rw [same record member, same later further]
  · intro record member later further
    rw [same later further]
    exact bound record member

namespace Ledger

variable {start rows : List Record} {accounts : List RunAccount}

theorem rows_eq (ledger : Ledger start accounts rows) :
    rows = start ++ accounts.flatMap (·.added) := by
  induction ledger with
  | nil => simp
  | cons met numbers onward ih => rw [ih, List.flatMap_cons, List.append_assoc]

theorem numbers (ledger : Ledger start accounts rows) : ∀ account ∈ accounts, account.Numbers := by
  induction ledger with
  | nil =>
    intro account member
    cases member
  | cons met numbers onward ih => exact List.forall_mem_cons.mpr ⟨numbers, ih⟩

/-- What was there at first is met by every run. -/
theorem start_prefix (ledger : Ledger start accounts rows) :
    ∀ account ∈ accounts, start <+: account.met := by
  induction ledger with
  | nil =>
    intro account member
    cases member
  | cons met numbers onward ih =>
    refine List.forall_mem_cons.mpr ⟨met ▸ List.prefix_refl _, fun account member => ?_⟩
    exact (List.prefix_append _ _).trans (ih account member)

/-- What a later run adds is of a larger batch. -/
theorem apart (ledger : Ledger start accounts rows) :
    accounts.Pairwise fun account later =>
      ∀ record ∈ account.added, ∀ other ∈ later.added, record.batch < other.batch := by
  induction ledger with
  | nil => exact .nil
  | cons met numbers onward ih =>
    refine List.pairwise_cons.mpr ⟨?_, ih⟩
    intro later further record member other also
    have met : record ∈ later.met :=
      (onward.start_prefix later further).subset (List.mem_append_right _ member)
    have bound := le_largestBatch met
    have batch := (onward.numbers later further).batch other also
    unfold RunAccount.number at batch
    omega

theorem met_head (ledger : Ledger start accounts rows) :
    ∀ account ∈ accounts.head?, account.met = start := by
  cases ledger with
  | nil =>
    intro account member
    cases member
  | cons met numbers onward =>
    intro account member
    exact Option.some.inj member ▸ met

/-- A run that adds nothing leaves the number of the next batch as it was. -/
theorem kept (ledger : Ledger start accounts rows) :
    accounts.IsChain fun account next => account.added = [] → next.number = account.number := by
  induction ledger with
  | nil => exact .nil
  | cons met numbers onward ih =>
    refine List.isChain_cons.mpr ⟨fun next first nothing => ?_, ih⟩
    have same := onward.met_head next first
    rw [nothing, List.append_nil, ← met] at same
    unfold RunAccount.number
    rw [same]

/-- Rows without gaps and in order stay so. -/
theorem ordered (ledger : Ledger start accounts rows) (gapless : Gapless start)
    (ascending : start.Pairwise fun record later => record.batch ≤ later.batch) :
    Gapless rows ∧ rows.Pairwise fun record later => record.batch ≤ later.batch := by
  induction ledger with
  | nil => exact ⟨gapless, ascending⟩
  | @cons account accounts start rows met numbers onward ih =>
    subst met
    have startable : Startable account.number account.met := startable_largestBatch account.met
    have below (record : Record) (member : record ∈ account.met) :
        record.batch ≤ account.number := by
      have bound := le_largestBatch member
      unfold RunAccount.number
      omega
    apply ih
    · exact gapless.append startable numbers.batch
    · exact ascending_append ascending below numbers.batch

end Ledger

/-! ## Runs one after another -/

section History

variable {State : Type}

theorem RunAccount.Ran.numbers {account : RunAccount} {candidates : List Candidate}
    (ran : account.Ran candidates) : account.Numbers :=
  .inr ⟨ran.computed, ran.batch⟩

theorem RunAccount.Stopped.numbers {account : RunAccount} {fault : Fault}
    (stopped : account.Stopped fault) : account.Numbers :=
  .inl ⟨stopped.computed, stopped.added⟩

/-- The accounts of runs on lists of candidates, one run after another. -/
def History.accounts (past : History State) (world : World State) (repository : Repository)
    (stored : State → List Record) : List (List Candidate) → List RunAccount
  | [] => []
  | candidates :: runs =>
    past.account world repository stored candidates ::
      (past.after world (repository.runMigrations candidates)).accounts world repository stored runs

/-- A state that was reached in a history, by the requests of its programs. -/
def History.Reaches (past : History State) (state : State) : Prop :=
  state = past.state ∨ ∃ exchange ∈ past.exchanges, state = exchange.before

/-- What the runs of a history make of its store, by their accounts. -/
structure History.BatchesInOrder (stored : State → List Record) (past : History State)
    (accounts : List RunAccount) : Prop where
  /-- Every store that is reached is numbered without gaps, and is read in the order of insertion. -/
  reached : ∀ state, past.Reaches state →
    Numbered (stored state) ∧ ReadsInOrder (stored state)
  /-- The runs add all rows. -/
  added : stored past.state = accounts.flatMap (·.added)
  /-- A run computes one batch, and all that it adds is of that batch, whether it fails or not. -/
  shared : ∀ account ∈ accounts, account.Numbers
  /-- What different runs add is of different batches. -/
  apart : accounts.Pairwise fun account later =>
    ∀ record ∈ account.added, ∀ other ∈ later.added, record.batch < other.batch
  /-- A run that adds nothing leaves the number of the next batch as it was. -/
  kept : accounts.IsChain fun account next => account.added = [] → next.number = account.number

/-- Whether the rows of a history only grow, and their ids count them. -/
structure History.Grows (stored : State → List Record) (past : History State) : Prop where
  counted : CountedByIds (stored past.state)
  prefixes : ∀ exchange ∈ past.exchanges, stored exchange.before <+: stored past.state

variable {world : World State} {repository : Repository} {usable : State → Prop}
  {stored : State → List Record} {past : History State}

theorem History.IsAlone.ledger (keeps : world.KeepsRecords repository usable stored)
    (alone : past.IsAlone repository usable stored) (distinct : Distinct (stored past.state))
    (runs : List (List Candidate)) :
    Ledger (stored past.state) (past.accounts world repository stored runs)
      (stored (past.afterRuns world repository runs).state) := by
  induction runs generalizing past with
  | nil => exact .nil _
  | cons candidates runs ih =>
    obtain ⟨on, course⟩ := alone.runs keeps distinct candidates
    have numbers : (past.account world repository stored candidates).Numbers := by
      cases ready : (repository.ensureTable.run world past.state).result with
      | ok created => exact RunAccount.Ran.numbers (ready ▸ course)
      | error fault => exact RunAccount.Stopped.numbers (ready ▸ course)
    refine .cons rfl numbers ?_
    have onward := ih on.alone on.distinct
    rwa [on.rows] at onward

/-- A row that is added was inserted, and the answer is its id. -/
theorem Repository.Asks.added {state : State} {request : Request} {record : Record}
    (asks : repository.Asks request)
    (added : (world.exchange request state).event.added? = some record) :
    ∃ identifier batch moment,
      (world.respond (repository.recordRequest identifier batch moment) state).answer =
        .ok record.id := by
  cases asks with
  | table asked => cases asked <;> cases added
  | count | batch | now | apply => cases added
  | record identifier batch moment =>
    let request := repository.recordRequest identifier batch moment
    refine ⟨identifier, batch, moment, ?_⟩
    simp only [World.exchange, Exchange.event] at added
    cases answered : (world.respond request state).answer with
    | error fault =>
      rw [answered] at added
      cases added
    | ok id =>
      rw [answered] at added
      obtain rfl := Option.some.inj added
      rfl

/-- A row that is added gets the next number as its id. -/
theorem World.NumbersRows.id_of_added (numbers : world.NumbersRows repository usable stored)
    {state : State} {request : Request} {record : Record} (ready : usable state)
    (asks : repository.Asks request)
    (added : (world.exchange request state).event.added? = some record) :
    record.id = .int ((stored state).length + 1) := by
  obtain ⟨identifier, batch, moment, answered⟩ := asks.added added
  exact numbers state identifier batch moment _ ready answered

/-- One more row is counted by its id. -/
theorem World.KeepsRecords.counts (keeps : world.KeepsRecords repository usable stored)
    (numbers : world.NumbersRows repository usable stored) {state : State} {request : Request}
    (ready : usable state) (asks : repository.Asks request) (counted : CountedByIds (stored state)) :
    CountedByIds (stored (world.respond request state).state) := by
  rw [keeps.stores state request ready asks]
  cases added : (world.exchange request state).event.added? with
  | none => exact (List.append_nil _).symm ▸ counted
  | some record => exact counted.concat (numbers.id_of_added ready asks added)

/-- Rows only grow in a run that is alone with its store. -/
theorem World.KeepsRecords.growing (keeps : world.KeepsRecords repository usable stored)
    (numbers : world.NumbersRows repository usable stored) :
    world.Follows repository.aloneProtocol
      (fun past => past.IsAlone repository usable stored ∧ past.Grows stored)
      (History.standing stored) := by
  refine keeps.alone.keeping fun past request alone permitted grows => ?_
  refine ⟨keeps.counts numbers alone.1 permitted.asks grows.counted, fun exchange member => ?_⟩
  have more : stored past.state <+: stored (past.exchange world request).state := by
    change stored past.state <+: stored (world.respond request past.state).state
    rw [keeps.stores past.state request alone.1 permitted.asks]
    exact List.prefix_append _ _
  rcases List.mem_append.mp member with earlier | latest
  · exact (grows.prefixes exchange earlier).trans more
  · obtain rfl := List.mem_singleton.mp latest
    exact more

theorem History.Grows.afterRuns (keeps : world.KeepsRecords repository usable stored)
    (numbers : world.NumbersRows repository usable stored)
    (alone : past.IsAlone repository usable stored) (settled : (past.standing stored).Settled)
    (grows : past.Grows stored) (runs : List (List Candidate)) :
    (past.afterRuns world repository runs).Grows stored := by
  induction runs generalizing past with
  | nil => exact grows
  | cons candidates runs ih =>
    have settles : (repository.runMigrations candidates).Ensures repository.aloneProtocol
        (fun _ => Settled) (past.standing stored) :=
      Repository.runMigrations_settles candidates settled
    obtain ⟨⟨alone, grows⟩, settled⟩ := settles.after (keeps.growing numbers) ⟨alone, grows⟩
    exact ih alone settled grows

/-- Batches are numbered over any runs on a store that keeps its contract, numbers its rows and is
empty at first. -/
theorem runs_batchesInOrder (keeps : world.KeepsRecords repository usable stored)
    (numbers : world.NumbersRows repository usable stored) {initial : State}
    (ready : usable initial) (empty : stored initial = []) (runs : List (List Candidate)) :
    ((History.start initial).afterRuns world repository runs).BatchesInOrder stored
      ((History.start initial).accounts world repository stored runs) := by
  have alone : (History.start initial).IsAlone repository usable stored :=
    History.start_isAlone ready
  have settled : ((History.start initial).standing stored).Settled := History.start_settled empty
  have start : stored (History.start initial).state = [] := empty
  have initially : (History.start initial).Grows stored := by
    constructor
    · intro index present
      rw [start] at present
      cases present
    · intro exchange member
      cases member
  have grows := initially.afterRuns keeps numbers alone settled runs
  have ledger := alone.ledger keeps settled.distinct runs
  rw [start] at ledger
  obtain ⟨gapless, ascending⟩ := ledger.ordered gapless_nil .nil
  have last : Numbered
      (stored ((History.start initial).afterRuns world repository runs).state) :=
    ⟨gapless, ascending, grows.counted⟩
  refine ⟨?_, ledger.rows_eq, ledger.numbers, ledger.apart, ledger.kept⟩
  rintro state (rfl | ⟨exchange, member, rfl⟩)
  · exact ⟨last, last.readsInOrder⟩
  · have earlier := last.of_prefix (grows.prefixes exchange member)
    exact ⟨earlier, earlier.readsInOrder⟩

end History

/-- A row that is taken gets the next number. -/
theorem MemoryDatabase.id_of_insert {database : MemoryDatabase} {table : String} {values : Row}
    {id : Value} (taken : (database.insert table values).1 = .ok id) :
    id = .int ((database.rows table).length + 1) := by
  simp only [insert] at taken
  split at taken
  · cases taken
  · split at taken
    · cases taken
    · exact (Except.ok.inj taken).symm

namespace ScriptedWorld

theorem length_recordsOf {rows : List Row} (records : ∀ row ∈ rows, row.IsRecord) :
    (recordsOf rows).length = rows.length := by
  induction rows with
  | nil => rfl
  | cons row rows ih =>
    obtain ⟨⟨id, identifier, batch, moment, rfl⟩, others⟩ := List.forall_mem_cons.mp records
    rw [recordsOf_cons, List.length_cons, List.length_cons, ih others]

/-- The database in memory numbers its rows. -/
theorem numbersRows (repository : Repository) :
    full.NumbersRows repository (IsStore repository) (stored repository) := by
  intro world identifier batch moment id store taken
  have size : (world.stored repository).length =
      (world.database.rows repository.tableName).length := length_recordsOf store.records
  rw [size]
  exact MemoryDatabase.id_of_insert taken

end ScriptedWorld

/-- The database in memory, with a migration that fails at first, runs that add nothing, and another
migration after that. -/
theorem fresh_batchesInOrder :
    let runs : List (List Candidate) :=
      [[.migration ScriptedWorld.createUsers], [.value .null, .migration ScriptedWorld.createUsers],
        [.migration ScriptedWorld.createUsers], [.migration ⟨"roles", "app", "CreateRoles"⟩]]
    ((History.start ScriptedWorld.fresh).afterRuns ScriptedWorld.full ScriptedWorld.tracking
        runs).BatchesInOrder (ScriptedWorld.stored ScriptedWorld.tracking)
      ((History.start ScriptedWorld.fresh).accounts ScriptedWorld.full ScriptedWorld.tracking
        (ScriptedWorld.stored ScriptedWorld.tracking) runs) :=
  runs_batchesInOrder (ScriptedWorld.keepsRecords ScriptedWorld.isPlainName_tracking)
    (ScriptedWorld.numbersRows _) ScriptedWorld.fresh_isStore rfl _

end Tablewright
