import Tablewright.Proofs.Migration.Batches
import Tablewright.Proofs.Migration.Presence

/-! # One run

What a run does on a store is told by the rows at its start and by the applications that fail. It
tries the migrations that are not stored, each identifier once and in the order of the list, up to
the first that fails. For each application that returned it adds one row, in that order, with the
batch after the largest one and the next number. Nothing else changes the rows. All of this needs
that the number of the batch, and whatever is no migration, can be written out; otherwise the run
may end before it has tried what is due.
-/

namespace Tablewright

open Program

/-! ## How a run comes out -/

/-- The attempt of an application that returned. -/
def Attempt.returned (migration : Migration) : Attempt :=
  ⟨migration, .ok ()⟩

/-- How a run comes out that has migrations to try: either all applications return and so does the
run, with the records that it added, or one of them fails, and the run ends there with its fault. If
something that the run has to note cannot be written out, it may end before either. -/
inductive ComesOut (worded : Prop) (returned : List Migration) (added : List Record) :
    (due : List Migration) → List Attempt → Except Fault (List Record) → Prop
  | whole : ComesOut worded returned added returned (returned.map .returned) (.ok added)
  | failed (failing : Migration) (unreached : List Migration) (fault : Fault) :
    ComesOut worded returned added (returned ++ failing :: unreached)
      (returned.map .returned ++ [⟨failing, .error fault⟩]) (.error fault.reported)
  | hindered (obstacle : ¬ worded) (unreached : List Migration) :
    ComesOut worded returned added (returned ++ unreached) (returned.map .returned)
      (.error .badValue)

/-- Whether the ids of records go on counting after a number of rows. -/
def CountedFrom (size : Nat) (records : List Record) : Prop :=
  ∀ (index : Nat) (present : index < records.length),
    records[index].id = .int ((size + index + 1 : Nat) : Int)

/-- What a run on candidates does, and the rows that it leaves, if the applications of these
migrations returned. -/
structure RunAccount.Performs (account : RunAccount) (candidates : List Candidate)
    (returned : List Migration) (rows : List Record) : Prop where
  /-- What is not stored is tried, each identifier once, up to the first failure. -/
  out : ComesOut (IsNumbered account.number ∧ Spoken candidates) returned account.added
    (firsts (outstanding account.met candidates)) account.tried account.result
  /-- Rows are appended and nothing else changes. -/
  rows : rows = account.met ++ account.added
  /-- One row is added for each migration, in order. -/
  migrations : account.added.map (·.migration) = returned.map fun migration =>
    .text migration.identifier
  /-- All of them are of the batch after the largest one. -/
  batch : ∀ record ∈ account.added, record.batch = largestBatch account.met + 1
  /-- Each one gets the next number. -/
  ids : CountedFrom account.met.length account.added

theorem CountedFrom.cons {size : Nat} {record : Record} {records : List Record}
    (first : record.id = .int (size + 1)) (others : CountedFrom (size + 1) records) :
    CountedFrom size (record :: records) := by
  intro index present
  cases index with
  | zero => exact first
  | succ index =>
    have later := others index (Nat.lt_of_succ_lt_succ present)
    rw [List.getElem_cons_succ, later]
    congr 2
    omega

/-- A course tries all that is due, or what comes before a migration that fails, or before something
that cannot be written out. -/
theorem Course.comesOut {numbered spoken : Prop} {due : List Migration} {attempts : List Attempt}
    {result : Except Fault (List Record)} {added : List Record}
    (course : Course numbered spoken due attempts result added) :
    ∃ returned, ComesOut (numbered ∧ spoken) returned added due attempts result ∧
      added.map (·.migration) = returned.map fun migration => .text migration.identifier := by
  induction course with
  | ended => exact ⟨[], .whole, rfl⟩
  | unspoken obstacle due => exact ⟨[], .hindered (fun worded => obstacle worded.2) due, rfl⟩
  | unnumbered obstacle migration due =>
    exact ⟨[], .hindered (fun worded => obstacle worded.1) (migration :: due), rfl⟩
  | failed number migration due fault => exact ⟨[], .failed migration due fault, rfl⟩
  | @applied number migration due attempts result record added about onward ih =>
    obtain ⟨returned, out, recorded⟩ := ih
    refine ⟨migration :: returned, ?_, by simp [about, recorded]⟩
    cases out with
    | whole => exact .whole
    | failed failing unreached fault => exact .failed failing unreached fault
    | hindered obstacle unreached => exact .hindered obstacle unreached

/-! ## One run on a store -/

/-- A world that tells whether the tracking table is there, and takes its creation if it is not. -/
def World.OffersTable {State : Type} (world : World State) (repository : Repository)
    (usable : State → Prop) : Prop :=
  ∀ state, usable state → ∃ present,
    (world.respond (.hasTable repository.tableName) state).answer = .ok present ∧
      (present = false → (world.respond (.execute repository.creation)
        (world.respond (.hasTable repository.tableName) state).state).answer = .ok ())

section World

variable {α State : Type} {world : World State} {repository : Repository} {usable : State → Prop}
  {stored : State → List Record} {state : State}

/-- A world that offers the tracking table takes a run past making sure of it. -/
theorem World.OffersTable.ensureTable_result (offers : world.OffersTable repository usable)
    (ready : usable state) : (repository.ensureTable.run world state).result = .ok () := by
  obtain ⟨present, checked, creates⟩ := offers state ready
  have whole := repository.ensureTable_bind (pure ())
  rw [bind_pure_unit] at whole
  rw [whole]
  simp only [Program.run, Run.after, checked]
  cases present with
  | true => rfl
  | false =>
    simp only [Repository.onCheck, Program.run, Run.after, creates rfl]
    rfl

/-- A program that asks for nothing but what runs ask for appends the rows that it adds, and each
gets the next number. -/
theorem World.KeepsRecords.appends (keeps : world.KeepsRecords repository usable stored)
    (numbers : world.NumbersRows repository usable stored) {program : Program α}
    (only : program.AsksOnly repository.Asks) (ready : usable state) :
    let added := (program.exchanges world state).filterMap fun exchange => exchange.event.added?
    stored (program.run world state).state = stored state ++ added ∧
      CountedFrom (stored state).length added := by
  induction program generalizing state with
  | done result => exact ⟨(List.append_nil _).symm, by rintro _ ⟨⟩⟩
  | note notice rest ih => exact ih only ready
  | ask request rest ih =>
    intro added
    have stores := keeps.stores state request ready only.1
    obtain ⟨onward, counted⟩ := ih _ (only.2 (world.respond request state).answer)
      (keeps.stays state request ready only.1)
    rw [stores] at onward counted
    cases event : (world.exchange request state).event.added? with
    | none =>
      have same : added = _ := List.filterMap_cons_none event
      rw [event, Option.toList_none, List.append_nil] at onward counted
      exact ⟨same ▸ onward, same ▸ counted⟩
    | some record =>
      have same : added = record :: _ := List.filterMap_cons_some event
      rw [event, Option.toList_some] at onward counted
      rw [List.length_append] at counted
      rw [same]
      exact ⟨onward.trans (List.append_assoc _ _ _),
        .cons (numbers.id_of_added ready only.1 event) counted⟩

/-- One run on a store whose rows are of different migrations. Whatever the candidates are and
whichever applications fail, the run tries what is due up to the first failure, and appends one row
for each application that returned. It stops earlier only if something cannot be written out. -/
theorem run_performs (keeps : world.KeepsRecords repository usable stored)
    (numbers : world.NumbersRows repository usable stored)
    (offers : world.OffersTable repository usable) {initial : State} (ready : usable initial)
    (distinct : Distinct (stored initial)) (candidates : List Candidate) :
    let account := (History.start initial).account world repository stored candidates
    ∃ returned, account.Performs candidates returned
      (stored ((repository.runMigrations candidates).run world initial).state) := by
  intro account
  have alone : (History.start initial).IsAlone repository usable stored :=
    History.start_isAlone ready
  obtain ⟨-, course⟩ := alone.runs keeps distinct candidates
  have prepared := offers.ensureTable_result ready
  have ran : account.Ran candidates := by
    change account.Goes candidates (repository.ensureTable.run world initial).result at course
    rwa [prepared] at course
  obtain ⟨returned, out, migrations⟩ := ran.course.comesOut
  obtain ⟨rows, ids⟩ := keeps.appends numbers (Repository.asksOnly_runMigrations candidates) ready
  exact ⟨returned, out, rows, migrations, ran.batch, ids⟩

/-- A database in memory offers the tracking table. -/
theorem World.RunsInMemory.offersTable {database : State → MemoryDatabase}
    (memory : world.RunsInMemory repository usable database)
    (plain : IsPlainName repository.tableName) : world.OffersTable repository usable := by
  intro state ready
  refine ⟨_, (memory.answers state (.hasTable repository.tableName) _ ready rfl).1, fun _ => ?_⟩
  have checked := memory.stays state _ ready (.tracker .check)
  have created := MemoryDatabase.execute_creation
    (memory.accepts _ _ checked (.inl rfl)) (Repository.createdTable?_creation plain)
  exact (memory.answers _ (.execute repository.creation) _ checked rfl).1.trans
    (congrArg Prod.fst created)

end World

/-! ## The database in memory -/

namespace ScriptedWorld

variable {repository : Repository}

/-- Whether the database is a record store that keeps the tracking table. -/
structure IsTable (repository : Repository) (world : ScriptedWorld) : Prop where
  store : world.IsStore repository
  keeps : world.KeepsTable repository

/-- The database in memory keeps the contract of a record store, with its tracking table. -/
theorem keepsRecords_isTable (plain : IsPlainName repository.tableName) :
    full.KeepsRecords repository (IsTable repository) (stored repository) where
  stays world request table asks :=
    ⟨(keepsRecords plain).stays world request table.store asks,
      respond_keepsTable table.keeps request⟩
  answers world request table asks := (keepsRecords plain).answers world request table.store asks
  takes world request table asks := (keepsRecords plain).takes world request table.store asks
  leaves world migration table := (keepsRecords plain).leaves world migration table.store

theorem numbersRows_isTable (repository : Repository) :
    full.NumbersRows repository (IsTable repository) (stored repository) :=
  fun world identifier batch moment id table =>
    numbersRows repository world identifier batch moment id table.store

theorem offersTable (plain : IsPlainName repository.tableName) :
    full.OffersTable repository (IsTable repository) :=
  fun world table => (runsInMemory repository).offersTable plain world table.keeps

/-- A world whose tracking table holds a row of a third batch. -/
def stocked : ScriptedWorld :=
  { fresh with
    database :=
      { MemoryDatabase.empty with
        tables := [tracking.tableName]
        records := [(tracking.tableName,
          [recordRow (.int 1) "app.migrations.CreateRoles" 3 fresh.clock])] } }

theorem stocked_isTable : stocked.IsTable tracking where
  store :=
    { scalars := rfl
      conflicts := rfl
      rejects := rfl
      records := by
        intro row member
        obtain rfl := List.mem_singleton.mp member
        exact ⟨_, _, _, _, rfl⟩
      spared := fresh_isStore.spared }
  keeps := ⟨fun _ _ => rfl, rfl, fresh_isStore.spared⟩

/-- The database in memory with one row, and candidates of which one is stored, one is new and
listed twice, one fails, and one is not reached. -/
theorem stocked_performs :
    let candidates : List Candidate :=
      [.migration ⟨"roles", "app.migrations", "CreateRoles"⟩, .value .null,
        .migration ⟨"posts", "app.migrations", "CreatePosts"⟩,
        .migration ⟨"posts again", "app.migrations", "CreatePosts"⟩, .migration createUsers,
        .migration ⟨"tags", "app.migrations", "CreateTags"⟩]
    let account := (History.start stocked).account full tracking (stored tracking) candidates
    Distinct (stored tracking stocked) ∧ (IsNumbered account.number ∧ Spoken candidates) ∧
      ∃ returned, account.Performs candidates returned
        (stored tracking ((tracking.runMigrations candidates).run full stocked).state) := by
  intro candidates account
  have distinct : Distinct (stored tracking stocked) := List.nodup_singleton _
  have numbered : IsNumbered account.number := by decide +kernel
  have spoken : Spoken candidates := by
    intro value member
    obtain rfl : value = .null := by simpa [candidates] using member
    rfl
  exact ⟨distinct, ⟨numbered, spoken⟩, run_performs (keepsRecords_isTable isPlainName_tracking)
    (numbersRows_isTable tracking) (offersTable isPlainName_tracking) stocked_isTable distinct
    candidates⟩

/-- A world whose tracking table holds a row of the last batch that can be written out. -/
def overstocked : ScriptedWorld :=
  { fresh with
    database :=
      { MemoryDatabase.empty with
        tables := [tracking.tableName]
        records := [(tracking.tableName,
          [recordRow (.int 1) "app.migrations.CreateRoles" (.ofNat (Nat.pow 10 mostDigits - 1))
            fresh.clock])] } }

/-- A migration that is due is not tried behind a number that cannot be written out, nor in a batch
whose number cannot be. -/
theorem hinderedRuns_try_nothing :
    let posts : Migration := ⟨"posts", "app.migrations", "CreatePosts"⟩
    let listed := (History.start stocked).account full tracking (stored tracking)
      [.value .longNumber, .migration posts]
    let numbered := (History.start overstocked).account full tracking (stored tracking)
      [.migration posts]
    (firsts (outstanding listed.met [.value .longNumber, .migration posts]) = [posts] ∧
      listed.tried.map (·.migration) = [] ∧ listed.result = .error .badValue) ∧
    (firsts (outstanding numbered.met [.migration posts]) = [posts] ∧
      numbered.tried.map (·.migration) = [] ∧ numbered.result = .error .badValue) := by
  decide +kernel

end ScriptedWorld

end Tablewright
