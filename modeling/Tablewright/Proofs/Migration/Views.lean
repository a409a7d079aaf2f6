import Tablewright.Proofs.Migration.Course
import Tablewright.Proofs.Migration.Readings

/-! # The views of what is applied

Whether a migration is applied can be asked in three ways: by the list of those that are pending, by
the statuses, and by a count of its rows. The three read different queries, but on a store that was
made by runs they agree, and a run that follows applies just what is pending.
-/

namespace Tablewright

open Program

/-! ## What is told of rows -/

section Rows

variable {records rows : List Record} {candidates : List Candidate}

theorem mem_withMigration (seen : List Value) (record : Record) (identifier : String) :
    .text identifier ∈ Repository.withMigration seen record ↔
      .text identifier ∈ seen ∨ record.migration = .text identifier := by
  unfold Repository.withMigration
  split
  · rename_i found
    refine ⟨.inl, ?_⟩
    rintro (earlier | about)
    · exact earlier
    · rw [about] at found
      obtain ⟨value, member, same⟩ := List.any_eq_true.mp found
      exact (Value.same_text value identifier).mp same ▸ member
  · rw [List.mem_append, List.mem_singleton, @eq_comm _ (Value.text identifier)]

theorem mem_migrationsOf (identifier : String) :
    .text identifier ∈ Repository.migrationsOf records ↔ Recorded records identifier := by
  have further (seen : List Value) :
      .text identifier ∈ records.foldl Repository.withMigration seen ↔
        .text identifier ∈ seen ∨ Recorded records identifier := by
    induction records generalizing seen with
    | nil => simp [Recorded]
    | cons record records ih =>
      rw [List.foldl_cons, ih, mem_withMigration, or_assoc]
      simp [Recorded, eq_comm]
  simpa [Repository.migrationsOf] using further []

/-- A migration is pending unless it is recorded. -/
theorem pendingIn_eq : Repository.pendingIn candidates records = outstanding records candidates := by
  unfold Repository.pendingIn outstanding
  refine List.filter_congr fun migration _ => ?_
  congr 1
  rw [Bool.eq_iff_iff, List.any_eq_true, decide_eq_true_eq, ← mem_migrationsOf]
  simp only [Value.same_text, exists_eq_right]

theorem recorded_perm (same : records.Perm rows) (identifier : String) :
    Recorded records identifier ↔ Recorded rows identifier :=
  (same.map (·.migration)).mem_iff

theorem outstanding_perm (same : records.Perm rows) :
    outstanding records candidates = outstanding rows candidates := by
  unfold outstanding
  refine List.filter_congr fun migration _ => ?_
  simp only [recorded_perm same]

/-- Whether all rows are of migrations. -/
def Named (records : List Record) : Prop :=
  ∀ record ∈ records, ∃ identifier, record.migration = .text identifier

theorem Named.append (named : Named records) (others : Named rows) : Named (records ++ rows) := by
  intro record member
  rcases List.mem_append.mp member with earlier | later
  · exact named record earlier
  · exact others record later

theorem named_of_map {α : Type} {name : α → String} {sources : List α}
    (about : records.map (·.migration) = sources.map fun source => .text (name source)) :
    Named records := by
  intro record member
  have listed : record.migration ∈ records.map (·.migration) := List.mem_map_of_mem member
  rw [about] at listed
  obtain ⟨source, -, same⟩ := List.mem_map.mp listed
  exact ⟨name source, same.symm⟩

theorem checkKeys_named (named : Named records) : Repository.checkKeys records = .ok () := by
  have none : (records.find? fun record => !record.migration.isKey) = none := by
    refine List.find?_eq_none.mpr fun record member => ?_
    obtain ⟨identifier, about⟩ := named record member
    rw [about]
    exact Bool.false_ne_true
  unfold Repository.checkKeys
  rw [none]

theorem batchOf?_eq_none (identifier : String) :
    Repository.batchOf? records identifier = none ↔ ¬ Recorded records identifier := by
  rw [recorded_iff]
  simp [Repository.batchOf?, Value.same_text]

theorem batchOf?_eq_some {identifier : String} {batch : Int}
    (found : Repository.batchOf? records identifier = some batch) :
    ∃ record ∈ records, record.migration = .text identifier ∧ record.batch = batch := by
  obtain ⟨record, first, rfl⟩ := Option.map_eq_some_iff.mp found
  have member : record ∈ records := List.mem_reverse.mp (List.mem_of_find?_eq_some first)
  have about := List.find?_some first
  exact ⟨record, member, (Value.same_text _ _).mp about, rfl⟩

end Rows

/-! ## Agreement -/

namespace Repository

variable {State : Type}

/-- Whether what is told of one migration agrees, with those that are pending. -/
structure Agrees (repository : Repository) (world : World State) (stored : State → List Record)
    (state : State) (pending : List Migration) (migration : Migration) (status : Status) : Prop where
  identifier : status.identifier = migration.identifier
  /-- It is pending exactly if its status says so, without a batch. -/
  marked : migration ∈ pending ↔ status.progress = .pending ∧ status.batch = none
  /-- It is pending exactly if no row of it is counted. -/
  uncounted : migration ∈ pending ↔
    ((repository.hasRun migration.identifier).run world state).result = .ok false
  /-- Otherwise it is applied in the batch that is stored for it. -/
  applied : migration ∉ pending →
    ((repository.hasRun migration.identifier).run world state).result = .ok true ∧
      status.progress = .applied ∧ ∃ record ∈ stored state,
        record.migration = .text migration.identifier ∧ status.batch = some record.batch

/-- Whether a run that follows at once applies what is pending: if every application returns, and
what the run has to note can be written out, then it answers the records of the pending migrations,
each identifier once, and nothing is pending then. -/
def IsFollowedUp (repository : Repository) (world : World State) (stored : State → List Record)
    (state : State) (candidates : List Candidate) (pending : List Migration) : Prop :=
  let account := (History.start state).account world repository stored candidates
  let ended := ((repository.runMigrations candidates).run world state).state
  (∀ attempt ∈ account.tried, attempt.outcome = .ok ()) →
    IsNumbered account.number → Spoken candidates →
      (account.result.map fun records => records.map (·.migration)) =
          repository.tabled world state
            (.ok ((pending.map Migration.identifier).eraseDups.map Value.text)) ∧
        ∀ records, account.result = .ok records →
          ((repository.pending candidates).run world ended).result =
            repository.tabled world ended (.ok [])

/-- What the views of the migrations of candidates tell in a state. -/
structure ViewsAgree (repository : Repository) (world : World State) (stored : State → List Record)
    (state : State) (candidates : List Candidate) (pending : List Migration)
    (statuses : List Status) : Prop where
  /-- What is pending, and the statuses, are told unless there can be no tracking table. -/
  listed : ((repository.pending candidates).run world state).result =
    repository.tabled world state (.ok pending)
  reported : ((repository.status candidates).run world state).result =
    repository.tabled world state (.ok statuses)
  /-- The order and the repeats of the candidates are kept. -/
  ordered : pending =
    (candidates.filterMap Candidate.migration?).filter fun migration => migration ∈ pending
  /-- There is one status for each migration among the candidates, and it agrees with the rest. -/
  agree : List.Forall₂ (repository.Agrees world stored state pending)
    (candidates.filterMap Candidate.migration?) statuses
  /-- No migration is stored twice. -/
  distinct : Distinct (stored state)
  followed : repository.IsFollowedUp world stored
    ((repository.pending candidates).run world state).state candidates pending
  /-- No view changes a row or executes anything but the creation of a missing table. -/
  reads : repository.OnlyReads world stored (repository.pending candidates) state ∧
    repository.OnlyReads world stored (repository.status candidates) state ∧
    repository.OnlyReads world stored repository.allApplied state ∧
    repository.OnlyReads world stored repository.lastBatch state

/-- Whether a state is usable and stores migrations, each once. -/
structure IsSound (usable : State → Prop) (stored : State → List Record) (state : State) :
    Prop where
  ready : usable state
  distinct : Distinct (stored state)
  named : Named (stored state)

theorem StoresRows.isSound {usable : State → Prop} {stored : State → List Record}
    {state later : State} (stores : StoresRows usable stored (stored state) later)
    (sound : IsSound usable stored state) : IsSound usable stored later :=
  ⟨stores.ready, stores.rows ▸ sound.distinct, stores.rows ▸ sound.named⟩

variable {repository : Repository} {world : World State} {usable : State → Prop}
  {stored : State → List Record} {state : State} {candidates : List Candidate}

theorem pending_result (keeps : world.KeepsRecords repository usable stored)
    (reads : world.ReadsRecords repository usable stored) (sound : IsSound usable stored state) :
    ((repository.pending candidates).run world state).result =
      repository.tabled world state (.ok (outstanding (stored state) candidates)) := by
  rw [pending_eq]
  obtain ⟨records, same, told⟩ := reading_result keeps reads sound.ready fun records =>
    (checkKeys records).map fun _ => pendingIn candidates records
  have named : Named records := fun record member => sound.named record (same.subset member)
  rw [told, checkKeys_named named, ← outstanding_perm same, ← pendingIn_eq]
  rfl

theorem status_result (keeps : world.KeepsRecords repository usable stored)
    (reads : world.ReadsRecords repository usable stored) (sound : IsSound usable stored state) :
    ∃ records, records.Perm (stored state) ∧
      ((repository.status candidates).run world state).result =
        repository.tabled world state (.ok (statusesIn candidates records)) := by
  rw [status_eq]
  obtain ⟨records, same, told⟩ := reading_result keeps reads sound.ready fun records =>
    (checkKeys records).map fun _ => statusesIn candidates records
  have named : Named records := fun record member => sound.named record (same.subset member)
  rw [checkKeys_named named] at told
  exact ⟨records, same, told⟩

theorem hasRun_result (keeps : world.KeepsRecords repository usable stored)
    (sound : IsSound usable stored state) (identifier : String) :
    ((repository.hasRun identifier).run world state).result =
      .ok (decide (Recorded (stored state) identifier)) := by
  have alone : (History.start state).IsAlone repository usable stored :=
    History.start_isAlone sound.ready
  have finds : (repository.hasRun identifier).Ensures repository.aloneProtocol
      (fun result after => result = .ok (decide (Recorded (stored state) identifier)) ∧
        after = (History.start state).standing stored)
      ((History.start state).standing stored) := hasRun_finds identifier sound.distinct
  exact (finds.after keeps.alone alone).2.1

/-- What is told of a migration by rows that are read in some order agrees. -/
theorem agrees_of_perm (keeps : world.KeepsRecords repository usable stored)
    (sound : IsSound usable stored state) {records : List Record}
    (same : records.Perm (stored state)) {migration : Migration}
    (member : migration ∈ candidates.filterMap Candidate.migration?) :
    repository.Agrees world stored state (outstanding (stored state) candidates) migration
      (.of migration.identifier (batchOf? records migration.identifier)) := by
  have pending : migration ∈ outstanding (stored state) candidates ↔
      ¬ Recorded (stored state) migration.identifier := by
    simp [outstanding, member]
  have counted := hasRun_result keeps sound migration.identifier
  have unfound := @batchOf?_eq_none records migration.identifier
  rw [recorded_perm same] at unfound
  constructor
  · rfl
  · rw [pending, ← unfound]
    cases batchOf? records migration.identifier <;> simp [Status.of]
  · rw [pending, counted]
    simp
  · intro other
    have recorded : Recorded (stored state) migration.identifier := by
      rwa [pending, not_not] at other
    obtain ⟨batch, found⟩ := Option.ne_none_iff_exists'.mp (mt unfound.mp (not_not.mpr recorded))
    obtain ⟨record, listed, about, rfl⟩ := batchOf?_eq_some found
    refine ⟨by rw [counted, decide_eq_true recorded], ?_, record, same.subset listed, about, found⟩
    rw [found]
    rfl

/-- Nothing is outstanding after a run that applied all that was. -/
theorem outstanding_recordedAll {rows added : List Record}
    (recorded : added.map (·.migration) = (firsts (outstanding rows candidates)).map fun migration =>
      .text migration.identifier) : outstanding (rows ++ added) candidates = [] := by
  refine List.filter_eq_nil_iff.mpr fun migration member => ?_
  have known : Recorded (rows ++ added) migration.identifier := by
    by_cases earlier : Recorded rows migration.identifier
    · simp only [Recorded, List.map_append, List.mem_append]
      exact .inl earlier
    · have due : migration ∈ outstanding rows candidates := by
        simp [outstanding, member, earlier]
      have first : migration.identifier ∈ (firsts (outstanding rows candidates)).map
          Migration.identifier := by
        rw [map_identifier_firsts, List.mem_eraseDups]
        exact List.mem_map_of_mem due
      obtain ⟨other, chosen, same⟩ := List.mem_map.mp first
      simp only [Recorded, List.map_append, List.mem_append, recorded]
      exact .inr (List.mem_map.mpr ⟨other, chosen, by rw [same]⟩)
  simp [known]

/-- A run that follows applies what is outstanding, and nothing is outstanding then. -/
theorem isFollowedUp (keeps : world.KeepsRecords repository usable stored)
    (reads : world.ReadsRecords repository usable stored) (sound : IsSound usable stored state) :
    repository.IsFollowedUp world stored state candidates
      (outstanding (stored state) candidates) := by
  unfold IsFollowedUp
  intro account ended returned number spoken
  have alone : (History.start state).IsAlone repository usable stored :=
    History.start_isAlone sound.ready
  obtain ⟨on, course⟩ := alone.runs keeps sound.distinct candidates
  change account.Goes candidates (repository.ensureTable.run world state).result at course
  unfold tabled
  cases ready : (repository.ensureTable.run world state).result with
  | error fault =>
    rw [ready] at course
    rw [course.result]
    exact ⟨rfl, by rintro _ ⟨⟩⟩
  | ok created =>
    rw [ready] at course
    obtain ⟨result, recorded⟩ := course.course.whole number spoken returned
    have identifiers : account.added.map (·.migration) = ((outstanding (stored state)
        candidates).map Migration.identifier).eraseDups.map Value.text := by
      rw [← map_identifier_firsts, List.map_map]
      exact recorded
    rw [result]
    refine ⟨congrArg Except.ok identifiers, fun records _ => ?_⟩
    have rows : stored ended = stored state ++ account.added := on.rows
    have later : IsSound usable stored ended := by
      refine ⟨on.alone.1, on.distinct, rows ▸ sound.named.append ?_⟩
      exact named_of_map recorded
    have none := outstanding_recordedAll recorded
    rw [pending_result keeps reads later, rows]
    exact congrArg (fun pending => tabled repository world ended (.ok pending)) none

theorem viewsAgree_of_isSound (keeps : world.KeepsRecords repository usable stored)
    (reads : world.ReadsRecords repository usable stored) (sound : IsSound usable stored state)
    (candidates : List Candidate) :
    ∃ pending statuses, repository.ViewsAgree world stored state candidates pending statuses := by
  obtain ⟨records, same, reported⟩ := @status_result _ _ _ _ _ _ candidates keeps reads sound
  refine ⟨outstanding (stored state) candidates, statusesIn candidates records, ?_⟩
  constructor
  · exact pending_result keeps reads sound
  · exact reported
  · refine List.filter_congr fun migration member => ?_
    by_cases recorded : Recorded (stored state) migration.identifier
    · simp [outstanding, member, recorded]
    · simp [outstanding, member, recorded]
  · unfold statusesIn
    rw [List.forall₂_map_right_iff, List.forall₂_same]
    intro migration member
    exact agrees_of_perm keeps sound same member
  · exact sound.distinct
  · have leaves : StoresRows usable stored (stored state)
        ((repository.pending candidates).run world state).state := by
      rw [pending_eq]
      exact reading_leaves keeps reads sound.ready _
    rw [← leaves.rows]
    exact isFollowedUp keeps reads (leaves.isSound sound)
  · rw [pending_eq, status_eq, allApplied_eq, lastBatch_eq]
    exact ⟨reading_onlyReads keeps reads sound.ready _, reading_onlyReads keeps reads sound.ready _,
      reading_onlyReads keeps reads sound.ready _, reading_onlyReads keeps reads sound.ready _⟩

end Repository

/-! ## Stores that were made by runs -/

section History

variable {State : Type} {world : World State} {repository : Repository} {usable : State → Prop}
  {stored : State → List Record}

/-- The views agree on every store that was made by runs from an empty one. -/
theorem runs_viewsAgree (keeps : world.KeepsRecords repository usable stored)
    (reads : world.ReadsRecords repository usable stored) {initial : State}
    (ready : usable initial) (empty : stored initial = []) (runs : List (List Candidate))
    (candidates : List Candidate) :
    ∃ pending statuses, repository.ViewsAgree world stored
      ((History.start initial).afterRuns world repository runs).state candidates pending
        statuses := by
  have alone : (History.start initial).IsAlone repository usable stored :=
    History.start_isAlone ready
  have settled : ((History.start initial).standing stored).Settled := History.start_settled empty
  obtain ⟨alone, settled⟩ := alone.afterRuns keeps settled runs
  exact Repository.viewsAgree_of_isSound keeps reads
    ⟨alone.1, settled.distinct, named_of_map settled.recorded⟩ candidates

end History

/-! ## The database in memory -/

theorem mapM_recordRows {rows : List Row} (records : ∀ row ∈ rows, row.IsRecord) :
    rows.mapM Record.ofRow = .ok (recordsOf rows) := by
  induction rows with
  | nil => rfl
  | cons row rows ih =>
    obtain ⟨⟨id, identifier, batch, moment, rfl⟩, others⟩ := List.forall_mem_cons.mp records
    rw [recordsOf_cons, List.mapM_cons, ih others]
    rfl

namespace ScriptedWorld

/-- The database in memory can be read. -/
theorem readsRecords {repository : Repository} (plain : IsPlainName repository.tableName) :
    full.ReadsRecords repository (IsStore repository) (stored repository) where
  stays world store := store
  answers world store := by
    have found := repository.queriedTable?_rowsQuery plain
    have rows : world.database.queryRows repository.rowsQuery =
        world.database.rows repository.tableName := by
      simp [MemoryDatabase.queryRows, found]
    refine ⟨_, _, congrArg Except.ok rows, mapM_recordRows store.records, .refl _⟩
  unchanged world store := rfl

end ScriptedWorld

/-- Candidates of all kinds, with repeats and another migration of the same identifier. -/
def mixedCandidates : List Candidate :=
  [.migration ScriptedWorld.createUsers, .type ScriptedWorld.createUsers,
    .migration ⟨"roles", "app.migrations", "CreateRoles"⟩, .value .null,
    .migration ⟨"roles again", "app.migrations", "CreateRoles"⟩,
    .migration ⟨"roles", "app.migrations", "CreateRoles"⟩]

/-- The database in memory, after a run that failed and one that succeeded. -/
theorem fresh_viewsAgree :
    ∃ pending statuses, ScriptedWorld.tracking.ViewsAgree ScriptedWorld.full
      (ScriptedWorld.stored ScriptedWorld.tracking)
      ((History.start ScriptedWorld.fresh).afterRuns ScriptedWorld.full ScriptedWorld.tracking
        [[.migration ScriptedWorld.createUsers], [.migration ScriptedWorld.createUsers]]).state
      mixedCandidates pending statuses :=
  runs_viewsAgree (ScriptedWorld.keepsRecords ScriptedWorld.isPlainName_tracking)
    (ScriptedWorld.readsRecords ScriptedWorld.isPlainName_tracking) ScriptedWorld.fresh_isStore rfl
    _ _

/-- A migration is pending, and a run that follows returns nothing and leaves it pending, because a
number that cannot be written out stands before it in the list. No application has failed. -/
theorem longNumber_notFollowedUp :
    let world := { ScriptedWorld.fresh with scripts := [] }
    let candidates : List Candidate := [.value .longNumber, .migration ScriptedWorld.createUsers]
    let pending := (ScriptedWorld.tracking.pending candidates).run ScriptedWorld.full world
    let account := (History.start pending.state).account ScriptedWorld.full ScriptedWorld.tracking
      (ScriptedWorld.stored ScriptedWorld.tracking) candidates
    let ended := ((ScriptedWorld.tracking.runMigrations candidates).run ScriptedWorld.full
      pending.state).state
    pending.result = .ok [ScriptedWorld.createUsers] ∧
      account.tried.map (·.migration) = [] ∧ account.result = .error .badValue ∧
      ((ScriptedWorld.tracking.pending candidates).run ScriptedWorld.full ended).result =
        .ok [ScriptedWorld.createUsers] := by
  decide +kernel

end Tablewright
