import Tablewright.Proofs.Migration.Memory
import Tablewright.Proofs.Migration.Operations
import Tablewright.Proofs.Program.Lawful

/-! # Migrations are applied exactly once

Runs that follow one another on one store find, at the boundaries of their units, exactly the
migrations recorded whose application has returned. Within a unit the two may differ by the
migration that has just been applied and is about to be recorded; it was not recorded when it was
looked up, and nothing else has changed the rows since, so the store takes it. That applications
change no rows themselves is needed for this.
-/

namespace Tablewright

open Program Standing

/-- What holds between units: the rows record the applications that returned, and each migration
once. -/
structure Standing.Settled (point : Standing) : Prop where
  recorded : point.rows.map (·.migration) = point.returned.map Value.text
  distinct : Distinct point.rows

/-- What a run asks for that is alone with its store: a migration is applied only if the rows do not
record it. -/
structure Repository.AsksAlone (repository : Repository) (rows : List Record) (request : Request) :
    Prop where
  asks : repository.Asks request
  distinct : Distinct rows
  unrecorded : ∀ migration, request = .apply migration → ¬ Recorded rows migration.identifier

namespace Repository

variable {repository : Repository} {point : Standing}

/-- The protocol of a run that is alone with its store. -/
def aloneProtocol (repository : Repository) : Protocol Standing :=
  protocol Eq fun point => repository.AsksAlone point.rows

theorem asksAlone_of_distinct {rows : List Record} {request : Request} (distinct : Distinct rows)
    (asks : repository.Asks request) (other : ∀ migration, request ≠ .apply migration) :
    repository.AsksAlone rows request :=
  ⟨asks, distinct, fun migration same => absurd same (other migration)⟩

/-- A migration that was just applied, and was not recorded before, is recorded. -/
theorem log_settles (identifier : String) {batch : Int} (written : (Value.int batch).isWritten)
    (settled : point.Settled) (unrecorded : ¬ Recorded point.rows identifier) :
    (repository.log identifier batch).Ensures repository.aloneProtocol
      (fun result point => (∃ record, result = .ok record) ∧ point.Settled)
      { point with returned := point.returned ++ [identifier] } := by
  refine ensures_log identifier written
    (asksAlone_of_distinct settled.distinct .now (by rintro _ ⟨⟩)) ?_ ?_ ?_
  · rintro _ moment rfl
    exact asksAlone_of_distinct settled.distinct (.record identifier batch moment) (by rintro _ ⟨⟩)
  · rintro _ _ message statement rfl rfl recorded
    exact absurd recorded unrecorded
  · rintro _ _ moment id rfl rfl -
    refine ⟨⟨_, rfl⟩, ?_, ?_⟩
    · simp [settled.recorded]
    · exact settled.distinct.concat unrecorded rfl

theorem applyCandidate_settles (batch : Int) (candidate : Candidate) (settled : point.Settled) :
    (repository.applyCandidate batch candidate).Ensures repository.aloneProtocol
      (fun _ => Settled) point := by
  cases candidate with
  | type migration | value other =>
    exact ensures_notMigration ignoresNotes_protocol _ none (fun _ _ => settled) fun _ _ => settled
  | migration migration =>
    refine ensures_applyCandidate ignoresNotes_protocol ?_
    refine ensures_hasRun _ (asksAlone_of_distinct settled.distinct (.count _) (by rintro _ ⟨⟩)) ?_
    rintro _ rfl
    rw [withRows_rows]
    refine ⟨_, rfl, fun _ => settled, fun unfound => ⟨fun _ => settled, fun number => ?_⟩⟩
    have unrecorded := of_decide_eq_false unfound
    refine ensures_asked _ ⟨.apply migration, settled.distinct, by rintro _ ⟨⟩; exact unrecorded⟩ ?_
    rintro _ (fault | answer) rfl -
    · apply ensures_finish_error ignoresNotes_protocol
      simpa [Standing.after, Event.returned?, Event.added?, Event.batch?] using settled
    · apply ensures_finish_ok ignoresNotes_protocol
      have reached : point.after point.rows (.asked (.apply migration) (.ok answer)) =
          { point with returned := point.returned ++ [migration.identifier] } := by
        simp [Standing.after, Event.returned?, Event.added?, Event.batch?]
      rw [reached]
      exact (log_settles migration.identifier number settled unrecorded).imp
        fun _ _ logged => logged.2

theorem applyAll_settles (batch : Int) (candidates : List Candidate) (settled : point.Settled) :
    (repository.applyAll batch candidates).Ensures repository.aloneProtocol
      (fun _ => Settled) point := by
  induction candidates generalizing point with
  | nil => exact settled
  | cons candidate candidates ih =>
    simp only [applyAll, ensures_bind]
    refine (applyCandidate_settles batch candidate settled).imp ?_
    rintro (fault | record) point settled
    · exact settled
    · simp only [continues_ok, ensures_bind]
      refine (ih settled).imp ?_
      rintro (fault | records) point settled
      · exact settled
      · exact settled

/-- The first part of a run: up to the boundary after some candidates. The answer is the batch and
the records made so far. -/
def upTo (repository : Repository) (handled : List Candidate) : Program (Int × List Record) := do
  repository.ensureTable
  let batch := (← repository.currentBatch) + 1
  return (batch, ← repository.applyAll batch handled)

/-- The second part of a run: what is left after a boundary. -/
def onward (repository : Repository) (rest : List Candidate) (reached : Int × List Record) :
    Program (List Record) := do
  closing reached.1 (reached.2 ++ (← repository.applyAll reached.1 rest))

theorem applyAll_append (batch : Int) (handled rest : List Candidate) :
    repository.applyAll batch (handled ++ rest) = do
      let before ← repository.applyAll batch handled
      return before ++ (← repository.applyAll batch rest) := by
  induction handled with
  | nil => simp [applyAll]
  | cons candidate handled ih =>
    simp only [applyAll, List.cons_append, ih, bind_assoc, pure_bind, List.append_assoc]

/-- A run goes through every boundary between its candidates. -/
theorem runMigrations_append (handled rest : List Candidate) :
    repository.runMigrations (handled ++ rest) =
      repository.upTo handled >>= repository.onward rest := by
  simp only [runMigrations, upTo, onward, closing, applyAll_append, bind_assoc, pure_bind]

theorem upTo_settles (handled : List Candidate) (settled : point.Settled) :
    (repository.upTo handled).Ensures repository.aloneProtocol (fun _ => Settled) point := by
  simp only [upTo, ensures_bind]
  refine (ensures_ensureTable settled ?_ ?_).imp ?_
  · rintro point request settled (_ | _)
    · exact asksAlone_of_distinct settled.distinct (.table .exists) (by rintro _ ⟨⟩)
    · exact asksAlone_of_distinct settled.distinct (.table (.create _ _)) (by rintro _ ⟨⟩)
  · rintro point _ settled rfl
    exact settled
  · rintro (fault | created) point settled
    · exact settled
    · simp only [continues_ok, ensures_bind]
      refine ensures_currentBatch
        (asksAlone_of_distinct settled.distinct .batch (by rintro _ ⟨⟩)) ?_
      rintro _ rfl
      simp only [continues_ok, ensures_bind]
      have counted : Settled
          { point with batches := point.batches ++ [largestBatch point.rows + 1] } :=
        ⟨settled.recorded, settled.distinct⟩
      refine (applyAll_settles _ handled counted).imp ?_
      rintro (fault | records) point settled
      · exact settled
      · exact settled

theorem runMigrations_settles (candidates : List Candidate) (settled : point.Settled) :
    (repository.runMigrations candidates).Ensures repository.aloneProtocol
      (fun _ => Settled) point := by
  have whole := repository.runMigrations_append candidates []
  rw [List.append_nil] at whole
  rw [whole, ensures_bind]
  refine (upTo_settles candidates settled).imp ?_
  rintro (fault | ⟨batch, records⟩) point settled
  · exact settled
  · simp only [onward, applyAll, pure_bind, List.append_nil, continues_ok]
    exact ensures_closing ignoresNotes_protocol _ _ settled fun _ _ => settled

end Repository

section History

variable {State : Type}

/-- The migrations whose application returned, in order. -/
def History.returned (past : History State) : List String :=
  past.exchanges.filterMap fun exchange => exchange.event.returned?

/-- What is known after a history. -/
def History.standing (stored : State → List Record) (past : History State) : Standing :=
  .of (stored past.state) past.exchanges

/-- The history after runs on lists of candidates, one run after another. -/
def History.afterRuns (past : History State) (world : World State) (repository : Repository)
    (runs : List (List Candidate)) : History State :=
  runs.foldl (fun past candidates => past.after world (repository.runMigrations candidates)) past

/-- The history of a run is at a boundary after the first part, and goes on from there unless the
run has failed. -/
theorem History.after_runMigrations (past : History State) (world : World State)
    (repository : Repository) (handled rest : List Candidate) :
    past.after world (repository.runMigrations (handled ++ rest)) =
      match ((repository.upTo handled).run world past.state).result with
      | .ok reached =>
        (past.after world (repository.upTo handled)).after world (repository.onward rest reached)
      | .error _ => past.after world (repository.upTo handled) := by
  rw [Repository.runMigrations_append]
  change past.after world ((repository.upTo handled).bind (repository.onward rest)) = _
  rw [past.after_bind]
  cases ((repository.upTo handled).run world past.state).result <;> rfl

/-- What holds at a boundary between units, as far as the history goes. -/
structure History.ExactlyOnce (stored : State → List Record) (past : History State) : Prop where
  /-- The store never held two rows of one migration. -/
  distinct : Distinct (stored past.state) ∧
    ∀ exchange ∈ past.exchanges, Distinct (stored exchange.before)
  /-- A migration is stored if and only if an application of it has returned. -/
  recorded_iff : ∀ identifier, Recorded (stored past.state) identifier ↔ identifier ∈ past.returned
  /-- Such an application has returned once. -/
  returned_once : ∀ identifier, Recorded (stored past.state) identifier →
    past.returned.count identifier = 1
  /-- No migration was applied that was stored at the time. -/
  unrecorded : ∀ exchange ∈ past.exchanges, ∀ migration, exchange.request = .apply migration →
    ¬ Recorded (stored exchange.before) migration.identifier

variable {world : World State} {repository : Repository} {usable : State → Prop}
  {stored : State → List Record}

/-- Whether a history fits the protocol of runs that are alone with their store. -/
def History.IsAlone (repository : Repository) (usable : State → Prop)
    (stored : State → List Record) (past : History State) : Prop :=
  usable past.state ∧
    ∀ exchange ∈ past.exchanges, repository.AsksAlone (stored exchange.before) exchange.request

/-- A store that keeps its contract follows the protocol of a run that is alone with it. -/
theorem World.KeepsRecords.alone (keeps : world.KeepsRecords repository usable stored) :
    world.Follows repository.aloneProtocol (History.IsAlone repository usable stored)
      (History.standing stored) where
  noted past notice fits := rfl
  stays past request fits permitted := by
    refine ⟨keeps.stays past.state request fits.1 permitted.asks, fun exchange member => ?_⟩
    rcases List.mem_append.mp member with earlier | latest
    · exact fits.2 exchange earlier
    · obtain rfl := List.mem_singleton.mp latest
      exact permitted
  asked past request fits permitted := by
    refine ⟨stored past.state, rfl, keeps.answers past.state request fits.1 permitted.asks, ?_⟩
    change Standing.of (stored (world.respond request past.state).state) _ = _
    rw [keeps.stores past.state request fits.1 permitted.asks]
    exact Standing.of_concat _ _ _ (world.exchange request past.state)

/-- A history that fits and ends between units has applied everything exactly once. -/
theorem History.IsAlone.exactlyOnce {past : History State}
    (alone : past.IsAlone repository usable stored) (settled : (past.standing stored).Settled) :
    past.ExactlyOnce stored := by
  have distinct : past.returned.Nodup := by
    have names : (past.returned.map Value.text).Nodup := settled.recorded ▸ settled.distinct
    exact names.of_map
  have same (identifier : String) :
      Recorded (stored past.state) identifier ↔ identifier ∈ past.returned := by
    have names : (stored past.state).map (·.migration) = past.returned.map Value.text :=
      settled.recorded
    simp [Recorded, names]
  refine ⟨⟨settled.distinct, fun exchange member => (alone.2 exchange member).distinct⟩, same, ?_,
    fun exchange member => (alone.2 exchange member).unrecorded⟩
  intro identifier recorded
  exact List.count_eq_one_of_mem distinct ((same identifier).mp recorded)

/-- Runs that fit keep fitting and end between units. -/
theorem History.IsAlone.afterRuns {past : History State}
    (keeps : world.KeepsRecords repository usable stored)
    (alone : past.IsAlone repository usable stored) (settled : (past.standing stored).Settled)
    (runs : List (List Candidate)) :
    (past.afterRuns world repository runs).IsAlone repository usable stored ∧
      ((past.afterRuns world repository runs).standing stored).Settled := by
  induction runs generalizing past with
  | nil => exact ⟨alone, settled⟩
  | cons candidates runs ih =>
    obtain ⟨alone, settled⟩ :=
      (Repository.runMigrations_settles candidates settled).after keeps.alone alone
    exact ih alone settled

/-- Migrations are applied exactly once: over any runs on a store that keeps its contract and is
empty at first, at every boundary between units of every run. -/
theorem runs_exactlyOnce (keeps : world.KeepsRecords repository usable stored) {initial : State}
    (ready : usable initial) (empty : stored initial = []) (earlier : List (List Candidate))
    (handled : List Candidate) :
    ((History.start initial).afterRuns world repository earlier).ExactlyOnce stored ∧
      (((History.start initial).afterRuns world repository earlier).after world
        (repository.upTo handled)).ExactlyOnce stored := by
  have alone : (History.start initial).IsAlone repository usable stored :=
    ⟨ready, fun exchange member => nomatch member⟩
  have settled : ((History.start initial).standing stored).Settled := by
    refine ⟨?_, ?_⟩
    · simp [History.start, History.standing, Standing.of, empty]
    · simp [History.start, History.standing, Standing.of, Distinct, empty]
  obtain ⟨alone, settled⟩ := alone.afterRuns keeps settled earlier
  refine ⟨alone.exactlyOnce settled, ?_⟩
  obtain ⟨alone, settled⟩ := (Repository.upTo_settles handled settled).after keeps.alone alone
  exact alone.exactlyOnce settled

/-- The database in memory, with a migration that fails at first and is listed twice in the end. -/
theorem fresh_exactlyOnce :
    let once := (History.start ScriptedWorld.fresh).afterRuns ScriptedWorld.full
      ScriptedWorld.tracking [[.migration ScriptedWorld.createUsers]]
    once.ExactlyOnce (ScriptedWorld.stored ScriptedWorld.tracking) ∧
      (once.after ScriptedWorld.full (ScriptedWorld.tracking.upTo
        [.migration ScriptedWorld.createUsers, .value .null,
          .migration ScriptedWorld.createUsers])).ExactlyOnce
            (ScriptedWorld.stored ScriptedWorld.tracking) :=
  runs_exactlyOnce (ScriptedWorld.keepsRecords ScriptedWorld.isPlainName_tracking)
    ScriptedWorld.fresh_isStore rfl _ _

/-- A migration that records another one while it is applied. The store keeps its contract and its
table, but the other migration is stored although no application of it has returned. -/
theorem asideRecord_unapplied :
    let roles : Record := ⟨.text "app.migrations.CreateRoles", 1, none, .int 1⟩
    let world := RowStore.world ScriptedWorld.fresh.clock fun _ => some roles
    let past := (History.start []).afterRuns world ScriptedWorld.tracking
      [[.migration ScriptedWorld.createUsers]]
    world.AnswersRecords ScriptedWorld.tracking (fun _ => True) id ∧
      Recorded past.state "app.migrations.CreateRoles" ∧
      "app.migrations.CreateRoles" ∉ past.returned ∧ ¬ past.ExactlyOnce id := by
  intro roles world past
  have stored : Recorded past.state "app.migrations.CreateRoles" := by decide +kernel
  have unapplied : "app.migrations.CreateRoles" ∉ past.returned := by decide +kernel
  exact ⟨RowStore.answersRecords _ _ _, stored, unapplied,
    fun once => unapplied ((once.recorded_iff _).mp stored)⟩

end History

end Tablewright
