import Tablewright.Proofs.Migration.Records
import Tablewright.Proofs.Schema
import Tablewright.Proofs.Value.Written

/-! # What the operations of a record store ensure

One rule for each operation of a tracker, under a store that keeps its contract. The rows may change
between requests; the rules say what is known of the rows that an answer is about. What is noted has
to be put into words first, and where that fails, nothing more is asked for.
-/

namespace Tablewright

/-- The fault that reaches the caller of a run when an application fails with this one: the fault
itself if it can be put into words, and else what stands in the way of that. -/
def Fault.reported (fault : Fault) : Fault :=
  match fault.message with
  | .ok _ => fault
  | .error obstacle => obstacle

/-- A fault reaches the caller as it is exactly if it can be put into words. -/
theorem Fault.reported_eq_self_iff (fault : Fault) :
    fault.reported = fault ↔ ∃ text, fault.message = .ok text := by
  unfold reported
  cases fault with
  | wordless kind obstacle =>
    refine iff_of_false (fun same => ?_) (by simp [message])
    exact absurd (congrArg sizeOf same) (by simp [message])
  | _ => simp [message]

/-- Whether the number of a batch can be written out. -/
def IsNumbered (batch : Int) : Prop :=
  (Value.int batch).isWritten

instance (batch : Int) : Decidable (IsNumbered batch) :=
  inferInstanceAs (Decidable (_ = true))

/-- Whether all that is no migration among candidates can be written out. -/
def Spoken (candidates : List Candidate) : Prop :=
  ∀ value, .value value ∈ candidates → value.isWritten

namespace Standing

@[simp] theorem withRows_rows (point : Standing) : point.withRows point.rows = point := rfl

/-- An event of other kinds only meets rows. -/
theorem after_eq_withRows (point : Standing) (rows : List Record) {event : Event}
    (returned : event.returned? = none) (added : event.added? = none)
    (batch : event.batch? = none) : point.after rows event = point.withRows rows := by
  simp [after, withRows, returned, added, batch]

end Standing

namespace Repository

open Program Standing

variable {changes : List Record → List Record → Prop} {permits : Standing → Request → Prop}
  {point : Standing} {repository : Repository}

theorem ensures_asked (request : Request) {ends : Except Fault request.Answer → Standing → Prop}
    (permitted : permits point request)
    (ending : ∀ rows answer, changes point.rows rows → (Event.asked request answer).Keeps rows →
      ends answer (point.after rows (.asked request answer))) :
    (Program.request request).Ensures (protocol changes permits) ends point := by
  refine ⟨permitted, ?_⟩
  rintro answer _ ⟨rows, changed, keeps, rfl⟩
  exact ending rows answer changed keeps

theorem ignoresNotes_protocol : (protocol changes permits).IgnoresNotes :=
  fun _ _ _ same => same

theorem ensures_noted (notice : Notice) {ends : Except Fault Unit → Standing → Prop}
    (ending : ends (.ok ()) point) :
    (say notice).Ensures (protocol changes permits) ends point :=
  ensures_say_of_ignored ignoresNotes_protocol notice ending

/-- The end of a run, which notes what was applied. -/
def closing (batch : Int) (records : List Record) : Program (List Record) := do
  if records.isEmpty then say .upToDate
  else say (.applied records.length (← ofExcept (Value.int batch).shown))
  return records

/-- What a run does once recording a migration has come out in some way. -/
def settle (identifier : String) : Except Fault Record → Program (Option Record)
  | .ok record => return some record
  | .error (.duplicateRecord _ _) => do
    say (.recordedElsewhere identifier)
    return none
  | .error fault => fail fault

/-- What a run does once the application of a migration has come out in some way. -/
def finish (repository : Repository) (identifier : String) (batch : Int) :
    Except Fault Unit → Program (Option Record)
  | .ok () => do settle identifier (← attempt (repository.log identifier batch))
  | .error fault => do
    say (.failed identifier (← ofExcept fault.message))
    fail fault

/-- A migration is looked up, applied unless it is found, and recorded unless that fails. -/
theorem applyCandidate_migration (batch : Int) (migration : Migration) :
    repository.applyCandidate batch (.migration migration) = (do
      if ← repository.hasRun migration.identifier then
        say (.alreadyApplied migration.identifier)
        return none
      say (.running migration.identifier (← ofExcept (Value.int batch).shown))
      let outcome ← attempt (request (.apply migration))
      repository.finish migration.identifier batch outcome) := by
  refine bind_congr fun found => ?_
  cases found with
  | true => rfl
  | false =>
    refine bind_congr fun _ => bind_congr fun _ => bind_congr fun outcome => ?_
    cases outcome with
    | error fault => rfl
    | ok answer =>
      refine bind_congr fun result => ?_
      cases result with
      | ok record => rfl
      | error fault => cases fault <;> rfl

/-- What a run answers for a migration once recording it has come out in some way. -/
def taken : Except Fault Record → Except Fault (Option Record)
  | .ok record => .ok (some record)
  | .error (.duplicateRecord _ _) => .ok none
  | .error fault => .error fault

/-- What is taken over is what was recorded. -/
theorem toList_of_taken {result : Except Fault Record} {record : Option Record}
    (same : taken result = .ok record) : record.toList = result.toOption.toList := by
  cases result with
  | ok recorded => cases same; rfl
  | error fault => cases fault <;> cases same; rfl

section Notes

variable {α Point : Type} {protocol : Protocol Point} {reached : Point}
  {ends : Except Fault α → Point → Prop} (ignores : protocol.IgnoresNotes)
include ignores

/-- A migration that fails is noted as failed, and the run ends with what is reported. -/
theorem ensures_finish_error (identifier : String) (batch : Int) {fault : Fault}
    {ends : Except Fault (Option Record) → Point → Prop}
    (ending : ends (.error fault.reported) reached) :
    (repository.finish identifier batch (.error fault)).Ensures protocol ends reached := by
  unfold Fault.reported at ending
  rw [finish, ensures_bind]
  cases worded : fault.message with
  | error obstacle =>
    rw [worded] at ending
    exact ending
  | ok text =>
    rw [worded] at ending
    exact (ensures_bind _ _).mpr (ensures_say_of_ignored ignores _ ending)

/-- A migration whose application returned is recorded, and what is taken over is answered. -/
theorem ensures_finish_ok {identifier : String} {batch : Int}
    {ends : Except Fault (Option Record) → Point → Prop}
    (logs : (repository.log identifier batch).Ensures protocol
      (fun result => ends (taken result)) reached) :
    (repository.finish identifier batch (.ok ())).Ensures protocol ends reached := by
  simp only [finish, ensures_bind, ensures_attempt]
  refine logs.imp fun result after ending => ?_
  cases result with
  | ok record => exact ending
  | error fault =>
    cases fault with
    | duplicateRecord message statement =>
      exact (ensures_bind _ _).mpr (ensures_say_of_ignored ignores _ ending)
    | _ => exact ending

/-- A migration is passed over if it is found. Else it is applied and then dealt with as its
application comes out, unless the number of the batch cannot be written out. -/
theorem ensures_applyCandidate {batch : Int} {migration : Migration}
    {ends : Except Fault (Option Record) → Point → Prop}
    (lookup : (repository.hasRun migration.identifier).Ensures protocol (fun result after =>
      ∃ found, result = .ok found ∧ (found = true → ends (.ok none) after) ∧
        (found = false → (¬ IsNumbered batch → ends (.error .badValue) after) ∧
          (IsNumbered batch → (request (.apply migration)).Ensures protocol (fun outcome =>
            (repository.finish migration.identifier batch outcome).Ensures protocol ends) after)))
      reached) :
    (repository.applyCandidate batch (.migration migration)).Ensures protocol ends reached := by
  rw [applyCandidate_migration, ensures_bind]
  refine lookup.imp ?_
  rintro _ after ⟨found, rfl, passes, applies⟩
  cases found with
  | true => exact (ensures_bind _ _).mpr (ensures_say_of_ignored ignores _ (passes rfl))
  | false =>
    obtain ⟨stops, applies⟩ := applies rfl
    rw [continues_ok, if_neg Bool.false_ne_true, ensures_bind, ensures_ofExcept]
    cases numbered : (Value.int batch).shown with
    | error fault =>
      obtain ⟨unwritten, rfl⟩ := Value.shown_eq_error.mp numbered
      exact stops (by simp [IsNumbered, unwritten])
    | ok number =>
      refine (ensures_bind _ _).mpr (ensures_say_of_ignored ignores _ ?_)
      have written : IsNumbered batch := (Value.shown_eq_ok.mp numbered).1
      exact (ensures_bind _ _).mpr ((ensures_attempt _).mpr (applies written))

/-- What is no migration is passed over if it can be put into words. -/
theorem ensures_notMigration (candidate : Candidate) (value : α)
    (passes : ∀ text, candidate.quoted = .ok text → ends (.ok value) reached)
    (fails : ∀ fault, candidate.quoted = .error fault → ends (.error fault) reached) :
    (do
      say (.notMigration (← ofExcept candidate.quoted))
      return value : Program α).Ensures protocol ends reached := by
  rw [ensures_bind]
  cases quoted : candidate.quoted with
  | error fault => exact fails fault quoted
  | ok text =>
    exact (ensures_bind _ _).mpr (ensures_say_of_ignored ignores _ (passes text quoted))

/-- A run returns its records, unless there are some and the number of their batch is too long. -/
theorem ensures_closing {ends : Except Fault (List Record) → Point → Prop} (batch : Int)
    (records : List Record) (returns : ends (.ok records) reached)
    (fails : records ≠ [] → ¬ (Value.int batch).isWritten → ends (.error .badValue) reached) :
    (closing batch records).Ensures protocol ends reached := by
  unfold closing
  split
  case isTrue => exact (ensures_bind _ _).mpr (ensures_say_of_ignored ignores _ returns)
  case isFalse several =>
    rw [ensures_bind, ensures_ofExcept]
    cases numbered : (Value.int batch).shown with
    | error fault =>
      obtain ⟨unwritten, rfl⟩ := Value.shown_eq_error.mp numbered
      exact fails (by simpa using several) (by simp [unwritten])
    | ok number => exact (ensures_bind _ _).mpr (ensures_say_of_ignored ignores _ returns)

end Notes

/-- A check tells whether the migration is among the rows that it meets. -/
theorem ensures_hasRun (identifier : String) {ends : Except Fault Bool → Standing → Prop}
    (permitted : permits point (repository.countRequest identifier))
    (ending : ∀ rows, changes point.rows rows →
      ends (.ok (decide (Recorded rows identifier))) (point.withRows rows)) :
    (repository.hasRun identifier).Ensures (protocol changes permits) ends point := by
  simp only [hasRun, ensures_bind]
  refine ensures_asked _ permitted fun rows answer changed keeps => ?_
  obtain rfl : answer = .ok (.int (rows.countP (·.migration = .text identifier))) := keeps
  have read : ((Value.int (rows.countP (·.migration = .text identifier))).orElse (.int 0)).toInteger
      = .ok (rows.countP (·.migration = .text identifier) : Int) := by
    by_cases zero : rows.countP (·.migration = .text identifier) = 0 <;>
      simp [Value.orElse, Value.isTruthy, Value.toInteger, zero]
  have found := ending rows changed
  rw [after_eq_withRows _ _ rfl rfl rfl, continues_ok, ensures_bind, read, ensures_ofExcept,
    continues_ok]
  simpa [recorded_iff_countP] using found

/-- The current batch is the largest of the rows that the query meets, and the next one counts as
computed. -/
theorem ensures_currentBatch {ends : Except Fault Int → Standing → Prop}
    (permitted : permits point repository.batchRequest)
    (ending : ∀ rows, changes point.rows rows →
      ends (.ok (largestBatch rows))
        { point with rows, batches := point.batches ++ [largestBatch rows + 1] }) :
    repository.currentBatch.Ensures (protocol changes permits) ends point := by
  simp only [currentBatch, ensures_bind]
  refine ensures_asked _ permitted fun rows answer changed keeps => ?_
  obtain rfl : answer = .ok (((rows.map (·.batch)).max?.map Value.int).getD .null) := keeps
  have reached := ending rows changed
  simpa [Standing.after, Event.added?, Event.returned?, Event.batch?, read_largestBatch,
    Except.toOption] using reached

/-- Recording a migration adds its record, or fails because one is among the rows already. The
number of the batch was written before. -/
theorem ensures_log (identifier : String) {batch : Int} (written : (Value.int batch).isWritten)
    {ends : Except Fault Record → Standing → Prop} (clock : permits point .now)
    (permitted : ∀ seen moment, changes point.rows seen →
      permits (point.withRows seen) (repository.recordRequest identifier batch moment))
    (refused : ∀ seen rows message statement, changes point.rows seen → changes seen rows →
      Recorded rows identifier →
        ends (.error (.duplicateRecord message statement)) (point.withRows rows))
    (taken : ∀ seen rows moment id, changes point.rows seen → changes seen rows →
      ¬ Recorded rows identifier →
        ends (.ok ⟨.text identifier, batch, some moment, id⟩)
          { point with
            rows := rows ++ [⟨.text identifier, batch, some moment, id⟩]
            added := point.added ++ [⟨.text identifier, batch, some moment, id⟩] }) :
    (repository.log identifier batch).Ensures (protocol changes permits) ends point := by
  simp only [log, ensures_bind]
  refine ensures_asked _ clock fun seen answer noted keeps => ?_
  obtain ⟨moment, rfl⟩ := keeps
  rw [after_eq_withRows _ _ rfl rfl rfl, continues_ok, ensures_bind]
  refine ensures_asked _ (permitted seen _ noted) fun rows answer changed keeps => ?_
  change if Recorded rows identifier then _ else _ at keeps
  split at keeps
  · rename_i recorded
    obtain ⟨message, statement, rfl⟩ := keeps
    rw [after_eq_withRows _ _ rfl rfl rfl, continues_error]
    exact refused seen rows message statement noted changed recorded
  · rename_i unrecorded
    obtain ⟨id, rfl⟩ := keeps
    rw [continues_ok, Value.shown_of_isWritten written, ensures_bind, ensures_ofExcept,
      continues_ok, ensures_bind]
    apply ensures_noted
    have reached := taken seen rows moment.wholeSecond id noted changed unrecorded
    simpa [Standing.after, Standing.withRows, Event.added?, Event.returned?, Event.batch?]
      using reached

/-- The blueprint of the tracking table: its columns, and the index that keeps migrations apart. -/
def declared (repository : Repository) : Blueprint :=
  { repository.schema.blueprint repository.table with
    specs := [
      .column { Column.typed (.text "id") .unsignedInteger with
        autoIncrement := true
        primaryKey := true },
      .column (.typed (.text "migration") (.string (.int 191))),
      .constraint (IndexKind.unique.sql
        (repository.tableName ++ "_" ++ "migration" ++ "_" ++ "unique") (quoteName "migration")),
      .column (.typed (.text "batch") .unsignedInteger),
      .column (.typed (.text "created_at") .dateTime)]
    current := some 4 }

/-- The declaration of the tracking table makes its blueprint, and nothing is noted. -/
theorem definition_eq (repository : Repository) :
    definition (repository.schema.blueprint repository.table) =
      ⟨.ok (), repository.declared, []⟩ :=
  rfl

/-- The tracking table can be created. -/
theorem declared_toCreate (repository : Repository) (options : String) :
    ∃ fragments, repository.declared.toCreate options =
      ⟨.ok (some (createText repository.tableName options fragments)),
        repository.declared.closeRound, []⟩ := by
  obtain ⟨fragments, rendered⟩ : ∃ fragments,
      repository.declared.specs.mapM repository.declared.closeRound.specSql = .ok fragments :=
    ⟨_, rfl⟩
  exact ⟨fragments, Blueprint.toCreate_of_rendered rfl rfl (List.cons_ne_nil _ _) rendered options⟩

/-- Creating the tracking table asks for nothing else. -/
theorem asksOnly_ensureTable (repository : Repository) :
    repository.ensureTable.AsksOnly repository.AsksForTable := by
  unfold ensureTable
  refine AsksOnly.bind (Schema.asksOnly_create _ _ _ .exists fun statement compiled => ?_)
    fun created => ?_
  · rw [definition_eq] at compiled
    obtain ⟨fragments, rfl⟩ := Blueprint.toCreate_text compiled
    exact .create _ _
  · split <;> trivial

/-- What is known stays known while the tracking table is created. -/
theorem ensures_ensureTable {known : Standing → Prop} (holds : known point)
    (permitted : ∀ point request, known point → repository.AsksForTable request →
      permits point request)
    (stays : ∀ point rows, known point → changes point.rows rows → known (point.withRows rows)) :
    repository.ensureTable.Ensures (protocol changes permits) (fun _ => known) point := by
  refine (asksOnly_ensureTable repository).ensures ⟨?_, permitted, ?_⟩ holds
  · rintro point notice _ known rfl
    exact known
  · rintro point request answer _ known asked ⟨rows, changed, -, rfl⟩
    have met : (point.after rows (.asked request answer)) = point.withRows rows := by
      cases asked <;> exact after_eq_withRows _ _ rfl rfl rfl
    rw [met]
    exact stays point rows known changed

end Repository

end Tablewright
