import Tablewright.Proofs.Migration.Memory
import Tablewright.Proofs.Migration.Operations
import Tablewright.Proofs.Program.SideBySide

/-! # Runners on one store

Runs of migrations may go on side by side on one store. What one of them has seen of the rows stays
there, but more may follow at any time; a check is therefore worth little once the next request is
made, and only the store itself keeps records distinct. What a runner knows for certain is which
records it added itself, and in which batch.
-/

namespace Tablewright

open Program Standing

theorem Recorded.mono {earlier later : List Record} {identifier : String}
    (recorded : Recorded earlier identifier) (grown : earlier <+: later) :
    Recorded later identifier :=
  (grown.map (·.migration)).subset recorded

/-- Whether a batch may be started on rows: the first one, or the next one after a batch. -/
def Startable (batch : Int) (rows : List Record) : Prop :=
  batch = 1 ∨ ∃ record ∈ rows, record.batch = batch - 1

theorem Startable.mono {batch : Int} {earlier later : List Record}
    (startable : Startable batch earlier) (grown : earlier <+: later) : Startable batch later :=
  startable.imp_right fun ⟨record, member, next⟩ => ⟨record, grown.subset member, next⟩

/-- The batch after the largest one may be started. -/
theorem startable_largestBatch (rows : List Record) : Startable (largestBatch rows + 1) rows := by
  unfold largestBatch
  cases largest : (rows.map (·.batch)).max? with
  | none => exact .inl rfl
  | some batch =>
    obtain ⟨record, member, same⟩ := List.mem_map.mp (List.max?_mem largest)
    exact .inr ⟨record, member, by simp [same]⟩

/-- What a runner asks for: the largest batch only once, and what it records is of the batch that it
computed from that. -/
inductive Repository.AsksBeside (repository : Repository) (point : Standing) : Request → Prop
  | table {request : Request} (asked : repository.AsksForTable request) :
    AsksBeside repository point request
  | count (identifier : String) : AsksBeside repository point (repository.countRequest identifier)
  | batch (once : point.batches = []) : AsksBeside repository point repository.batchRequest
  | now : AsksBeside repository point .now
  | apply (migration : Migration) : AsksBeside repository point (.apply migration)
  | record (identifier : String) (batch : Int) (moment : DateTime)
    (computed : point.batches = [batch]) (startable : Startable batch point.rows) :
    AsksBeside repository point (repository.recordRequest identifier batch moment)

namespace Repository

variable {repository : Repository} {point : Standing}

namespace AsksBeside

variable {request : Request} {answer : Except Fault request.Answer} {rows : List Record}

theorem asks (beside : repository.AsksBeside point request) : repository.Asks request := by
  cases beside with
  | table asked => exact .table asked
  | count identifier => exact .count identifier
  | batch once => exact .batch
  | now => exact .now
  | apply migration => exact .apply migration
  | record identifier batch moment => exact .record identifier batch moment

/-- A record that the store takes is of a migration that was not recorded, and of the batch that the
runner computed. -/
theorem added_eq (beside : repository.AsksBeside point request)
    (keeps : (Event.asked request answer).Keeps rows) {record : Record}
    (added : (Event.asked request answer).added? = some record) :
    point.batches = [record.batch] ∧ Startable record.batch point.rows ∧
      ∃ identifier, record.migration = .text identifier ∧ ¬ Recorded rows identifier := by
  cases beside with
  | table asked => cases asked <;> exact nomatch added
  | count | batch | now | apply => exact nomatch added
  | record identifier batch moment computed startable =>
    change if Recorded rows identifier then _ else _ at keeps
    split at keeps
    · obtain ⟨message, statement, rfl⟩ := keeps
      exact nomatch added
    · rename_i unrecorded
      obtain ⟨id, rfl⟩ := keeps
      obtain rfl := Option.some.inj added
      exact ⟨computed, startable, identifier, rfl, unrecorded⟩

/-- A batch is computed once, as one more than the largest one. -/
theorem batch_eq (beside : repository.AsksBeside point request)
    (keeps : (Event.asked request answer).Keeps rows) {batch : Int}
    (computed : (Event.asked request answer).batch? = some batch) :
    point.batches = [] ∧ request = repository.batchRequest ∧ batch = largestBatch rows + 1 := by
  cases beside with
  | table asked => cases asked <;> exact nomatch computed
  | count | now | apply | record => exact nomatch computed
  | batch once =>
    obtain rfl : answer = .ok (((rows.map (·.batch)).max?.map Value.int).getD .null) := keeps
    change Option.map (· + 1) (Value.toInteger _).toOption = some batch at computed
    rw [read_largestBatch] at computed
    exact ⟨once, rfl, (Option.some.inj computed).symm⟩

end AsksBeside

/-- The protocol of a run beside others. -/
def besideProtocol (repository : Repository) : Protocol Standing :=
  protocol (· <+: ·) repository.AsksBeside

/-- What a runner knows after it has computed its batch. -/
structure Started (batch : Int) (point : Standing) : Prop where
  batches : point.batches = [batch]
  startable : Startable batch point.rows

theorem Started.withRows {batch : Int} {rows : List Record} (started : Started batch point)
    (grown : point.rows <+: rows) : Started batch (point.withRows rows) :=
  ⟨started.batches, started.startable.mono grown⟩

/-- What a runner has achieved from one point to another with some migrations and the records made
of them: the records were added, and the migrations are recorded, by whomever. -/
structure Achieved (batch : Int) (before after : Standing) (identifiers : List String)
    (records : List Record) : Prop where
  started : Started batch after
  grown : before.rows <+: after.rows
  added : after.added = before.added ++ records
  recorded : ∀ identifier ∈ identifiers, Recorded after.rows identifier

theorem Started.achieved {batch : Int} {rows : List Record} (started : Started batch point)
    (grown : point.rows <+: rows) {identifiers : List String}
    (recorded : ∀ identifier ∈ identifiers, Recorded rows identifier) :
    Achieved batch point (point.withRows rows) identifiers [] where
  started := started.withRows grown
  grown := grown
  added := (List.append_nil _).symm
  recorded := recorded

theorem Achieved.trans {batch : Int} {before middle after : Standing}
    {identifiers others : List String} {records further : List Record}
    (first : Achieved batch before middle identifiers records)
    (second : Achieved batch middle after others further) :
    Achieved batch before after (identifiers ++ others) (records ++ further) where
  started := second.started
  grown := first.grown.trans second.grown
  added := by rw [second.added, first.added, List.append_assoc]
  recorded identifier member := by
    rcases List.mem_append.mp member with early | late
    · exact (first.recorded identifier early).mono second.grown
    · exact second.recorded identifier late

/-- Recording a migration adds its record, or finds the migration recorded. -/
theorem log_achieves (identifier : String) {batch : Int} (written : (Value.int batch).isWritten)
    (started : Started batch point) :
    (repository.log identifier batch).Ensures repository.besideProtocol
      (fun result after => Achieved batch point after [identifier] result.toOption.toList)
      point := by
  refine ensures_log identifier written .now ?_ ?_ ?_
  · intro seen moment grown
    exact .record identifier batch moment started.batches (started.startable.mono grown)
  · intro seen rows message statement earlier later recorded
    exact started.achieved (earlier.trans later) (by simpa using recorded)
  · intro seen rows moment id earlier later unrecorded
    have grown : point.rows <+: rows ++ [⟨.text identifier, batch, some moment, id⟩] :=
      (earlier.trans later).trans (List.prefix_append _ _)
    refine ⟨⟨started.batches, started.startable.mono grown⟩, grown, rfl, ?_⟩
    simp [Recorded]

theorem applyCandidate_achieves {batch : Int} (candidate : Candidate)
    (started : Started batch point) :
    (repository.applyCandidate batch candidate).Ensures repository.besideProtocol
      (fun result after => ∀ record, result = .ok record →
        Achieved batch point after (candidate.migration?.map Migration.identifier).toList
          record.toList) point := by
  have passed : Achieved batch point point [] [] :=
    started.achieved (List.prefix_refl _) (by simp)
  cases candidate with
  | type migration | value other =>
    refine ensures_notMigration ignoresNotes_protocol _ none (fun _ _ => ?_) fun _ _ => by simp
    rintro _ ⟨⟩
    exact passed
  | migration migration =>
    refine ensures_applyCandidate ignoresNotes_protocol ?_
    refine ensures_hasRun _ (.count _) fun rows grown => ⟨_, rfl, fun found => ?_, fun _ => ?_⟩
    · rintro _ ⟨⟩
      have recorded := of_decide_eq_true found
      exact started.achieved grown (by simpa [Candidate.migration?] using recorded)
    refine ⟨fun _ => by rintro _ ⟨⟩, fun number => ?_⟩
    refine ensures_asked _ (.apply migration) ?_
    intro later answer further _
    cases answer with
    | error fault =>
      apply ensures_finish_error ignoresNotes_protocol
      rintro _ ⟨⟩
    | ok answer =>
      apply ensures_finish_ok ignoresNotes_protocol
      have applied : Achieved batch point
          ((point.withRows rows).after later (.asked (.apply migration) (.ok answer))) [] [] := by
        have same : (point.withRows rows).after later (.asked (.apply migration) (.ok answer)) =
            { point with rows := later, returned := point.returned ++ [migration.identifier] } := by
          simp [Standing.after, Standing.withRows, Event.returned?, Event.added?, Event.batch?]
        rw [same]
        have seen := grown.trans further
        exact ⟨⟨started.batches, started.startable.mono seen⟩, seen, by simp, by simp⟩
      refine (log_achieves migration.identifier number applied.started).imp ?_
      intro result after logged record answered
      rw [toList_of_taken answered]
      exact applied.trans logged

theorem applyAll_achieves {batch : Int} (candidates : List Candidate)
    (started : Started batch point) :
    (repository.applyAll batch candidates).Ensures repository.besideProtocol
      (fun result after => ∀ records, result = .ok records →
        Achieved batch point after
          ((candidates.filterMap Candidate.migration?).map Migration.identifier) records) point := by
  induction candidates generalizing point with
  | nil =>
    rintro _ ⟨⟩
    exact started.achieved (List.prefix_refl _) (by simp)
  | cons candidate candidates ih =>
    simp only [applyAll, ensures_bind]
    refine (applyCandidate_achieves candidate started).imp ?_
    rintro (fault | record) middle first
    · rintro _ ⟨⟩
    · have first := first record rfl
      simp only [continues_ok, ensures_bind]
      refine (ih first.started).imp ?_
      rintro (fault | records) after second
      · rintro _ ⟨⟩
      · rintro _ ⟨⟩
        have whole := first.trans (second records rfl)
        cases found : candidate.migration? <;> simpa [found] using whole

/-- What a run beside others ends with: it answers what it added, and all of its migrations are
recorded. -/
def EndsBeside (candidates : List Candidate) (result : Except Fault (List Record))
    (point : Standing) : Prop :=
  ∀ records, result = .ok records → records = point.added ∧
    ∀ migration, .migration migration ∈ candidates → Recorded point.rows migration.identifier

theorem runMigrations_endsBeside (candidates : List Candidate) (rows : List Record) :
    (repository.runMigrations candidates).Ensures repository.besideProtocol
      (EndsBeside candidates) ⟨rows, [], [], []⟩ := by
  simp only [runMigrations, ensures_bind]
  have created : repository.ensureTable.Ensures repository.besideProtocol
      (fun _ point => point.added = [] ∧ point.batches = []) ⟨rows, [], [], []⟩ :=
    ensures_ensureTable ⟨rfl, rfl⟩ (fun _ _ _ asked => .table asked) fun _ _ known _ => known
  refine created.imp ?_
  rintro (fault | value) point ⟨added, batches⟩
  · rintro _ ⟨⟩
  · simp only [continues_ok, ensures_bind]
    refine ensures_currentBatch (.batch batches) fun rows grown => ?_
    simp only [continues_ok, ensures_bind]
    have started : Started (largestBatch rows + 1)
        { point with rows, batches := point.batches ++ [largestBatch rows + 1] } :=
      ⟨by simp [batches], startable_largestBatch rows⟩
    refine (applyAll_achieves candidates started).imp ?_
    rintro (fault | records) after achieved
    · rintro _ ⟨⟩
    · have achieved := achieved records rfl
      have ends : EndsBeside candidates (.ok records) after := by
        rintro _ ⟨⟩
        refine ⟨by simpa [added] using achieved.added.symm, fun migration member => ?_⟩
        refine achieved.recorded _ (List.mem_map.mpr ⟨migration, ?_, rfl⟩)
        exact List.mem_filterMap.mpr ⟨_, member, rfl⟩
      exact ensures_closing ignoresNotes_protocol _ _ ends fun _ _ => by rintro _ ⟨⟩

end Repository

/-! ## Batches without gaps -/

/-- Whether the batches of records are the numbers from one on, without gaps. -/
def Gapless (records : List Record) : Prop :=
  ∃ last : Nat, ∀ batch : Int, (∃ record ∈ records, record.batch = batch) ↔
    1 ≤ batch ∧ batch ≤ last

theorem gapless_nil : Gapless [] := by
  refine ⟨0, fun batch => ?_⟩
  simp only [List.not_mem_nil, false_and, exists_false, false_iff]
  omega

/-- A record of a batch that may be started leaves no gap. -/
theorem Gapless.concat {records : List Record} {record : Record} (gapless : Gapless records)
    (startable : Startable record.batch records) : Gapless (records ++ [record]) := by
  obtain ⟨last, spans⟩ := gapless
  have first : 1 ≤ record.batch ∧ record.batch ≤ last + 1 := by
    rcases startable with one | ⟨earlier, member, next⟩
    · omega
    · have bounds := (spans _).mp ⟨earlier, member, next⟩
      omega
  refine ⟨max last record.batch.toNat, fun batch => ?_⟩
  constructor
  · rintro ⟨found, member, rfl⟩
    rcases List.mem_append.mp member with earlier | latest
    · have bounds := (spans _).mp ⟨found, earlier, rfl⟩
      omega
    · obtain rfl := List.mem_singleton.mp latest
      omega
  · intro bounds
    by_cases same : batch = record.batch
    · exact ⟨record, by simp, same.symm⟩
    · obtain ⟨found, member, rfl⟩ := (spans batch).mpr (by omega)
      exact ⟨found, List.mem_append_left _ member, rfl⟩

/-! ## Runners side by side -/

namespace SideBySide

variable {Name α State : Type} [DecidableEq Name]

omit [DecidableEq Name] in
/-- The records that the store took, each with the runner that added it. -/
def credits (side : SideBySide Name α State) : List (Name × Record) :=
  side.exchanges.filterMap fun entry => entry.2.event.added?.map (entry.1, ·)

/-- What a runner knows that has seen the rows. -/
def standingOf (side : SideBySide Name α State) (name : Name) (seen : List Record) : Standing :=
  .of seen (side.exchangesOf name)

/-- The records that a runner added. -/
def addedBy (side : SideBySide Name α State) (name : Name) : List Record :=
  (side.standingOf name []).added

/-- The batches that a runner computed. -/
def batchesOf (side : SideBySide Name α State) (name : Name) : List Int :=
  (side.standingOf name []).batches

theorem mem_addedBy {side : SideBySide Name α State} {name : Name} {record : Record} :
    record ∈ side.addedBy name ↔ (name, record) ∈ side.credits := by
  simp only [addedBy, standingOf, Standing.of, exchangesOf, credits, List.mem_filterMap,
    List.mem_map, List.mem_filter, decide_eq_true_eq, Option.map_eq_some_iff, Prod.mk.injEq]
  constructor
  · rintro ⟨_, ⟨⟨_, exchange⟩, ⟨member, rfl⟩, rfl⟩, added⟩
    exact ⟨_, member, record, added, rfl, rfl⟩
  · rintro ⟨⟨_, exchange⟩, member, _, added, rfl, rfl⟩
    exact ⟨exchange, ⟨_, ⟨member, rfl⟩, rfl⟩, added⟩

variable {world : World State} {side : SideBySide Name α State} {name : Name} {request : Request}
  {rest : Except Fault request.Answer → Program α}

theorem credits_exchange :
    (side.exchange world name request rest).credits = side.credits ++
      ((world.exchange request side.state).event.added?.map (name, ·)).toList := by
  simp only [credits, exchange, List.filterMap_append]
  rfl

/-- A turn changes what its runner knows as the event does. -/
theorem standingOf_exchange_self (seen rows : List Record) :
    (side.exchange world name request rest).standingOf name
        (rows ++ (world.exchange request side.state).event.added?.toList) =
      (side.standingOf name seen).after rows (world.exchange request side.state).event := by
  unfold standingOf
  rw [exchangesOf_exchange_self]
  exact Standing.of_concat seen rows _ _

theorem addedBy_exchange_self :
    (side.exchange world name request rest).addedBy name =
      side.addedBy name ++ (world.exchange request side.state).event.added?.toList :=
  congrArg Standing.added (standingOf_exchange_self [] [])

theorem batchesOf_exchange_self :
    (side.exchange world name request rest).batchesOf name =
      side.batchesOf name ++ (world.exchange request side.state).event.batch?.toList :=
  congrArg Standing.batches (standingOf_exchange_self [] [])

theorem standingOf_exchange_other {other : Name} (different : other ≠ name) (seen : List Record) :
    (side.exchange world name request rest).standingOf other seen = side.standingOf other seen := by
  unfold standingOf
  rw [exchangesOf_exchange_other different]

end SideBySide

section Runners

variable {Name State : Type} [DecidableEq Name] {world : World State} {repository : Repository}
  {usable : State → Prop} {stored : State → List Record} {first : List Record}
  {units : Name → List Candidate}

/-- What holds of runners side by side at any time, with the rows stored at first. -/
structure SideBySide.Orderly (repository : Repository) (stored : State → List Record)
    (first : List Record) (units : Name → List Candidate)
    (side : SideBySide Name (List Record) State) : Prop where
  /-- The store does not hold two rows of one migration. -/
  distinct : Distinct (stored side.state)
  /-- The store holds what it held at first and what the runners added. -/
  rows : stored side.state = first ++ side.credits.map (·.2)
  /-- Every row added was added by one runner. -/
  credited : ∀ record ∈ side.credits.map (·.2), ∃! name, record ∈ side.addedBy name
  /-- A runner that has returned answers the rows that it added. -/
  answered : ∀ name records, side.result? name = some (.ok records) →
    records = side.addedBy name
  /-- When all runners have returned, their answers are about different migrations and make up the
  rows added. -/
  together : ∀ answers : Name → List Record,
    (∀ name, side.result? name = some (.ok (answers name))) →
      (∀ one other, one ≠ other → ∀ record ∈ answers one, ∀ further ∈ answers other,
        record.migration ≠ further.migration) ∧
      ∀ record, record ∈ side.credits.map (·.2) ↔ ∃ name, record ∈ answers name
  /-- Every migration of a runner that has returned is stored. -/
  recorded : ∀ name records, side.result? name = some (.ok records) →
    ∀ migration, .migration migration ∈ units name →
      Recorded (stored side.state) migration.identifier
  /-- Every row is of the only batch that its runner computed, one more than the largest batch
  stored at the time. -/
  batch : ∀ name, ∀ record ∈ side.addedBy name, side.batchesOf name = [record.batch] ∧
    ∃ exchange ∈ side.exchangesOf name, exchange.request = repository.batchRequest ∧
      record.batch = largestBatch (stored exchange.before) + 1
  /-- In a store that was empty at first, batches are numbered from one without gaps. -/
  gapless : first = [] → Gapless (stored side.state)

/-- The invariant of runners side by side: each of them still ensures its ending, from some rows
that it has seen. -/
structure SideBySide.Consistent (repository : Repository) (usable : State → Prop)
    (stored : State → List Record) (first : List Record) (units : Name → List Candidate)
    (side : SideBySide Name (List Record) State) : Prop where
  usable : usable side.state
  distinct : Distinct (stored side.state)
  rows : stored side.state = first ++ side.credits.map (·.2)
  batches : ∀ name, ∀ record ∈ side.addedBy name, side.batchesOf name = [record.batch]
  computed : ∀ name, ∀ batch ∈ side.batchesOf name, ∃ exchange ∈ side.exchangesOf name,
    exchange.request = repository.batchRequest ∧
      batch = largestBatch (stored exchange.before) + 1
  gapless : first = [] → Gapless (stored side.state)
  ensures : ∀ name, ∃ seen, seen <+: stored side.state ∧
    (side.programs name).Ensures repository.besideProtocol
      (Repository.EndsBeside (units name)) (side.standingOf name seen)

namespace SideBySide.Consistent

variable {side : SideBySide Name (List Record) State} {name : Name} {request : Request}
  {rest : Except Fault request.Answer → Program (List Record)}

/-- What is known of an exchange: the runner was permitted to ask, from rows that it has seen, and
goes on from what the event made of them. -/
theorem turn (keeps : world.KeepsRecords repository usable stored)
    (consistent : side.Consistent repository usable stored first units)
    (next : (side.programs name).awaiting = .ask request rest) :
    ∃ seen, seen <+: stored side.state ∧
      repository.AsksBeside (side.standingOf name seen) request ∧
      (world.exchange request side.state).event.Keeps (stored side.state) ∧
      stored (world.respond request side.state).state =
        stored side.state ++ (world.exchange request side.state).event.added?.toList ∧
      ((side.exchange world name request rest).programs name).Ensures repository.besideProtocol
        (Repository.EndsBeside (units name))
        ((side.exchange world name request rest).standingOf name
          (stored (world.respond request side.state).state)) := by
  obtain ⟨seen, grown, ensures⟩ := consistent.ensures name
  have awaiting := ensures.awaiting fun _ => rfl
  rw [next] at awaiting
  obtain ⟨permitted, goes⟩ := awaiting
  have answers := keeps.answers side.state request consistent.usable permitted.asks
  have stores := keeps.stores side.state request consistent.usable permitted.asks
  refine ⟨seen, grown, permitted, answers, stores, ?_⟩
  rw [programs_exchange_self, stores, standingOf_exchange_self seen]
  exact goes _ _ ⟨stored side.state, grown, answers, rfl⟩

/-- A turn keeps what a runner knows of its batches. -/
theorem batches_exchange (consistent : side.Consistent repository usable stored first units)
    {seen : List Record} (permitted : repository.AsksBeside (side.standingOf name seen) request)
    (answers : (world.exchange request side.state).event.Keeps (stored side.state)) :
    ∀ record ∈ (side.exchange world name request rest).addedBy name,
      (side.exchange world name request rest).batchesOf name = [record.batch] := by
  intro record member
  rw [addedBy_exchange_self] at member
  have computed : side.batchesOf name = [record.batch] := by
    rcases List.mem_append.mp member with earlier | latest
    · exact consistent.batches name record earlier
    · exact (permitted.added_eq answers (Option.mem_toList.mp latest)).1
  rw [batchesOf_exchange_self, computed]
  cases further : (world.exchange request side.state).event.batch? with
  | none => rfl
  | some batch =>
    have unasked : side.batchesOf name = [] := (permitted.batch_eq answers further).1
    rw [computed] at unasked
    exact nomatch unasked

/-- A turn keeps where the batches of a runner come from. -/
theorem computed_exchange (consistent : side.Consistent repository usable stored first units)
    {seen : List Record} (permitted : repository.AsksBeside (side.standingOf name seen) request)
    (answers : (world.exchange request side.state).event.Keeps (stored side.state)) :
    ∀ batch ∈ (side.exchange world name request rest).batchesOf name,
      ∃ exchange ∈ (side.exchange world name request rest).exchangesOf name,
        exchange.request = repository.batchRequest ∧
          batch = largestBatch (stored exchange.before) + 1 := by
  intro batch member
  rw [batchesOf_exchange_self] at member
  rw [exchangesOf_exchange_self]
  rcases List.mem_append.mp member with earlier | latest
  · obtain ⟨exchange, found, from_⟩ := consistent.computed name batch earlier
    exact ⟨exchange, List.mem_append_left _ found, from_⟩
  · obtain ⟨-, asked, largest⟩ := permitted.batch_eq answers (Option.mem_toList.mp latest)
    exact ⟨world.exchange request side.state, by simp, asked, largest⟩

/-- Every turn keeps the invariant. -/
theorem exchange (keeps : world.KeepsRecords repository usable stored)
    (consistent : side.Consistent repository usable stored first units)
    (next : (side.programs name).awaiting = .ask request rest) :
    (side.exchange world name request rest).Consistent repository usable stored first units := by
  obtain ⟨seen, grown, permitted, answers, stores, goes⟩ := consistent.turn keeps next
  have further : stored side.state <+: stored (world.respond request side.state).state :=
    stores ▸ List.prefix_append _ _
  constructor
  case usable => exact keeps.stays side.state request consistent.usable permitted.asks
  case distinct =>
    change Distinct (stored (world.respond request side.state).state)
    rw [stores]
    cases added : (world.exchange request side.state).event.added? with
    | none => simpa using consistent.distinct
    | some record =>
      obtain ⟨-, -, identifier, about, unrecorded⟩ := permitted.added_eq answers added
      exact consistent.distinct.concat unrecorded about
  case rows =>
    change stored (world.respond request side.state).state = _
    rw [stores, consistent.rows, credits_exchange, List.map_append, List.append_assoc]
    cases (world.exchange request side.state).event.added? <;> rfl
  case batches =>
    intro other
    rcases eq_or_ne other name with rfl | different
    · exact consistent.batches_exchange permitted answers
    · unfold addedBy batchesOf
      rw [standingOf_exchange_other different]
      exact consistent.batches other
  case computed =>
    intro other
    rcases eq_or_ne other name with rfl | different
    · exact consistent.computed_exchange permitted answers
    · unfold batchesOf
      rw [standingOf_exchange_other different, exchangesOf_exchange_other different]
      exact consistent.computed other
  case gapless =>
    intro empty
    change Gapless (stored (world.respond request side.state).state)
    rw [stores]
    cases added : (world.exchange request side.state).event.added? with
    | none => simpa using consistent.gapless empty
    | some record =>
      obtain ⟨-, startable, -⟩ := permitted.added_eq answers added
      exact (consistent.gapless empty).concat (startable.mono grown)
  case ensures =>
    intro other
    rcases eq_or_ne other name with rfl | different
    · exact ⟨_, List.prefix_refl _, goes⟩
    · obtain ⟨rows, before, ensures⟩ := consistent.ensures other
      refine ⟨rows, before.trans further, ?_⟩
      rw [programs_exchange_other different, standingOf_exchange_other different]
      exact ensures

/-- Two rows of one migration were added by one runner. -/
theorem credits_unique (consistent : side.Consistent repository usable stored first units)
    {one other : Name} {record further : Record} (mine : record ∈ side.addedBy one)
    (theirs : further ∈ side.addedBy other) (same : record.migration = further.migration) :
    one = other := by
  have distinct := consistent.distinct
  rw [consistent.rows, Distinct, List.map_append, List.map_map] at distinct
  have unique := (List.nodup_append.mp distinct).2.1
  have entries := List.inj_on_of_nodup_map unique (mem_addedBy.mp mine) (mem_addedBy.mp theirs) same
  exact congrArg Prod.fst entries

/-- The invariant covers what is said about the rows and the answers of runners. -/
theorem orderly (consistent : side.Consistent repository usable stored first units) :
    side.Orderly repository stored first units := by
  have ended : ∀ name records, side.result? name = some (.ok records) →
      records = side.addedBy name ∧ ∀ migration, .migration migration ∈ units name →
        Recorded (stored side.state) migration.identifier := by
    intro name records finished
    obtain ⟨seen, grown, ensures⟩ := consistent.ensures name
    obtain ⟨answered, recorded⟩ := ensures.result (fun _ => rfl) finished records rfl
    exact ⟨answered, fun migration member => (recorded migration member).mono grown⟩
  have credited : ∀ record, record ∈ side.credits.map (·.2) ↔
      ∃ name, record ∈ side.addedBy name := by
    intro record
    simp only [mem_addedBy, List.mem_map, Prod.exists, exists_eq_right]
  refine ⟨consistent.distinct, consistent.rows, ?_, fun name records finished =>
    (ended name records finished).1, ?_, fun name records finished =>
    (ended name records finished).2, ?_, consistent.gapless⟩
  · intro record member
    obtain ⟨name, mine⟩ := (credited record).mp member
    exact ⟨name, mine, fun other theirs => consistent.credits_unique theirs mine rfl⟩
  · intro answers finished
    have same : ∀ name, answers name = side.addedBy name := fun name =>
      (ended name _ (finished name)).1
    simp only [same]
    refine ⟨?_, credited⟩
    intro one other different record mine further theirs about
    exact different (consistent.credits_unique mine theirs about)
  · intro name record member
    have batches := consistent.batches name record member
    exact ⟨batches, consistent.computed name record.batch (by simp [batches])⟩

end SideBySide.Consistent

/-- Runners that have not begun. -/
def SideBySide.runners (repository : Repository) (units : Name → List Candidate)
    (initial : State) : SideBySide Name (List Record) State :=
  .start (fun name => repository.runMigrations (units name)) initial

theorem SideBySide.runners_consistent {initial : State} (ready : usable initial)
    (distinct : Distinct (stored initial)) (units : Name → List Candidate) :
    (runners repository units initial).Consistent repository usable stored (stored initial)
      units where
  usable := ready
  distinct := distinct
  rows := (List.append_nil _).symm
  batches _ _ member := nomatch member
  computed _ _ member := nomatch member
  gapless empty := by
    change Gapless (stored initial)
    rw [empty]
    exact gapless_nil
  ensures name :=
    ⟨stored initial, List.prefix_refl _,
      Repository.runMigrations_endsBeside (units name) (stored initial)⟩

/-- Runners side by side on a store that keeps its contract: under every schedule of their turns,
whatever their lists of candidates, they keep order. -/
theorem runners_orderly (keeps : world.KeepsRecords repository usable stored) {initial : State}
    (ready : usable initial) (distinct : Distinct (stored initial))
    (units : Name → List Candidate) (schedule : List Name) :
    ((SideBySide.runners repository units initial).interleave world schedule).Orderly repository
      stored (stored initial) units := by
  have consistent := SideBySide.interleave_keeps
    (fun _ _ _ _ consistent next => SideBySide.Consistent.exchange keeps consistent next)
    (SideBySide.runners_consistent ready distinct units) schedule
  exact consistent.orderly

/-- Two runners of one migration on the database in memory, which both look before either applies it:
the one fails, and the other records the migration. -/
theorem fresh_orderly :
    ((SideBySide.runners ScriptedWorld.tracking
        (fun _ : Bool => [.migration ScriptedWorld.createUsers]) ScriptedWorld.fresh).interleave
      ScriptedWorld.full
      [true, true, true, true, false, false, false, true, false, false, true, false, true]).Orderly
        ScriptedWorld.tracking (ScriptedWorld.stored ScriptedWorld.tracking)
        (ScriptedWorld.stored ScriptedWorld.tracking ScriptedWorld.fresh)
        fun _ => [.migration ScriptedWorld.createUsers] :=
  runners_orderly (ScriptedWorld.keepsRecords ScriptedWorld.isPlainName_tracking)
    ScriptedWorld.fresh_isStore List.nodup_nil _ _

/-- Two runners of a migration that records another one while it is applied. The store keeps its
contract and its table and both runners return, but the row of the other migration was added by
neither of them and is in no answer. -/
theorem asideRecord_disorderly :
    let roles : Record := ⟨.text "app.migrations.CreateRoles", 1, none, .int 1⟩
    let world := RowStore.world ScriptedWorld.fresh.clock fun _ => some roles
    let units (_ : Bool) : List Candidate := [.migration ScriptedWorld.createUsers]
    let side := (SideBySide.runners ScriptedWorld.tracking units []).interleave world
      [true, true, true, true, true, true, false, false, false]
    world.AnswersRecords ScriptedWorld.tracking (fun _ => True) id ∧
      (∀ name, ∃ records, side.result? name = some (.ok records) ∧ roles ∉ records) ∧
      roles ∈ side.state ∧ ¬ side.Orderly ScriptedWorld.tracking id [] units := by
  intro roles world units side
  have users : side.result? true = some (.ok
      [⟨.text "app.migrations.CreateUsers", 1, some ScriptedWorld.fresh.clock, .int 2⟩]) := by
    decide +kernel
  have nothing : side.result? false = some (.ok []) := by decide +kernel
  refine ⟨RowStore.answersRecords _ _ _, ?_, by decide +kernel, fun orderly => ?_⟩
  · rintro (_ | _)
    · exact ⟨_, nothing, by decide⟩
    · exact ⟨_, users, by decide⟩
  · exact absurd orderly.rows (by decide +kernel)

end Runners

end Tablewright
