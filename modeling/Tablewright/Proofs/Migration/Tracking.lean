import Tablewright.Migration.Session
import Tablewright.Proofs.Migration.Course
import Tablewright.Proofs.Migration.Readings
import Tablewright.Proofs.Schema.Tables

/-! # Operations on a tracking table

Whatever a tracker does, it first makes sure of the tracking table: it asks whether the table is
there, and creates it by one statement if it is not. What goes on after that reads and writes rows,
and never asks about the table again.
-/

namespace Tablewright

open Program

namespace Repository

variable {α : Type} {repository : Repository}

/-- The statement that creates the tracking table. -/
@[irreducible]
def creation (repository : Repository) : String :=
  (repository.schema.creation? repository.table definition).getD ""

/-- The blueprint of the tracking table compiles to that statement. -/
theorem declared_creation (repository : Repository) :
    repository.declared.toCreate repository.schema.options =
      ⟨.ok (some repository.creation), repository.declared.closeRound, []⟩ := by
  obtain ⟨fragments, compiles⟩ := repository.declared_toCreate repository.schema.options
  rw [creation, Schema.creation?, Schema.declared, definition_eq, compiles]
  rfl

theorem creation_eq (repository : Repository) :
    ∃ fragments, repository.creation =
      createText repository.tableName repository.schema.options fragments := by
  obtain ⟨fragments, compiles⟩ := repository.declared_toCreate repository.schema.options
  have same := congrArg Compiled.result (repository.declared_creation.symm.trans compiles)
  exact ⟨fragments, Option.some.inj (Except.ok.inj same)⟩

/-- The database finds the tracking table in the statement that creates it. -/
theorem createdTable?_creation (plain : IsPlainName repository.tableName) :
    createdTable? repository.creation = some repository.tableName := by
  obtain ⟨fragments, same⟩ := repository.creation_eq
  have begins : Heading.create.Begins repository.tableName repository.creation :=
    same ▸ Heading.begins_createText _ _ _
  exact begins.created plain

theorem droppedTable?_creation (repository : Repository) :
    droppedTable? repository.creation = none := by
  obtain ⟨fragments, same⟩ := repository.creation_eq
  rw [same, droppedTable?_createText]

/-- What comes after the creation of the tracking table was answered. -/
def onCreation (repository : Repository) (next : Program α) : Except Fault Unit → Program α
  | .error fault => fail fault
  | .ok () =>
    .note (.tableCreated repository.tableName)
      (.note (.trackingCreated repository.tableName) next)

/-- What comes after the question for the tracking table was answered. -/
def onCheck (repository : Repository) (next : Program α) : Except Fault Bool → Program α
  | .error fault => fail fault
  | .ok true => .note (.tableExists repository.tableName) next
  | .ok false => .ask (.execute repository.creation) (repository.onCreation next)

/-- Making sure of the tracking table is one question and at most one statement. -/
theorem ensureTable_bind (repository : Repository) (next : Program α) :
    (repository.ensureTable >>= fun _ => next) =
      .ask (.hasTable repository.tableName) (repository.onCheck next) := by
  simp only [ensureTable, Schema.create, definition_eq, repository.declared_creation,
    Schema.compiled, sayAll, bind_assoc]
  refine congrArg (Program.ask (.hasTable repository.tableName)) (funext fun answer => ?_)
  cases answer with
  | error fault => rfl
  | ok present =>
    cases present with
    | true => rfl
    | false =>
      refine congrArg (Program.ask (.execute repository.creation)) (funext fun answer => ?_)
      cases answer <;> rfl

/-! ## What operations ask for -/

/-- What is asked for while candidates are applied in a batch. -/
inductive AsksToApply (repository : Repository) (batch : Int) : Request → Prop
  | count (identifier : String) : AsksToApply repository batch (repository.countRequest identifier)
  | now : AsksToApply repository batch .now
  | apply (migration : Migration) : AsksToApply repository batch (.apply migration)
  | record (identifier : String) (moment : DateTime) :
    AsksToApply repository batch (repository.recordRequest identifier batch moment)

/-- What an operation asks for once it has made sure of the tracking table. -/
inductive AsksTabled (repository : Repository) : Request → Prop
  | rows : AsksTabled repository (.queryRows repository.rowsQuery)
  | batch : AsksTabled repository repository.batchRequest
  | applying (batch : Int) {request : Request} (asked : repository.AsksToApply batch request) :
    AsksTabled repository request

/-- What operations of a tracker ask for. -/
inductive AsksTracker (repository : Repository) : Request → Prop
  | check : AsksTracker repository (.hasTable repository.tableName)
  | create : AsksTracker repository (.execute repository.creation)
  | tabled {request : Request} (asked : repository.AsksTabled request) :
    AsksTracker repository request

/-- No statement is executed any more. -/
theorem AsksTabled.no_statement {request : Request} (asked : repository.AsksTabled request) :
    ∀ statement, request ≠ .execute statement := by
  cases asked with
  | rows => rintro _ ⟨⟩
  | batch => rintro _ ⟨⟩
  | applying batch asked => cases asked <;> rintro _ ⟨⟩

/-- The table is not asked about any more. -/
theorem AsksTabled.no_check {request : Request} (asked : repository.AsksTabled request) :
    ∀ table, request ≠ .hasTable table := by
  cases asked with
  | rows => rintro _ ⟨⟩
  | batch => rintro _ ⟨⟩
  | applying batch asked => cases asked <;> rintro _ ⟨⟩

theorem asksOnly_hasRun (batch : Int) (identifier : String) :
    (repository.hasRun identifier).AsksOnly (repository.AsksToApply batch) := by
  refine AsksOnly.bind ⟨.count identifier, fun answer => trivial⟩ fun count => ?_
  exact AsksOnly.bind trivial fun number => trivial

theorem asksOnly_log (batch : Int) (identifier : String) :
    (repository.log identifier batch).AsksOnly (repository.AsksToApply batch) := by
  refine AsksOnly.bind ⟨.now, fun answer => trivial⟩ fun moment => ?_
  refine AsksOnly.bind ⟨.record identifier _, fun answer => trivial⟩ fun id => ?_
  exact AsksOnly.bind trivial fun number => AsksOnly.bind trivial fun said => trivial

theorem asksOnly_attempt {asks : Request → Prop} {program : Program α}
    (only : program.AsksOnly asks) : program.attempt.AsksOnly asks := by
  induction program with
  | done result => trivial
  | note notice rest ih => exact ih only
  | ask request rest ih => exact ⟨only.1, fun answer => ih answer (only.2 answer)⟩

theorem asksOnly_applyCandidate (batch : Int) (candidate : Candidate) :
    (repository.applyCandidate batch candidate).AsksOnly (repository.AsksToApply batch) := by
  cases candidate with
  | type migration | value other =>
    exact AsksOnly.bind trivial fun quoted => AsksOnly.bind trivial fun said => trivial
  | migration migration =>
    refine AsksOnly.bind (asksOnly_hasRun batch _) fun found => ?_
    cases found with
    | true => exact AsksOnly.bind trivial fun said => trivial
    | false =>
      refine AsksOnly.bind trivial fun number => AsksOnly.bind trivial fun said => ?_
      refine AsksOnly.bind (asksOnly_attempt ⟨.apply migration, fun answer => trivial⟩) ?_
      rintro (fault | applied)
      · exact AsksOnly.bind trivial fun text => AsksOnly.bind trivial fun said => trivial
      · refine AsksOnly.bind (asksOnly_attempt (asksOnly_log batch _)) ?_
        rintro (fault | record)
        · cases fault with
          | duplicateRecord message statement => exact AsksOnly.bind trivial fun said => trivial
          | _ => trivial
        · trivial

theorem asksOnly_applyAll (batch : Int) (candidates : List Candidate) :
    (repository.applyAll batch candidates).AsksOnly (repository.AsksToApply batch) := by
  induction candidates with
  | nil => trivial
  | cons candidate candidates ih =>
    refine AsksOnly.bind (asksOnly_applyCandidate batch candidate) fun record => ?_
    exact ih.bind fun records => trivial

/-- The part of a run after its batch was computed. -/
def runIn (repository : Repository) (candidates : List Candidate) (batch : Int) :
    Program (List Record) := do
  closing batch (← repository.applyAll batch candidates)

theorem runPrepared_eq (candidates : List Candidate) :
    repository.runPrepared candidates =
      repository.currentBatch >>= fun largest => repository.runIn candidates (largest + 1) :=
  rfl

theorem asksOnly_runIn (candidates : List Candidate) (batch : Int) :
    (repository.runIn candidates batch).AsksOnly (repository.AsksToApply batch) := by
  refine (asksOnly_applyAll batch candidates).bind fun records => ?_
  unfold closing
  split
  · exact AsksOnly.bind trivial fun said => trivial
  · exact AsksOnly.bind trivial fun number => AsksOnly.bind trivial fun said => trivial

/-- Once it has made sure of the table, a run asks for the largest batch and then applies. -/
theorem asksOnly_runPrepared {asks : Request → Prop} (batch : asks repository.batchRequest)
    (applying : ∀ batch request, repository.AsksToApply batch request → asks request)
    (candidates : List Candidate) : (repository.runPrepared candidates).AsksOnly asks := by
  rw [runPrepared_eq]
  refine AsksOnly.bind ?_ fun largest => ?_
  · exact AsksOnly.bind ⟨batch, fun answer => trivial⟩ fun number => trivial
  · exact (asksOnly_runIn candidates (largest + 1)).imp (applying (largest + 1))

/-- A run asks for nothing but what runs ask for. -/
theorem asksOnly_runMigrations (candidates : List Candidate) :
    (repository.runMigrations candidates).AsksOnly repository.Asks := by
  refine (repository.asksOnly_ensureTable.imp fun request asked => .table asked).bind fun _ => ?_
  refine asksOnly_runPrepared .batch (fun batch request asked => ?_) candidates
  cases asked with
  | count identifier => exact .count identifier
  | now => exact .now
  | apply migration => exact .apply migration
  | record identifier moment => exact .record identifier batch moment

end Repository

/-! ## Exchanges about the table -/

/-- The statement of an execution that succeeded. -/
def Event.executed? : Event → Option String
  | .asked (.execute statement) (.ok _) => some statement
  | _ => none

theorem Event.executed?_eq_some {event : Event} {statement : String} :
    event.executed? = some statement ↔ event = .asked (.execute statement) (.ok ()) := by
  constructor
  · intro executed
    cases event with
    | noted notice => cases executed
    | asked request answer =>
      cases request with
      | execute other =>
        cases answer with
        | error fault => cases executed
        | ok done =>
          obtain rfl := Option.some.inj executed
          rfl
      | _ => cases executed
  · rintro rfl
    rfl

/-- An exchange about anything but a statement executes none. -/
theorem Exchange.executed?_eq_none {State : Type} (exchange : Exchange State)
    (other : ∀ statement, exchange.request ≠ .execute statement) :
    exchange.event.executed? = none := by
  rw [Option.eq_none_iff_forall_ne_some]
  intro statement executed
  exact other statement (Event.asked.inj (Event.executed?_eq_some.mp executed)).1

namespace Exchange

variable {State : Type} (repository : Repository) (exchange : Exchange State)

/-- Whether the tracking table was found missing. -/
def FindsMissing : Prop :=
  exchange.event = .asked (.hasTable repository.tableName) (.ok false)

/-- Whether the tracking table was found. -/
def Finds : Prop :=
  exchange.event = .asked (.hasTable repository.tableName) (.ok true)

/-- Whether the tracking table was created. -/
def Creates : Prop :=
  exchange.event.executed? = some repository.creation

instance : Decidable (exchange.Creates repository) :=
  inferInstanceAs (Decidable (_ = _))

/-- Whether exchanges make sure of the tracking table: it was found, or it was found missing and
created. -/
inductive MakeSure (repository : Repository) : List (Exchange State) → Prop
  | found {check : Exchange State} (found : check.Finds repository) : MakeSure repository [check]
  | created {check creation : Exchange State} (missing : check.FindsMissing repository)
    (created : creation.Creates repository) : MakeSure repository [check, creation]

end Exchange

/-! ## Operations -/

/-- An operation of a tracker. -/
inductive TrackerOperation where
  | run (candidates : List Candidate)
  | pending (candidates : List Candidate)
  | status (candidates : List Candidate)
  | applied
  | lastBatch

namespace TrackerOperation

/-- The program of an operation. -/
def program (repository : Repository) : TrackerOperation → Program OperationAnswer
  | .run candidates => .records <$> repository.runMigrations candidates
  | .pending candidates => .migrations <$> repository.pending candidates
  | .status candidates => .statuses <$> repository.status candidates
  | .applied => .records <$> repository.allApplied
  | .lastBatch => .records <$> repository.lastBatch

/-- The part of a program that reads the rows and tells something of them. -/
def telling (repository : Repository) (tell : List Record → Except Fault OperationAnswer) :
    Program OperationAnswer := do
  let records ← repository.applied
  ofExcept (tell records)

/-- The part of an operation after it has made sure of the tracking table. -/
def prepared (repository : Repository) : TrackerOperation → Program OperationAnswer
  | .run candidates => .records <$> repository.runPrepared candidates
  | .pending candidates =>
    telling repository fun records =>
      (Repository.checkKeys records).map fun _ =>
        .migrations (Repository.pendingIn candidates records)
  | .status candidates =>
    telling repository fun records =>
      (Repository.checkKeys records).map fun _ =>
        .statuses (Repository.statusesIn candidates records)
  | .applied => telling repository fun records => .ok (.records records)
  | .lastBatch =>
    telling repository fun records => .ok (.records (Repository.latestRecords records))

variable {α : Type} (repository : Repository)

/-- What is made of the answer of a reading is told like the answer. -/
theorem map_reading (make : α → OperationAnswer) (tell : List Record → Except Fault α) :
    make <$> repository.reading tell =
      repository.ensureTable >>= fun _ => telling repository fun records =>
        (tell records).map make := by
  simp only [Repository.reading, telling, map_bind]
  refine bind_congr fun _ => bind_congr fun records => ?_
  cases tell records <;> rfl

/-- Every operation first makes sure of the tracking table. -/
theorem program_eq (operation : TrackerOperation) :
    operation.program repository =
      .ask (.hasTable repository.tableName)
        (repository.onCheck (operation.prepared repository)) := by
  rw [← repository.ensureTable_bind]
  cases operation with
  | run candidates => exact map_bind _ _ _
  | pending candidates =>
    rw [program, Repository.pending_eq, map_reading]
    refine bind_congr fun _ => congrArg (telling repository) (funext fun records => ?_)
    cases Repository.checkKeys records <;> rfl
  | status candidates =>
    rw [program, Repository.status_eq, map_reading]
    refine bind_congr fun _ => congrArg (telling repository) (funext fun records => ?_)
    cases Repository.checkKeys records <;> rfl
  | applied =>
    rw [program, Repository.allApplied_eq, map_reading]
    rfl
  | lastBatch =>
    rw [program, Repository.lastBatch_eq, map_reading]
    rfl

/-- A program that tells something of the rows asks for nothing but the rows. -/
theorem asksOnly_telling (tell : List Record → Except Fault OperationAnswer) :
    (telling repository tell).AsksOnly (· = .queryRows repository.rowsQuery) := by
  refine AsksOnly.bind ?_ fun records => trivial
  exact AsksOnly.bind ⟨rfl, fun answer => trivial⟩ fun rows => trivial

theorem asksOnly_prepared (operation : TrackerOperation) :
    (operation.prepared repository).AsksOnly repository.AsksTabled := by
  cases operation with
  | run candidates =>
    have prepared : (repository.runPrepared candidates).AsksOnly repository.AsksTabled :=
      Repository.asksOnly_runPrepared .batch (fun batch request => .applying batch) candidates
    exact prepared.bind fun _ => trivial
  | pending candidates | status candidates | applied | lastBatch =>
    refine (asksOnly_telling repository _).imp ?_
    rintro _ rfl
    exact .rows

/-- An operation asks for what it is prepared for, and for the table before that. -/
theorem asksOnly_program {asks : Request → Prop} (operation : TrackerOperation)
    (only : (operation.prepared repository).AsksOnly asks)
    (check : asks (.hasTable repository.tableName))
    (create : asks (.execute repository.creation)) :
    (operation.program repository).AsksOnly asks := by
  rw [program_eq]
  refine ⟨check, ?_⟩
  rintro (fault | _ | _)
  · trivial
  · refine ⟨create, ?_⟩
    rintro (fault | _)
    · trivial
    · exact only
  · exact only

end TrackerOperation

end Tablewright
