import Tablewright.Proofs.Migration.Memory
import Tablewright.Proofs.Migration.Operations
import Tablewright.Proofs.Migration.Passage
import Tablewright.Proofs.Program.Lawful
import Tablewright.Proofs.Program.Trace

/-! # The discipline of a run

Nothing is taken for granted here of what a run of migrations is answered: counts may be any values,
and every request of the store and every application may fail in any way. Still the trace of a run
tells that a migration is applied only directly after a count without any record of it, that it is
recorded only directly after its application has returned, and that a refused duplicate is the one
fault that a run survives. A run that returns has passed each of its candidates in one of four ways.
The fault of a migration reaches the caller as it is exactly if it can be put into words, since it
is noted first. A run also ends where something else that it has to note cannot be written out.
-/

namespace Tablewright

open Program

/-- Whether a request is neither the application of a migration nor a record. -/
def Request.isFree : Request → Bool
  | .apply _ | .insert .. => false
  | _ => true

/-- What a run on some candidates may ask for by what has happened before: nothing once it has
failed, the application of a migration only directly after a count without a record of it, and a
record only directly after the application of its migration has returned. -/
structure Repository.Permitted (repository : Repository) (candidates : List Candidate)
    (earlier : List Event) (request : Request) : Prop where
  calm : failures earlier = []
  applies : ∀ migration, request = .apply migration →
    .migration migration ∈ candidates ∧ ∃ count, FindsNone count ∧
      lastDealing? earlier =
        some (.asked (repository.countRequest migration.identifier) (.ok count))
  inserts : ∀ table values, request = .insert table values →
    ∃ migration batch moment,
      request = repository.recordRequest migration.identifier batch moment ∧
        lastDealing? earlier = some (.asked (.apply migration) (.ok ()))

/-- Whether the number of a batch that was computed among events, or something that is no migration,
cannot be written out. -/
def Hinders (candidates : List Candidate) (events : List Event) : Prop :=
  ∃ batch, (∃ event ∈ events, event.batch? = some batch) ∧
    ¬ (IsNumbered batch ∧ Spoken candidates)

/-- What the trace and the result of a run of migrations show. -/
structure Repository.Disciplined (repository : Repository) (candidates : List Candidate)
    (trace : List Event) (result : Except Fault (List Record)) : Prop where
  /-- Whatever the run asks for is permitted by what happened before. -/
  permitted : ∀ before request answer after, trace = before ++ .asked request answer :: after →
    repository.Permitted candidates before request
  /-- A migration that fails ends the run, with its fault exactly if that can be put into words. -/
  raised : ∀ migration fault, .asked (.apply migration) (.error fault) ∈ trace →
    result = .error fault.reported ∧
      (result = .error fault ↔ ∃ text, fault.message = .ok text)
  /-- Every fault that comes up ends the run, all but conflicts of records. -/
  failure : ∀ fault, (∃ event ∈ trace, event.ending? = some fault) → result = .error fault
  /-- The run fails with nothing else, unless the number of the batch that it computed or something
  that is no migration cannot be written out. -/
  cause : ∀ fault, result = .error fault → (∃ event ∈ trace, event.ending? = some fault) ∨
    fault = .badValue ∧ failures trace = [] ∧ Hinders candidates trace
  /-- A run that returns has passed every candidate in one of the four ways, and answers the records
  that came of it. -/
  passed : ∀ records, result = .ok records → ∃ batch opening events closing,
    trace = opening ++ events ++ [.noted closing] ∧
      repository.PassesAll batch candidates events records
  /-- Candidates passed over and records add up. -/
  balance : ∀ records, result = .ok records →
    skips .notMigration trace + skips .alreadyApplied trace + skips .recordedElsewhere trace +
      records.length = candidates.length

namespace Repository

/-! ## What parts of a run add -/

/-- How a part of a run ends with a fault: with the one event that fails, or without any, if
something stands in the way of a notice. -/
inductive EndsWith (obstacle : List Event → Prop) (fault : Fault) (events : List Event) : Prop
  | failed (last : endings events = [fault])
  | unworded (bad : fault = .badValue) (calm : failures events = []) (stands : obstacle events)

/-- What a part of a run adds to what happened before: its value fits what was added without any
failure, or it ends with its fault. -/
def Adds {α : Type} (fits : α → List Event → Prop) (obstacle : List Event → Prop)
    (earlier : List Event) : Except Fault α → List Event → Prop
  | .ok value, later =>
    ∃ events, later = earlier ++ events ∧ failures events = [] ∧ fits value events
  | .error fault, later => ∃ events, later = earlier ++ events ∧ EndsWith obstacle fault events

/-- What is reckoned with: the time can always be told. -/
def Reckoned : Event → Prop
  | .asked .now answer => ∃ moment, answer = .ok moment
  | _ => True

/-- The protocol of a run whose answers may be anything. -/
def strictProtocol (repository : Repository) (candidates : List Candidate) :
    Protocol (List Event) :=
  .tracing (repository.Permitted candidates) Reckoned

variable {repository : Repository} {candidates : List Candidate} {earlier : List Event}

/-- What is free may be asked for as long as nothing has failed. -/
theorem permitted_of_calm {request : Request} (calm : failures earlier = [])
    (free : request.isFree = true) : repository.Permitted candidates earlier request where
  calm := calm
  applies := by
    rintro migration rfl
    cases free
  inserts := by
    rintro table values rfl
    cases free

theorem Adds.imp {α : Type} {fits weaker : α → List Event → Prop}
    {obstacle more : List Event → Prop} {result : Except Fault α} {later : List Event}
    (adds : Adds fits obstacle earlier result later)
    (weaken : ∀ value events, fits value events → weaker value events)
    (grow : ∀ events, obstacle events → more events) : Adds weaker more earlier result later := by
  cases result with
  | error fault =>
    obtain ⟨events, rfl, last | ⟨bad, calm, stands⟩⟩ := adds
    · exact ⟨events, rfl, .failed last⟩
    · exact ⟨events, rfl, .unworded bad calm (grow events stands)⟩
  | ok value =>
    obtain ⟨events, rfl, fine, fit⟩ := adds
    exact ⟨events, rfl, fine, weaken value events fit⟩

/-- What is added after calm events is added with them to what came before. -/
theorem Adds.prepend {α : Type} {fits whole : α → List Event → Prop}
    {obstacle : List Event → Prop} {events later : List Event} {result : Except Fault α}
    (adds : Adds fits (fun more => obstacle (events ++ more)) (earlier ++ events) result later)
    (calm : failures events = [])
    (fit : ∀ value more, fits value more → whole value (events ++ more)) :
    Adds whole obstacle earlier result later := by
  cases result with
  | error fault =>
    obtain ⟨more, rfl, last | ⟨bad, fine, stands⟩⟩ := adds
    · refine ⟨events ++ more, List.append_assoc .., .failed ?_⟩
      rw [endings_append, endings_of_calm calm, last, List.nil_append]
    · refine ⟨events ++ more, List.append_assoc .., .unworded bad ?_ stands⟩
      rw [failures_append, calm, fine, List.nil_append]
  | ok value =>
    obtain ⟨more, rfl, fine, fitting⟩ := adds
    refine ⟨events ++ more, List.append_assoc .., ?_, fit value more fitting⟩
    rw [failures_append, calm, fine, List.nil_append]

/-- A program that goes on with the value of another adds to what that one added. -/
theorem ensures_bind_adds {α β : Type} {program : Program α} {next : α → Program β}
    {fits : α → List Event → Prop} {whole : β → List Event → Prop}
    {obstacle : List Event → Prop} (calm : failures earlier = [])
    (first : program.Ensures (repository.strictProtocol candidates) (Adds fits obstacle earlier)
      earlier)
    (onward : ∀ value events, failures (earlier ++ events) = [] → fits value events →
      (next value).Ensures (repository.strictProtocol candidates)
        (Adds (fun value more => whole value (events ++ more))
          (fun more => obstacle (events ++ more)) (earlier ++ events))
        (earlier ++ events)) :
    (program >>= next).Ensures (repository.strictProtocol candidates)
      (Adds whole obstacle earlier) earlier := by
  rw [ensures_bind]
  refine first.imp ?_
  rintro (fault | value) later adds
  · exact adds
  · obtain ⟨events, rfl, fine, fit⟩ := adds
    have still : failures (earlier ++ events) = [] := by
      rw [failures_append, calm, fine, List.nil_append]
    exact (onward value events still fit).imp fun result later adds =>
      adds.prepend fine fun value more whole => whole

/-- A value that fits adds nothing more. -/
theorem ensures_pure_adds {α : Type} {fits : α → List Event → Prop}
    {obstacle : List Event → Prop} {value : α} (fit : fits value []) :
    (pure value : Program α).Ensures (repository.strictProtocol candidates)
      (Adds fits obstacle earlier) earlier :=
  ⟨[], (List.append_nil _).symm, rfl, fit⟩

/-! ## Numbers -/

/-- Asks for a number. -/
def requestNumber (statement : String) (parameters : Option Row) : Program Int := do
  let value ← request (.queryScalar statement parameters)
  ofExcept value.counted

theorem requestNumber_adds {obstacle : List Event → Prop} (statement : String)
    (parameters : Option Row) (calm : failures earlier = []) :
    (requestNumber statement parameters).Ensures (repository.strictProtocol candidates)
      (Adds (fun number events => ∃ value, value.counted = .ok number ∧
        events = [.asked (.queryScalar statement parameters) (.ok value)]) obstacle earlier)
      earlier := by
  simp only [requestNumber, ensures_bind]
  refine ensures_request_tracing (permitted_of_calm calm rfl) fun answer _ => ?_
  cases answer with
  | error fault => exact ⟨_, rfl, .failed rfl⟩
  | ok value =>
    rw [continues_ok, ensures_ofExcept]
    have comes : failures [.asked (.queryScalar statement parameters) (.ok value)] =
        (fault? value.counted).toList := failures_singleton _
    cases read : value.counted with
    | error fault =>
      refine ⟨_, rfl, .failed ?_⟩
      have last : (Event.asked (.queryScalar statement parameters) (.ok value)).failure? =
          some fault := congrArg fault? read
      rw [endings_singleton, Event.ending?, last]
      rfl
    | ok number => exact ⟨_, rfl, by rw [comes, read]; rfl, value, read, rfl⟩

/-- The count of a migration tells whether there is a record. -/
theorem hasRun_adds {obstacle : List Event → Prop} (identifier : String)
    (calm : failures earlier = []) :
    (repository.hasRun identifier).Ensures (repository.strictProtocol candidates)
      (Adds (fun found events => ∃ count,
        events = [.asked (repository.countRequest identifier) (.ok count)] ∧
          if found then FindsSome count else FindsNone count) obstacle earlier) earlier := by
  have number : repository.hasRun identifier =
      requestNumber repository.countQuery (some [("migration", .text identifier)]) >>=
        fun number => pure (decide (0 < number)) := by
    simp only [hasRun, requestNumber, bind_assoc]
    rfl
  rw [number]
  refine ensures_bind_adds calm (requestNumber_adds _ _ calm) ?_
  rintro number _ - ⟨count, read, rfl⟩
  refine ensures_pure_adds ⟨count, rfl, ?_⟩
  by_cases positive : 0 < number
  · simpa [positive] using findsSome_of_counted read positive
  · simpa [positive] using findsNone_of_counted read positive

/-! ## Candidates -/

/-- How recording a migration in a batch with a number can go, with what happens on the way. -/
inductive Logs (repository : Repository) (identifier : String) (batch : Int) (number : String) :
    Except Fault Record → List Event → Prop
  | recorded (moment : DateTime) (id : Value) :
    Logs repository identifier batch number
      (.ok ⟨.text identifier, batch, some moment.wholeSecond, id⟩)
      [.asked .now (.ok moment),
        .asked (repository.recordRequest identifier batch moment.wholeSecond) (.ok id),
        .noted (.recorded identifier number)]
  | conflict (moment : DateTime) (message : String) (statement : Option String) :
    Logs repository identifier batch number (.error (.duplicateRecord message statement))
      [.asked .now (.ok moment),
        .asked (repository.recordRequest identifier batch moment.wholeSecond)
          (.error (.duplicateRecord message statement))]
  | failed {fault : Fault} {events : List Event} (only : endings events = [fault])
      (other : ∀ message statement, fault ≠ .duplicateRecord message statement) :
    Logs repository identifier batch number (.error fault) events

/-- Recording is permitted directly after the application has returned. The time in between is
asked of no store. -/
theorem log_adds (migration : Migration) {batch : Int} {number : String}
    (numbered : (Value.int batch).shown = .ok number) (calm : failures earlier = [])
    (applied : lastDealing? earlier = some (.asked (.apply migration) (.ok ()))) :
    (repository.log migration.identifier batch).Ensures (repository.strictProtocol candidates)
      (fun result later => ∃ events, later = earlier ++ events ∧
        repository.Logs migration.identifier batch number result events) earlier := by
  simp only [log, ensures_bind]
  refine ensures_request_tracing (permitted_of_calm calm rfl) ?_
  rintro answer ⟨moment, rfl⟩
  simp only [continues_ok, ensures_bind]
  refine ensures_request_tracing ⟨failures_concat calm rfl, ?_, ?_⟩ fun answer _ => ?_
  · rintro _ ⟨⟩
  · rintro table values ⟨⟩
    refine ⟨migration, batch, moment.wholeSecond, rfl, ?_⟩
    rw [lastDealing?_concat]
    exact applied
  · cases answer with
    | ok id =>
      simp only [continues_ok, ensures_bind, ensures_ofExcept, numbered]
      refine ensures_say_tracing ⟨_, ?_, .recorded moment id⟩
      simp only [List.append_assoc]
      rfl
    | error fault =>
      refine ⟨_, List.append_assoc .., ?_⟩
      by_cases conflict : ∃ message statement, fault = .duplicateRecord message statement
      · obtain ⟨message, statement, rfl⟩ := conflict
        exact .conflict moment message statement
      · have other (message : String) (statement : Option String) :
            fault ≠ .duplicateRecord message statement :=
          fun same => conflict ⟨message, statement, same⟩
        refine .failed ?_ other
        refine (endings_singleton _).trans ?_
        rw [Event.ending?, Event.failure?_refused other]
        rfl

/-- The fault of a migration ends the run with what is reported of it. -/
theorem finish_adds_failed {migration : Migration} {batch : Int} {fault : Fault}
    {fits : Option Record → List Event → Prop} {obstacle : List Event → Prop} :
    (repository.finish migration.identifier batch (.error fault)).Ensures
      (repository.strictProtocol candidates) (Adds fits obstacle earlier)
      (earlier ++ [.asked (.apply migration) (.error fault)]) := by
  have last : endings [.asked (.apply migration) (.error fault)] = [fault.reported] := rfl
  rw [finish, ensures_bind, ensures_ofExcept]
  cases worded : fault.message with
  | error hindrance =>
    refine ⟨_, rfl, .failed (last.trans ?_)⟩
    rw [Fault.reported, worded]
  | ok text =>
    refine (ensures_bind _ _).mpr (ensures_say_tracing ⟨_, List.append_assoc .., .failed ?_⟩)
    refine (endings_append _ _).trans (congrArg (· ++ _) last) |>.trans ?_
    rw [Fault.reported, worded]
    rfl

/-- Whether events get past a migration that is not recorded, once it has been looked up and is
about to be applied. -/
def PassesOnward (repository : Repository) (batch : Int) (number : String) (migration : Migration)
    (count : Value) (record : Option Record) (events : List Event) : Prop :=
  repository.Passes batch (.migration migration)
    (.asked (repository.countRequest migration.identifier) (.ok count) ::
      .noted (.running migration.identifier number) :: events) record

section Stages

variable {migration : Migration} {count : Value} {batch : Int} {number : String}
  {obstacle : List Event → Prop} (numbered : (Value.int batch).shown = .ok number)
  (unfound : FindsNone count)

include numbered unfound

theorem settle_adds {result : Except Fault Record} {events : List Event}
    (logs : repository.Logs migration.identifier batch number result events) :
    (settle migration.identifier result).Ensures (repository.strictProtocol candidates)
      (Adds (fun record more => repository.PassesOnward batch number migration count record
        (.asked (.apply migration) (.ok ()) :: more)) obstacle earlier) (earlier ++ events) := by
  cases logs with
  | recorded moment id => exact ⟨_, rfl, rfl, .recorded migration unfound numbered moment id⟩
  | conflict moment message statement =>
    exact (ensures_bind _ _).mpr (ensures_say_tracing ⟨_, List.append_assoc .., rfl,
      .recordedElsewhere migration unfound numbered moment message statement⟩)
  | @failed fault _ only other =>
    cases fault with
    | duplicateRecord message statement => exact absurd rfl (other message statement)
    | _ => exact ⟨events, rfl, .failed only⟩

/-- Once the application of a migration has returned, it is recorded or found recorded. -/
theorem finish_adds (calm : failures earlier = [])
    (applied : lastDealing? earlier = some (.asked (.apply migration) (.ok ()))) :
    (repository.finish migration.identifier batch (.ok ())).Ensures
      (repository.strictProtocol candidates)
      (Adds (fun record more => repository.PassesOnward batch number migration count record
        (.asked (.apply migration) (.ok ()) :: more)) obstacle earlier) earlier := by
  simp only [finish, ensures_bind, ensures_attempt]
  refine (log_adds migration numbered calm applied).imp ?_
  rintro result _ ⟨events, rfl, logs⟩
  exact settle_adds numbered unfound logs

/-- A migration may be applied directly after it was looked up and not found. -/
theorem apply_adds (member : .migration migration ∈ candidates) (calm : failures earlier = [])
    (looked : lastDealing? earlier =
      some (.asked (repository.countRequest migration.identifier) (.ok count))) :
    (attempt (request (.apply migration)) >>=
      repository.finish migration.identifier batch).Ensures (repository.strictProtocol candidates)
      (Adds (repository.PassesOnward batch number migration count) obstacle earlier) earlier := by
  simp only [ensures_bind, ensures_attempt]
  refine ensures_request_tracing ⟨calm, ?_, ?_⟩ fun answer _ => ?_
  · rintro _ ⟨⟩
    exact ⟨member, count, unfound, looked⟩
  · rintro _ _ ⟨⟩
  cases answer with
  | error fault =>
    exact finish_adds_failed
  | ok answer =>
    refine (finish_adds numbered unfound (failures_concat calm rfl) ?_).imp
      fun result later adds => adds.prepend rfl fun record more onward => onward
    rw [lastDealing?_concat]
    rfl

end Stages

/-- What is no migration is passed over, unless it cannot be written out. -/
theorem notMigration_adds (batch : Int) {candidate : Candidate} {obstacle : List Event → Prop}
    (other : candidate.migration? = none)
    (stands : ∀ fault, candidate.quoted = .error fault → fault = .badValue ∧ obstacle []) :
    (do
      say (.notMigration (← ofExcept candidate.quoted))
      return none : Program (Option Record)).Ensures (repository.strictProtocol candidates)
      (Adds (fun record events => repository.Passes batch candidate events record) obstacle earlier)
      earlier := by
  rw [ensures_bind, ensures_ofExcept]
  cases quoted : candidate.quoted with
  | error fault =>
    obtain ⟨bad, stands⟩ := stands fault quoted
    exact ⟨[], (List.append_nil _).symm, .unworded bad rfl stands⟩
  | ok text =>
    exact (ensures_bind _ _).mpr (ensures_say_tracing ⟨_, rfl, rfl, .notMigration other quoted⟩)

theorem applyCandidate_adds (batch : Int) (candidate : Candidate) (member : candidate ∈ candidates)
    (calm : failures earlier = []) :
    (repository.applyCandidate batch candidate).Ensures (repository.strictProtocol candidates)
      (Adds (fun record events => repository.Passes batch candidate events record)
        (fun _ => ¬ (IsNumbered batch ∧ Spoken candidates)) earlier) earlier := by
  cases candidate with
  | type migration => exact notMigration_adds batch rfl (by rintro _ ⟨⟩)
  | value other =>
    refine notMigration_adds batch rfl fun fault quoted => ?_
    obtain ⟨unwritten, bad⟩ := Value.written_eq_error.mp quoted
    exact ⟨bad, fun worded => absurd (worded.2 other member) (by simp [unwritten])⟩
  | migration migration =>
    rw [applyCandidate_migration]
    refine ensures_bind_adds calm (hasRun_adds migration.identifier calm) ?_
    rintro found _ still ⟨count, rfl, tells⟩
    cases found with
    | true =>
      have found : FindsSome count := by simpa using tells
      exact (ensures_bind _ _).mpr
        (ensures_say_tracing ⟨_, rfl, rfl, .alreadyApplied migration found⟩)
    | false =>
      have unfound : FindsNone count := by simpa using tells
      rw [if_neg Bool.false_ne_true, ensures_bind, ensures_ofExcept]
      cases numbered : (Value.int batch).shown with
      | error fault =>
        obtain ⟨unwritten, rfl⟩ := Value.shown_eq_error.mp numbered
        refine ⟨[], (List.append_nil _).symm, .unworded rfl rfl fun worded => ?_⟩
        exact absurd worded.1 (by simp [IsNumbered, unwritten])
      | ok number =>
        refine (ensures_bind _ _).mpr (ensures_say_tracing ?_)
        refine (apply_adds numbered unfound member (failures_concat still rfl) ?_).imp
          fun result later adds => adds.prepend rfl fun record more onward => onward
        rw [lastDealing?_concat, lastDealing?_concat]
        rfl

/-- A run keeps to its discipline through all candidates. -/
theorem applyAll_adds (batch : Int) (rest : List Candidate) (members : rest ⊆ candidates)
    (calm : failures earlier = []) :
    (repository.applyAll batch rest).Ensures (repository.strictProtocol candidates)
      (Adds (fun records events => repository.PassesAll batch rest events records)
        (fun _ => ¬ (IsNumbered batch ∧ Spoken candidates)) earlier) earlier := by
  induction rest generalizing earlier with
  | nil => exact ensures_pure_adds .nil
  | cons candidate rest ih =>
    obtain ⟨member, members⟩ := List.cons_subset.mp members
    refine ensures_bind_adds calm (applyCandidate_adds batch candidate member calm) ?_
    intro record events still passes
    refine ensures_bind_adds still (ih members still) ?_
    intro records others _ onward
    exact ensures_pure_adds (by simpa using .cons passes onward)

/-! ## The tracking table -/

/-- Whether a program keeps to the discipline and passes over no candidate. -/
def IsQuiet {α : Type} (repository : Repository) (candidates : List Candidate)
    (program : Program α) : Prop :=
  ∀ earlier, failures earlier = [] →
    program.Ensures (repository.strictProtocol candidates)
      (Adds (fun _ events => skipped events = 0) (fun _ => False) earlier) earlier

section Quiet

variable {α β : Type}

theorem quiet_pure (value : α) : repository.IsQuiet candidates (pure value) :=
  fun _ _ => ensures_pure_adds rfl

theorem quiet_say {notice : Notice} (other : skipped [.noted notice] = 0) :
    repository.IsQuiet candidates (say notice) :=
  fun _ _ => ensures_say_tracing ⟨_, rfl, rfl, other⟩

/-- A free request is quiet, if its answer is taken as it is. -/
theorem quiet_request {request : Request} (free : request.isFree = true)
    (plain : ∀ answer, (Event.asked request answer).failure? = fault? answer) :
    repository.IsQuiet candidates (Program.request request) := by
  intro earlier calm
  refine ensures_request_tracing (permitted_of_calm calm free) fun answer _ => ?_
  cases answer with
  | error fault =>
    refine ⟨_, rfl, .failed ?_⟩
    rw [endings_singleton, Event.ending?, plain]
    cases request with
    | apply migration => cases free
    | _ => rfl
  | ok answer => exact ⟨_, rfl, by rw [failures_singleton, plain]; rfl, rfl⟩

theorem IsQuiet.bind {program : Program α} {next : α → Program β}
    (first : repository.IsQuiet candidates program)
    (second : ∀ value, repository.IsQuiet candidates (next value)) :
    repository.IsQuiet candidates (program >>= next) := by
  intro earlier calm
  refine ensures_bind_adds calm (first earlier calm) fun value events still none => ?_
  refine (second value _ still).imp fun result later adds => adds.imp (fun _ more further => ?_)
    fun _ => id
  rw [skipped_append, none, further]

end Quiet

/-- Creating a table whose declaration compiles to a statement is quiet, as long as compiling notes
nothing. -/
theorem quiet_create {schema : Schema} {table statement : String} {declaration : Declaration}
    {declared closed : Blueprint}
    (declares : declaration (schema.blueprint table) = ⟨.ok (), declared, []⟩)
    (compiles : declared.toCreate schema.options = ⟨.ok (some statement), closed, []⟩) :
    repository.IsQuiet candidates (schema.create table declaration) := by
  simp only [Schema.create, declares, compiles, Schema.compiled, sayAll, pure_bind]
  refine (quiet_request rfl (by rintro (_ | _) <;> rfl)).bind fun present => ?_
  cases present with
  | true => exact (quiet_say rfl).bind fun _ => quiet_pure false
  | false =>
    refine (quiet_request rfl (by rintro (_ | _) <;> rfl)).bind fun _ => ?_
    exact (quiet_say rfl).bind fun _ => quiet_pure true

theorem quiet_ensureTable : repository.IsQuiet candidates repository.ensureTable := by
  obtain ⟨fragments, compiles⟩ := repository.declared_toCreate repository.schema.options
  refine (quiet_create repository.definition_eq compiles).bind fun created => ?_
  cases created with
  | true => exact quiet_say rfl
  | false => exact quiet_pure ()

/-- The batch of a run is computed from one answer. -/
theorem currentBatch_adds {obstacle : List Event → Prop} (calm : failures earlier = []) :
    repository.currentBatch.Ensures (repository.strictProtocol candidates)
      (Adds (fun largest events => skipped events = 0 ∧
        ∃ event ∈ events, event.batch? = some (largest + 1)) obstacle earlier) earlier := by
  refine (requestNumber_adds repository.batchQuery none calm).imp fun result later adds =>
    adds.imp ?_ fun _ => id
  rintro largest _ ⟨value, read, rfl⟩
  refine ⟨rfl, _, List.mem_singleton_self _, ?_⟩
  change value.counted.toOption.map (· + 1) = _
  rw [read]
  rfl

/-! ## The whole run -/

/-- What a run that returns adds: the ways past all candidates, and around them nothing that passes
over any. -/
def PassesWhole (repository : Repository) (candidates : List Candidate) (records : List Record)
    (events : List Event) : Prop :=
  ∃ batch opening middle closing, events = opening ++ middle ++ [.noted closing] ∧
    skipped opening = 0 ∧ skipped [.noted closing] = 0 ∧
      repository.PassesAll batch candidates middle records

theorem closing_adds {batch : Int} {records : List Record} {fits : List Record → List Event → Prop}
    (returns : ∀ notice, skipped [.noted notice] = 0 → fits records [.noted notice]) :
    (closing batch records).Ensures (repository.strictProtocol candidates)
      (Adds fits (fun _ => ¬ (IsNumbered batch ∧ Spoken candidates)) earlier) earlier := by
  unfold closing
  split
  · exact (ensures_bind _ _).mpr (ensures_say_tracing ⟨_, rfl, rfl, returns _ rfl⟩)
  · rw [ensures_bind, ensures_ofExcept]
    cases numbered : (Value.int batch).shown with
    | error fault =>
      obtain ⟨unwritten, rfl⟩ := Value.shown_eq_error.mp numbered
      refine ⟨[], (List.append_nil _).symm, .unworded rfl rfl fun worded => ?_⟩
      exact absurd worded.1 (by simp [IsNumbered, unwritten])
    | ok number => exact (ensures_bind _ _).mpr (ensures_say_tracing ⟨_, rfl, rfl, returns _ rfl⟩)

theorem runMigrations_adds (calm : failures earlier = []) :
    (repository.runMigrations candidates).Ensures (repository.strictProtocol candidates)
      (Adds (repository.PassesWhole candidates) (Hinders candidates) earlier) earlier := by
  refine ensures_bind_adds calm ((quiet_ensureTable earlier calm).imp fun result later adds =>
    adds.imp (fun _ _ => id) fun _ => False.elim) fun _ first still none => ?_
  refine ensures_bind_adds still (currentBatch_adds still) ?_
  rintro largest second still ⟨unskipped, computed⟩
  have hinders (more : List Event) (obstacle : ¬ (IsNumbered (largest + 1) ∧ Spoken candidates)) :
      Hinders candidates (first ++ (second ++ more)) := by
    obtain ⟨event, member, batch⟩ := computed
    exact ⟨largest + 1, ⟨event, by simp [member], batch⟩, obstacle⟩
  refine ensures_bind_adds still
    ((applyAll_adds (largest + 1) candidates (List.Subset.refl candidates) still).imp
      fun result later adds => adds.imp (fun _ _ => id) hinders) ?_
  intro records middle _ passes
  have opening : skipped (first ++ second) = 0 := by
    rw [skipped_append, none, unskipped]
  refine (closing_adds fun notice unskipped => ?_).imp fun result later adds =>
    adds.imp (fun _ _ => id) fun more obstacle => hinders (middle ++ more) obstacle
  exact ⟨largest + 1, first ++ second, middle, notice, by simp, opening, unskipped, passes⟩

theorem PassesWhole.balance {records : List Record} {events : List Event}
    (whole : repository.PassesWhole candidates records events) :
    skipped events + records.length = candidates.length := by
  obtain ⟨batch, opening, middle, closing, rfl, first, last, passes⟩ := whole
  have balanced := passes.balance
  simp only [skipped_append]
  omega

section Ending

variable {α : Type} {fits : α → List Event → Prop} {obstacle : List Event → Prop}
  {result : Except Fault α} {events : List Event}

/-- What comes up in a part of a run ends it. -/
theorem Adds.failure (adds : Adds fits obstacle [] result events) {fault : Fault}
    (comes : ∃ event ∈ events, event.ending? = some fault) : result = .error fault := by
  rw [← List.mem_filterMap] at comes
  change fault ∈ endings events at comes
  cases result with
  | ok value =>
    obtain ⟨_, rfl, fine, -⟩ := adds
    rw [endings_of_calm fine] at comes
    cases comes
  | error other =>
    obtain ⟨_, rfl, last | ⟨-, calm, -⟩⟩ := adds
    · rw [last, List.mem_singleton] at comes
      rw [comes]
    · rw [endings_of_calm calm] at comes
      cases comes

/-- A part of a run ends with what comes up in it, or with an obstacle. -/
theorem Adds.cause {fault : Fault} (adds : Adds fits obstacle [] (.error fault) events) :
    (∃ event ∈ events, event.ending? = some fault) ∨
      fault = .badValue ∧ failures events = [] ∧ obstacle events := by
  obtain ⟨_, rfl, last | ⟨bad, calm, stands⟩⟩ := adds
  · left
    rw [← List.mem_filterMap]
    change fault ∈ endings _
    rw [last]
    exact List.mem_singleton_self fault
  · exact .inr ⟨bad, calm, stands⟩

end Ending

/-- A run of migrations keeps to its discipline, whatever its requests and its applications are
answered. -/
theorem runMigrations_disciplined {State : Type} {world : World State}
    (clock : ∀ state, ∃ moment, (world.respond .now state).answer = .ok moment)
    (repository : Repository) (candidates : List Candidate) (state : State) :
    repository.Disciplined candidates ((repository.runMigrations candidates).trace world state)
      ((repository.runMigrations candidates).run world state).result := by
  have reckoned (request : Request) (state : State) :
      Reckoned (world.exchange request state).event := by
    cases request with
    | now => exact clock state
    | _ => trivial
  have ensures : (repository.runMigrations candidates).Ensures
      (repository.strictProtocol candidates)
      (Adds (repository.PassesWhole candidates) (Hinders candidates) []) [] :=
    runMigrations_adds rfl
  obtain ⟨adds, permitted⟩ := ensures.traced (fun _ => trivial) reckoned state
  rw [List.nil_append] at adds
  constructor
  case permitted => exact permitted
  case failure => exact fun fault => adds.failure
  case raised =>
    intro migration fault came
    have ends := adds.failure ⟨_, came, rfl⟩
    refine ⟨ends, ?_⟩
    rw [ends, Except.error.injEq]
    exact fault.reported_eq_self_iff
  case cause =>
    intro fault failed
    rw [failed] at adds
    exact adds.cause
  case passed =>
    intro records returned
    rw [returned] at adds
    obtain ⟨_, same, -, batch, opening, middle, closing, whole, -, -, passes⟩ := adds
    exact ⟨batch, opening, middle, closing, same.trans whole, passes⟩
  case balance =>
    intro records returned
    rw [returned] at adds
    obtain ⟨_, same, -, whole⟩ := adds
    rw [same]
    exact whole.balance

/-- A world that changes its mind about what is recorded: the first count is null, the second is one,
any further is a text, and a record is refused after the first count only. Its state is the number
of counts so far. -/
def fickle : World Nat where
  respond
    | .hasTable _, counts => ⟨.ok true, [], counts⟩
    | .execute _, counts => ⟨.ok (), [], counts⟩
    | .queryScalar _ none, counts => ⟨.ok .null, [], counts⟩
    | .queryScalar _ (some _), 0 => ⟨.ok .null, [], 1⟩
    | .queryScalar _ (some _), 1 => ⟨.ok (.int 1), [], 2⟩
    | .queryScalar _ (some _), counts => ⟨.ok (.text "0"), [], counts + 1⟩
    | .queryRows _, counts => ⟨.ok [], [], counts⟩
    | .insert .., 1 => ⟨.error (.duplicateRecord "Duplicate entry" none), [], 1⟩
    | .insert .., counts => ⟨.ok (.int 7), [], counts⟩
    | .now, counts => ⟨.ok ScriptedWorld.fresh.clock, [], counts⟩
    | .apply _, counts => ⟨.ok (), [], counts⟩

/-- One candidate for each of the four ways. -/
def fourCandidates : List Candidate :=
  [.migration ScriptedWorld.createUsers, .value .null, .migration ScriptedWorld.createUsers,
    .migration ScriptedWorld.createUsers]

/-- A run that meets all four ways returns the one record that it made. -/
theorem fickle_disciplined :
    ((ScriptedWorld.tracking.runMigrations fourCandidates).run fickle 0).result =
      .ok [⟨.text ScriptedWorld.createUsers.identifier, 1, some ScriptedWorld.fresh.clock,
        .int 7⟩] ∧
    ScriptedWorld.tracking.Disciplined fourCandidates
      ((ScriptedWorld.tracking.runMigrations fourCandidates).trace fickle 0)
      ((ScriptedWorld.tracking.runMigrations fourCandidates).run fickle 0).result :=
  ⟨rfl, runMigrations_disciplined (fun _ => ⟨_, rfl⟩) _ _ _⟩

/-- A world in which every application fails with a fault that has no wording. -/
def wordless : World Nat where
  respond
    | .apply _, counts => ⟨.error (.wordless "KeyError" .badValue), [], counts⟩
    | other, counts => fickle.respond other counts

/-- The fault of a migration does not reach the caller if it has no wording. -/
theorem wordless_replaced :
    let program := ScriptedWorld.tracking.runMigrations [.migration ScriptedWorld.createUsers]
    .asked (.apply ScriptedWorld.createUsers) (.error (.wordless "KeyError" .badValue)) ∈
        program.trace wordless 0 ∧
      (program.run wordless 0).result = .error .badValue ∧
      (program.run wordless 0).result ≠ .error (.wordless "KeyError" .badValue) := by
  intro program
  have raised : (program.run wordless 0).result = .error .badValue := rfl
  have applied : (program.trace wordless 0)[5]? = some (.asked
      (.apply ScriptedWorld.createUsers) (.error (.wordless "KeyError" .badValue))) := rfl
  refine ⟨List.mem_of_getElem? applied, raised, ?_⟩
  rw [raised]
  rintro ⟨⟩

end Repository

end Tablewright
