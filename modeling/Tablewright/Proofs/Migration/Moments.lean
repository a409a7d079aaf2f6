import Tablewright.Proofs.Calendar.Iso
import Tablewright.Proofs.Migration.Memory
import Tablewright.Proofs.Migration.Readings

/-! # Recorded moments survive drivers that return text

A driver may return a moment as a moment or as a text of it. Both are read as the moment, so records
come back as they were answered when they were made, whatever the driver does with each row. There
is one exception: a moment whose distance from universal time is a fraction of a second alone is
lost in its texts. A clock that tells local time, without a distance, never tells such a moment.
-/

namespace Tablewright

open Program

/-! ## Moments in cells -/

/-- How a driver may return a cell: as it was inserted, or, if it is a moment, as one of its
texts. -/
inductive Value.ReturnedAs : Value → Value → Prop
  | kept (cell : Value) : ReturnedAs cell cell
  | spaced (moment : DateTime) : ReturnedAs (.dateTime moment) (.text moment.text)
  | lettered (moment : DateTime) : ReturnedAs (.dateTime moment) (.text moment.isoText)

/-- Whether a moment is read as it is, from itself and from both of its texts. -/
def DateTime.SurvivesText (moment : DateTime) : Prop :=
  ∀ cell, (Value.dateTime moment).ReturnedAs cell → readMoment cell = .ok (some moment)

/-- A text of a moment is read as the moment, but for an offset of less than a second. -/
theorem readMoment_isoChars (moment : DateTime) (separator : Char) :
    readMoment (.text (String.ofList (moment.isoChars separator))) = .ok (some moment.reread) :=
  readMoment_text (DateTime.readIso?_isoChars_eq ..)

theorem DateTime.survivesText_iff {moment : DateTime} :
    moment.SurvivesText ↔ moment.IsRetained := by
  rw [← reread_eq_iff]
  constructor
  · intro survives
    have read := (readMoment_isoChars moment ' ').symm.trans (survives _ (.spaced moment))
    exact Option.some.inj (Except.ok.inj read)
  · intro retained cell returned
    have written (separator : Char) := readMoment_isoChars moment separator
    rw [retained] at written
    cases returned with
    | kept => rfl
    | spaced => exact written ' '
    | lettered => exact written 'T'

/-! ## Rows that come back -/

/-- Whether a row is returned for values that were inserted under an id. -/
structure Row.Returns (row : Row) (id : Value) (values : Row) : Prop where
  id : row.lookup "id" = some id
  cells : ∀ entry ∈ values, ∃ cell, row.lookup entry.1 = some cell ∧ entry.2.ReturnedAs cell

/-- A record is made again from a row that is returned for it. -/
theorem Row.Returns.ofRow {row : Row} {id : Value} {identifier : String} {batch : Int}
    {moment : DateTime}
    (returns : row.Returns id [("migration", .text identifier), ("batch", .int batch),
      ("created_at", .dateTime moment)])
    (retained : moment.IsRetained) :
    Record.ofRow row = .ok ⟨.text identifier, batch, some moment, id⟩ := by
  obtain ⟨named, cells⟩ := returns
  simp only [List.forall_mem_cons] at cells
  obtain ⟨⟨_, about, ⟨⟩⟩, ⟨_, numbered, ⟨⟩⟩, ⟨cell, dated, moved⟩, -⟩ := cells
  have read : readMoment cell = .ok (some moment) :=
    DateTime.survivesText_iff.mpr retained cell moved
  exact Record.ofRow_eq named about numbered dated read

/-! ## Calls that record -/

section Log

variable {State : Type} {world : World State} {repository : Repository} {identifier : String}
  {batch : Int} {state : State}

/-- Recording fails where the clock does. -/
theorem Repository.log_result_of_error {fault : Fault}
    (told : (world.respond .now state).answer = .error fault) :
    ((repository.log identifier batch).run world state).result = .error fault := by
  unfold log
  rw [result_request_bind, told]

/-- At the moment that the clock tells, recording answers the record with the id of its row, if the
number of the batch can be written. -/
theorem Repository.log_result {moment : DateTime}
    (told : (world.respond .now state).answer = .ok moment) :
    ((repository.log identifier batch).run world state).result =
      (world.respond (repository.recordRequest identifier batch moment.wholeSecond)
        (world.respond .now state).state).answer >>= fun id =>
          (Value.int batch).shown.map fun _ =>
            ⟨.text identifier, batch, some moment.wholeSecond, id⟩ := by
  unfold log recordRequest
  rw [result_request_bind, told]
  refine (result_request_bind ..).trans ?_
  split
  · rename_i id inserted
    rw [inserted]
    cases (Value.int batch).shown <;> rfl
  · rename_i fault refused
    rw [refused]
    rfl

/-- At the moment that the clock tells, recording inserts one row. -/
theorem Repository.log_exchanges {moment : DateTime}
    (told : (world.respond .now state).answer = .ok moment) :
    (repository.log identifier batch).exchanges world state =
      [world.exchange .now state,
        world.exchange (repository.recordRequest identifier batch moment.wholeSecond)
          (world.respond .now state).state] := by
  unfold log
  rw [exchanges_request_bind, told]
  refine congrArg (List.cons _) ((exchanges_request_bind ..).trans ?_)
  refine congrArg (List.cons _) ?_
  split
  · cases (Value.int batch).shown <;> rfl
  · rfl

/-- At the moment that the clock tells, recording leaves the state that the insertion leaves. -/
theorem Repository.log_state {moment : DateTime}
    (told : (world.respond .now state).answer = .ok moment) :
    ((repository.log identifier batch).run world state).state =
      (world.respond (repository.recordRequest identifier batch moment.wholeSecond)
        (world.respond .now state).state).state := by
  unfold log
  rw [state_request_bind, told]
  refine (state_request_bind ..).trans ?_
  split
  · cases (Value.int batch).shown <;> rfl
  · rfl

end Log

/-- A call that records a migration, in some state of its world. -/
structure LogCall (State : Type) where
  identifier : String
  batch : Int
  state : State

namespace LogCall

variable {State : Type}

/-- What a call answers. -/
def answer (call : LogCall State) (world : World State) (repository : Repository) :
    Except Fault Record :=
  ((repository.log call.identifier call.batch).run world call.state).result

/-- Whether a row is returned for what a call inserted. -/
def IsReturned (call : LogCall State) (world : World State) (repository : Repository)
    (row : Row) : Prop :=
  ∃ exchange ∈ (repository.log call.identifier call.batch).exchanges world call.state,
    ∃ values id, exchange.event = .asked (.insert repository.tableName values) (.ok id) ∧
      row.Returns id values

/-- The state that a call leaves. -/
def after (call : LogCall State) (world : World State) (repository : Repository) : State :=
  ((repository.log call.identifier call.batch).run world call.state).state

variable {call : LogCall State} {world : World State} {repository : Repository} {record : Record}

/-- The record that a call answered is made again from a row that is returned for it. -/
theorem IsReturned.ofRow {row : Row} (returned : call.IsReturned world repository row)
    (answered : call.answer world repository = .ok record)
    (retained : ∀ moment ∈ record.createdAt, moment.IsRetained) :
    Record.ofRow row = .ok record := by
  obtain ⟨exchange, member, values, id, event, returns⟩ := returned
  cases told : (world.respond .now call.state).answer with
  | error fault => cases answered.symm.trans (Repository.log_result_of_error told)
  | ok moment =>
    rw [answer, Repository.log_result told] at answered
    rw [Repository.log_exchanges told, List.mem_pair] at member
    obtain ⟨answer, inserted, answered⟩ := bind_eq_ok.mp answered
    obtain ⟨_, -, rfl⟩ := map_eq_ok.mp answered
    rcases member with rfl | rfl
    · cases event
    · rw [Exchange.event, World.exchange, inserted] at event
      cases event
      exact returns.ofRow (retained _ rfl)

/-- The records that calls answered are made again from rows that are returned for them. -/
theorem forall₂_ofRow {calls : List (LogCall State)} {records : List Record} {rows : List Row}
    (made : List.Forall₂ (fun call record => call.answer world repository = .ok record) calls
      records)
    (returned : List.Forall₂ (fun row call => call.IsReturned world repository row) rows calls)
    (retained : ∀ record ∈ records, ∀ moment ∈ record.createdAt, moment.IsRetained) :
    List.Forall₂ (fun row record => Record.ofRow row = .ok record) rows records := by
  induction returned generalizing records with
  | nil =>
    cases made
    exact .nil
  | cons first others ih =>
    cases made with
    | cons answered made =>
      obtain ⟨here, there⟩ := List.forall_mem_cons.mp retained
      exact .cons (first.ofRow answered here) (ih made there)

end LogCall

/-! ## Reading what was recorded -/

/-- A moment is read from itself and from both of its texts exactly if its offset is retained. So
records are read as the calls that made them answered them, if the rows that are returned are those
that the calls inserted, in the order of the calls or in any other, whether with moments or with
texts of them. -/
theorem loggedMoments_survive :
    (∀ moment : DateTime, moment.SurvivesText ↔ moment.IsRetained) ∧
      ∀ {State : Type} {world : World State} {repository : Repository}
        {calls : List (LogCall State)} {records : List Record} {rows : List Row} {later : State},
        List.Forall₂ (fun call record => call.answer world repository = .ok record) calls records →
        (∀ record ∈ records, ∀ moment ∈ record.createdAt, moment.IsRetained) →
        (world.respond (.queryRows repository.rowsQuery) later).answer = .ok rows →
        List.Forall₂ (fun row call => call.IsReturned world repository row) rows calls →
        (repository.applied.run world later).result = .ok records := by
  refine ⟨fun _ => DateTime.survivesText_iff, ?_⟩
  intro State world repository calls records rows later made retained answered returned
  rw [Repository.applied_answered answered, mapM_eq_ok]
  exact LogCall.forall₂_ofRow made returned retained

namespace ScriptedWorld

/-- The world in which the tracker runs, if its driver returns these rows. -/
def returning (rows : List Row) : World ScriptedWorld where
  respond
    | .queryRows _, world => ⟨.ok rows, [], world⟩
    | other, world => full.respond other world

/-- Rows of which one has a text in place of a moment. -/
def mixedRows : List Row :=
  [[("id", .int 1), ("migration", .text "app.CreateUsers"), ("batch", .int 1),
      ("created_at", .text "2024-02-29 00:00:00")],
    recordRow (.int 2) "app.CreateRoles" 1 fresh.clock]

/-- The database in memory, after one call and another in the state that it left, with a driver that
returns a text of the first moment and the second moment itself. -/
theorem mixedRows_survive :
    let world := returning mixedRows
    let users : LogCall ScriptedWorld := ⟨"app.CreateUsers", 1, fresh⟩
    let roles : LogCall ScriptedWorld := ⟨"app.CreateRoles", 1, users.after world tracking⟩
    let records : List Record :=
      [⟨.text "app.CreateUsers", 1, some fresh.clock, .int 1⟩,
        ⟨.text "app.CreateRoles", 1, some fresh.clock, .int 2⟩]
    List.Forall₂ (fun call record => call.answer world tracking = .ok record) [users, roles]
        records ∧
      (tracking.applied.run world (roles.after world tracking)).result = .ok records := by
  intro world users roles records
  have made : List.Forall₂ (fun call record => LogCall.answer call world tracking = .ok record)
      [users, roles] records := .cons (by decide +kernel) (.cons (by decide +kernel) .nil)
  have retained : ∀ record ∈ records, ∀ moment ∈ record.createdAt, moment.IsRetained := by
    have naive : fresh.clock.IsRetained := DateTime.isRetained_of_naive rfl
    simp [records, naive]
  have told : (world.respond .now fresh).answer = .ok fresh.clock := rfl
  have later : roles = ⟨"app.CreateRoles", 1,
      (world.respond (tracking.recordRequest "app.CreateUsers" 1 fresh.clock.wholeSecond)
        (world.respond .now fresh).state).state⟩ :=
    congrArg (LogCall.mk "app.CreateRoles" 1) (Repository.log_state told)
  have returned : List.Forall₂ (fun row call => LogCall.IsReturned call world tracking row)
      mixedRows [users, roles] := by
    rw [later]
    refine .cons ⟨_, List.mem_cons_of_mem _ List.mem_cons_self, _, _, rfl, rfl, ?_⟩
      (.cons ⟨_, List.mem_cons_of_mem _ List.mem_cons_self, _, _, rfl, rfl, ?_⟩ .nil)
    · simp only [List.forall_mem_cons]
      exact ⟨⟨_, rfl, .kept _⟩, ⟨_, rfl, .kept _⟩, ⟨_, rfl, .spaced fresh.clock⟩, nofun⟩
    · simp only [List.forall_mem_cons]
      exact ⟨⟨_, rfl, .kept _⟩, ⟨_, rfl, .kept _⟩, ⟨_, rfl, .kept _⟩, nofun⟩
  exact ⟨made, loggedMoments_survive.2 made retained rfl returned⟩

end ScriptedWorld

/-- A moment that is a millionth of a second east of universal time. -/
def DateTime.barelyEast : DateTime :=
  { ScriptedWorld.fresh.clock with offset := some ⟨1, by decide⟩ }

/-- Such a moment is read from both of its texts as another one. -/
theorem DateTime.barelyEast_lost :
    ¬ barelyEast.SurvivesText ∧ ∃ read, readMoment (.text barelyEast.text) = .ok (some read) ∧
      readMoment (.text barelyEast.isoText) = .ok (some read) ∧ barelyEast.same read = false := by
  constructor
  · rw [survivesText_iff]
    intro retained
    rcases retained ⟨1, by decide⟩ rfl with none | whole
    · exact absurd none (by decide)
    · exact absurd whole (by decide)
  · have read (separator : Char) := readMoment_isoChars barelyEast separator
    exact ⟨barelyEast.reread, read ' ', read 'T', by decide⟩

end Tablewright
