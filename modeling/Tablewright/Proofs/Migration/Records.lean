import Mathlib.Data.List.Nodup
import Tablewright.Migration.Tracker
import Tablewright.Proofs.Program.Ensures

/-! # The contract of a record store

A run of migrations asks for six things of its world, apart from applying migrations. Of a store it
relies on little: counts and the largest batch are those of the rows, a new row is taken exactly if
its migration is not stored yet, and nothing else changes the rows. Under this contract an event
determines the rows after it from the rows before it, so what a run knows is kept as a standing:
the rows as they were seen last and what the run did itself.
-/

namespace Tablewright

/-- Whether records hold one of the migration. -/
def Recorded (records : List Record) (identifier : String) : Prop :=
  Value.text identifier ∈ records.map (·.migration)

instance (records : List Record) (identifier : String) : Decidable (Recorded records identifier) :=
  inferInstanceAs (Decidable (_ ∈ _))

/-- Whether no two records are of one migration. -/
def Distinct (records : List Record) : Prop :=
  (records.map (·.migration)).Nodup

theorem recorded_iff (records : List Record) (identifier : String) :
    Recorded records identifier ↔ ∃ record ∈ records, record.migration = .text identifier := by
  simp [Recorded]

/-- A count is positive exactly if the migration is recorded. -/
theorem recorded_iff_countP (records : List Record) (identifier : String) :
    Recorded records identifier ↔
      0 < records.countP (fun record => decide (record.migration = .text identifier)) := by
  rw [recorded_iff, List.countP_pos_iff]
  simp

/-- A record of a migration that is not recorded yet keeps records distinct. -/
theorem Distinct.concat {records : List Record} {record : Record} {identifier : String}
    (distinct : Distinct records) (unrecorded : ¬ Recorded records identifier)
    (about : record.migration = .text identifier) : Distinct (records ++ [record]) := by
  unfold Distinct
  rw [List.map_append, List.map_singleton, about, ← List.concat_eq_append]
  exact List.Nodup.concat unrecorded distinct

/-- The largest batch of records, zero without records. -/
def largestBatch (records : List Record) : Int :=
  (records.map (·.batch)).max?.getD 0

/-- A run reads the answer about the largest batch as the largest batch. -/
theorem read_largestBatch (records : List Record) :
    (((((records.map (·.batch)).max?.map Value.int).getD .null).orElse (.int 0)).toInteger) =
      .ok (largestBatch records) := by
  unfold largestBatch
  cases (records.map (·.batch)).max? with
  | none => rfl
  | some batch =>
    by_cases zero : batch = 0 <;> simp [Value.orElse, Value.isTruthy, Value.toInteger, zero]

/-- The migration of an application that returned. -/
def Event.returned? : Event → Option String
  | .asked (.apply migration) (.ok _) => some migration.identifier
  | _ => none

/-- The record that a store took. -/
def Event.added? : Event → Option Record
  | .asked (.insert _ [(_, migration), (_, .int batch), (_, .dateTime moment)]) (.ok id) =>
    some ⟨migration, batch, some moment, id⟩
  | _ => none

/-- The batch that a run computes from the largest one so far. -/
def Event.batch? : Event → Option Int
  | .asked (.queryScalar _ none) (.ok largest) =>
    (largest.orElse (.int 0)).toInteger.toOption.map (· + 1)
  | _ => none

/-- Whether an event is as the contract has it for a store with the records. -/
def Event.Keeps (records : List Record) : Event → Prop
  | .asked (.queryScalar _ (some [(_, .text identifier)])) answer =>
    answer = .ok (.int (records.countP (·.migration = .text identifier)))
  | .asked (.queryScalar _ none) answer =>
    answer = .ok (((records.map (·.batch)).max?.map Value.int).getD .null)
  | .asked (.insert _ ((_, .text identifier) :: _)) answer =>
    if Recorded records identifier then
      ∃ message statement, answer = .error (.duplicateRecord message statement)
    else ∃ id, answer = .ok id
  | .asked .now answer => ∃ moment, answer = .ok moment
  | _ => True

namespace Repository

/-- The request that counts the rows of a migration. -/
def countRequest (repository : Repository) (identifier : String) : Request :=
  .queryScalar repository.countQuery (some [("migration", .text identifier)])

/-- The request for the largest batch. -/
def batchRequest (repository : Repository) : Request :=
  .queryScalar repository.batchQuery none

/-- The request that records a migration. -/
def recordRequest (repository : Repository) (identifier : String) (batch : Int)
    (moment : DateTime) : Request :=
  .insert repository.tableName
    [("migration", .text identifier), ("batch", .int batch), ("created_at", .dateTime moment)]

/-- What creating the tracking table asks for. -/
inductive AsksForTable (repository : Repository) : Request → Prop
  | exists : AsksForTable repository (.hasTable repository.tableName)
  | create (options : String) (fragments : List String) :
    AsksForTable repository
      (.execute (createText repository.tableName options fragments))

/-- What a run of migrations asks for. -/
inductive Asks (repository : Repository) : Request → Prop
  | table {request : Request} (asked : repository.AsksForTable request) : Asks repository request
  | count (identifier : String) : Asks repository (repository.countRequest identifier)
  | batch : Asks repository repository.batchRequest
  | now : Asks repository .now
  | apply (migration : Migration) : Asks repository (.apply migration)
  | record (identifier : String) (batch : Int) (moment : DateTime) :
    Asks repository (repository.recordRequest identifier batch moment)

end Repository

/-- A world whose store keeps the contract for a tracking table in the usable states: it answers by
its rows, and no request but the application of a migration changes them otherwise than by the
record that it takes. An application may do anything that leaves the state usable. -/
structure World.AnswersRecords {State : Type} (world : World State) (repository : Repository)
    (usable : State → Prop) (stored : State → List Record) : Prop where
  stays : ∀ state request, usable state → repository.Asks request →
    usable (world.respond request state).state
  answers : ∀ state request, usable state → repository.Asks request →
    (world.exchange request state).event.Keeps (stored state)
  takes : ∀ state request, usable state → repository.Asks request →
    (∀ migration, request ≠ .apply migration) →
      stored (world.respond request state).state =
        stored state ++ (world.exchange request state).event.added?.toList

/-- A world that keeps the contract, and in which applying a migration leaves the stored rows
alone. -/
structure World.KeepsRecords {State : Type} (world : World State) (repository : Repository)
    (usable : State → Prop) (stored : State → List Record) : Prop
    extends World.AnswersRecords world repository usable stored where
  leaves : ∀ state migration, usable state →
    stored (world.respond (.apply migration) state).state = stored state

/-- Where applications leave the rows alone, nothing but a record that is taken changes them. -/
theorem World.KeepsRecords.stores {State : Type} {world : World State} {repository : Repository}
    {usable : State → Prop} {stored : State → List Record}
    (keeps : world.KeepsRecords repository usable stored) (state : State) (request : Request)
    (ready : usable state) (asks : repository.Asks request) :
    stored (world.respond request state).state =
      stored state ++ (world.exchange request state).event.added?.toList := by
  cases asks with
  | apply migration => exact (keeps.leaves state migration ready).trans (List.append_nil _).symm
  | table asked => exact keeps.takes state _ ready (.table asked) (by cases asked <;> rintro _ ⟨⟩)
  | count identifier => exact keeps.takes state _ ready (.count identifier) (by rintro _ ⟨⟩)
  | batch => exact keeps.takes state _ ready .batch (by rintro _ ⟨⟩)
  | now => exact keeps.takes state _ ready .now (by rintro _ ⟨⟩)
  | record identifier batch moment =>
    exact keeps.takes state _ ready (.record identifier batch moment) (by rintro _ ⟨⟩)

/-! ## A store of rows -/

namespace RowStore

/-- Takes a record, unless one of its migration is stored. -/
def take (rows : List Record) (record : Record) : List Record :=
  if record.migration ∈ rows.map (·.migration) then rows else rows ++ [record]

/-- The row of a record. -/
def row (record : Record) : Row :=
  [("id", record.id), ("migration", record.migration), ("batch", .int record.batch),
    ("created_at", record.createdAt.elim .null .dateTime)]

/-- A world whose state is the rows of a tracking table, where each new row gets the next number. An
application returns at once, and may record another migration by itself. -/
def world (clock : DateTime) (aside : Migration → Option Record) : World (List Record) where
  respond
    | .hasTable _, rows => ⟨.ok true, [], rows⟩
    | .execute _, rows => ⟨.ok (), [], rows⟩
    | .queryScalar _ (some [(_, migration)]), rows =>
      ⟨.ok (.int (rows.countP (·.migration = migration))), [], rows⟩
    | .queryScalar _ (some _), rows => ⟨.ok .null, [], rows⟩
    | .queryScalar _ none, rows =>
      ⟨.ok (((rows.map (·.batch)).max?.map Value.int).getD .null), [], rows⟩
    | .queryRows _, rows => ⟨.ok (rows.map row), [], rows⟩
    | .insert _ [(_, migration), (_, .int batch), (_, .dateTime moment)], rows =>
      if migration ∈ rows.map (·.migration) then
        ⟨.error (.duplicateRecord "Duplicate entry" none), [], rows⟩
      else
        let id : Value := .int (rows.length + 1)
        ⟨.ok id, [], rows ++ [⟨migration, batch, some moment, id⟩]⟩
    | .insert .., rows => ⟨.ok .null, [], rows⟩
    | .now, rows => ⟨.ok clock, [], rows⟩
    | .apply migration, rows => ⟨.ok (), [], (aside migration).elim rows (take rows)⟩

variable (clock : DateTime) (aside : Migration → Option Record) (repository : Repository)

theorem respond_record (rows : List Record) (identifier : String) (batch : Int)
    (moment : DateTime) :
    let request := repository.recordRequest identifier batch moment
    (Recorded rows identifier ∧ (world clock aside).respond request rows =
        ⟨.error (.duplicateRecord "Duplicate entry" none), [], rows⟩) ∨
      (¬ Recorded rows identifier ∧ (world clock aside).respond request rows =
        ⟨.ok (.int (rows.length + 1)), [],
          rows ++ [⟨.text identifier, batch, some moment, .int (rows.length + 1)⟩]⟩) := by
  by_cases recorded : Recorded rows identifier
  · exact .inl ⟨recorded, if_pos recorded⟩
  · exact .inr ⟨recorded, if_neg recorded⟩

/-- The rows are a store that keeps the contract, whatever applications record by themselves. -/
theorem answersRecords :
    (world clock aside).AnswersRecords repository (fun _ => True) id where
  stays _ _ _ _ := trivial
  answers rows request _ asks := by
    cases asks with
    | table asked => cases asked <;> trivial
    | apply migration => trivial
    | count identifier | batch => rfl
    | now => exact ⟨clock, rfl⟩
    | record identifier batch moment =>
      change if Recorded rows identifier then _ else _
      obtain ⟨recorded, same⟩ | ⟨unrecorded, same⟩ :=
        respond_record clock aside repository rows identifier batch moment
      · rw [if_pos recorded]
        exact ⟨_, _, congrArg Reaction.answer same⟩
      · rw [if_neg unrecorded]
        exact ⟨_, congrArg Reaction.answer same⟩
  takes rows request _ asks other := by
    cases asks with
    | table asked => cases asked <;> exact (List.append_nil _).symm
    | apply migration => exact absurd rfl (other migration)
    | count | batch | now => exact (List.append_nil _).symm
    | record identifier batch moment =>
      unfold World.exchange Exchange.event
      obtain ⟨-, same⟩ | ⟨-, same⟩ :=
        respond_record clock aside repository rows identifier batch moment
      · rw [same]
        exact (List.append_nil _).symm
      · rw [same]
        rfl

end RowStore

/-- What is known in a run: the rows seen last, the migrations whose application returned, the
records that the store took, and the batches computed. -/
structure Standing where
  rows : List Record
  returned : List String
  added : List Record
  batches : List Int

namespace Standing

/-- The standing after an event that met the rows. -/
def after (point : Standing) (rows : List Record) (event : Event) : Standing where
  rows := rows ++ event.added?.toList
  returned := point.returned ++ event.returned?.toList
  added := point.added ++ event.added?.toList
  batches := point.batches ++ event.batch?.toList

/-- The standing with other rows. -/
def withRows (point : Standing) (rows : List Record) : Standing :=
  { point with rows := rows }

/-- The protocol of a run against a store that keeps the contract, where the rows may change in some
way between the requests of the run. -/
def protocol (changes : List Record → List Record → Prop)
    (permits : Standing → Request → Prop) : Protocol Standing where
  permits := permits
  follows point event next :=
    match event with
    | .noted _ => next = point
    | .asked .. => ∃ rows, changes point.rows rows ∧ event.Keeps rows ∧ next = point.after rows event

variable {State : Type}

/-- The standing of a run with its exchanges, when it has seen the rows. -/
def of (rows : List Record) (exchanges : List (Exchange State)) : Standing where
  rows := rows
  returned := exchanges.filterMap fun exchange => exchange.event.returned?
  added := exchanges.filterMap fun exchange => exchange.event.added?
  batches := exchanges.filterMap fun exchange => exchange.event.batch?

/-- One more exchange changes a standing as its event does. -/
theorem of_concat (seen rows : List Record) (exchanges : List (Exchange State))
    (exchange : Exchange State) :
    of (rows ++ exchange.event.added?.toList) (exchanges ++ [exchange]) =
      (of seen exchanges).after rows exchange.event := by
  simp only [of, after, List.filterMap_append]
  rfl

end Standing

end Tablewright
