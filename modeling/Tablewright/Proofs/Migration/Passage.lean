import Tablewright.Proofs.Migration.Operations

/-! # Ways past a candidate

What a trace of a run of migrations tells: which faults came up, which notices pass over a
candidate, and what the run dealt with last. There are four ways past a candidate, each with its own
events, and in each of them the candidate is either passed over once or recorded.
-/

namespace Tablewright

/-! ## Reading a trace -/

/-- The number that a count or a largest batch is read as; a false value is read as zero. -/
def Value.counted (value : Value) : Except Fault Int :=
  (value.orElse (.int 0)).toInteger

/-- Whether a count tells of no record: it is false, or the whole number in it is not positive. -/
def FindsNone (count : Value) : Prop :=
  count.isTruthy = false ∨ ∃ number ≤ 0, count.toInteger = .ok number

/-- Whether a count tells of a record. -/
def FindsSome (count : Value) : Prop :=
  count.isTruthy = true ∧ ∃ number > 0, count.toInteger = .ok number

theorem findsNone_of_counted {count : Value} {number : Int} (read : count.counted = .ok number)
    (none : ¬ 0 < number) : FindsNone count := by
  cases truthy : count.isTruthy with
  | false => exact .inl truthy
  | true => exact .inr ⟨number, by omega, by simpa [Value.counted, Value.orElse, truthy] using read⟩

theorem findsSome_of_counted {count : Value} {number : Int} (read : count.counted = .ok number)
    (some : 0 < number) : FindsSome count := by
  cases truthy : count.isTruthy with
  | false =>
    have zero : (0 : Int) = number := by
      simpa [Value.counted, Value.orElse, truthy, Value.toInteger] using read
    omega
  | true => exact ⟨truthy, number, some, by simpa [Value.counted, Value.orElse, truthy] using read⟩

/-- The fault of a result. -/
def fault? {α : Type} : Except Fault α → Option Fault
  | .ok _ => none
  | .error fault => some fault

namespace Event

/-- The fault that comes up with an event: a request fails, or there is no number in the answer
where one is needed. -/
def fault? : Event → Option Fault
  | .noted _ => none
  | .asked _ (.error fault) => some fault
  | .asked (.queryScalar ..) (.ok value) => Tablewright.fault? value.counted
  | .asked _ (.ok _) => none

/-- Whether a record is refused as a duplicate. -/
def isConflict : Event → Bool
  | .asked (.insert ..) (.error (.duplicateRecord ..)) => true
  | _ => false

/-- The fault that comes up with an event and is more than a conflict of records. -/
def failure? (event : Event) : Option Fault :=
  if event.isConflict then none else event.fault?

/-- The fault that ends a run with an event. -/
def ending? (event : Event) : Option Fault :=
  event.failure?.map fun fault =>
    match event with
    | .asked (.apply _) _ => fault.reported
    | _ => fault

/-- Whether an event is an exchange with the store or the application of a migration. Notices and
the time are neither. -/
def isDealing : Event → Bool
  | .noted _ => false
  | .asked .now _ => false
  | .asked .. => true

/-- A record that is refused for another reason than a conflict is a failure. -/
theorem failure?_refused {table : String} {values : Row} {fault : Fault}
    (other : ∀ message statement, fault ≠ .duplicateRecord message statement) :
    (Event.asked (.insert table values) (.error fault)).failure? = some fault := by
  cases fault with
  | duplicateRecord message statement => exact absurd rfl (other message statement)
  | _ => rfl

end Event

/-- The failures among events. -/
def failures (events : List Event) : List Fault :=
  events.filterMap Event.failure?

@[simp] theorem failures_append (events others : List Event) :
    failures (events ++ others) = failures events ++ failures others :=
  List.filterMap_append

theorem failures_singleton (event : Event) : failures [event] = event.failure?.toList := by
  cases failed : event.failure? <;> simp [failures, failed]

/-- Calm events stay calm with an event that is no failure. -/
theorem failures_concat {events : List Event} (calm : failures events = []) {event : Event}
    (fine : event.failure? = none) : failures (events ++ [event]) = [] := by
  rw [failures_append, calm, failures_singleton, fine]
  rfl

/-- The faults that end a run among events. -/
def endings (events : List Event) : List Fault :=
  events.filterMap Event.ending?

@[simp] theorem endings_append (events others : List Event) :
    endings (events ++ others) = endings events ++ endings others :=
  List.filterMap_append

theorem endings_singleton (event : Event) : endings [event] = event.ending?.toList := by
  cases ends : event.ending? <;> simp [endings, ends]

/-- Calm events end nothing. -/
theorem endings_of_calm {events : List Event} (calm : failures events = []) :
    endings events = [] := by
  rw [endings, List.filterMap_eq_nil_iff]
  intro event member
  rw [Event.ending?, Option.map_eq_none_iff]
  exact List.filterMap_eq_nil_iff.mp calm event member

/-- The last exchange with the store or application of a migration. -/
def lastDealing? (events : List Event) : Option Event :=
  (events.filter Event.isDealing).getLast?

theorem lastDealing?_concat (events : List Event) (event : Event) :
    lastDealing? (events ++ [event]) =
      if event.isDealing then some event else lastDealing? events := by
  cases dealing : event.isDealing <;> simp [lastDealing?, dealing]

/-! ## The four ways -/

/-- The four ways in which a run gets past a candidate, with what happens on the way and the record
that comes of it. -/
inductive Repository.Passes (repository : Repository) (batch : Int) :
    Candidate → List Event → Option Record → Prop
  | notMigration {candidate : Candidate} (other : candidate.migration? = none) {text : String}
      (quoted : candidate.quoted = .ok text) :
    Passes repository batch candidate [.noted (.notMigration text)] none
  | alreadyApplied (migration : Migration) {count : Value} (found : FindsSome count) :
    Passes repository batch (.migration migration)
      [.asked (repository.countRequest migration.identifier) (.ok count),
        .noted (.alreadyApplied migration.identifier)] none
  | recordedElsewhere (migration : Migration) {count : Value} (unfound : FindsNone count)
      {number : String} (numbered : (Value.int batch).shown = .ok number) (moment : DateTime)
      (message : String) (statement : Option String) :
    Passes repository batch (.migration migration)
      [.asked (repository.countRequest migration.identifier) (.ok count),
        .noted (.running migration.identifier number),
        .asked (.apply migration) (.ok ()),
        .asked .now (.ok moment),
        .asked (repository.recordRequest migration.identifier batch moment.wholeSecond)
          (.error (.duplicateRecord message statement)),
        .noted (.recordedElsewhere migration.identifier)] none
  | recorded (migration : Migration) {count : Value} (unfound : FindsNone count)
      {number : String} (numbered : (Value.int batch).shown = .ok number) (moment : DateTime)
      (id : Value) :
    Passes repository batch (.migration migration)
      [.asked (repository.countRequest migration.identifier) (.ok count),
        .noted (.running migration.identifier number),
        .asked (.apply migration) (.ok ()),
        .asked .now (.ok moment),
        .asked (repository.recordRequest migration.identifier batch moment.wholeSecond) (.ok id),
        .noted (.recorded migration.identifier number)]
      (some ⟨.text migration.identifier, batch, some moment.wholeSecond, id⟩)

/-- A run gets past candidates one after another. -/
inductive Repository.PassesAll (repository : Repository) (batch : Int) :
    List Candidate → List Event → List Record → Prop
  | nil : PassesAll repository batch [] [] []
  | cons {candidate : Candidate} {candidates : List Candidate} {events others : List Event}
      {record : Option Record} {records : List Record}
      (passes : repository.Passes batch candidate events record)
      (onward : PassesAll repository batch candidates others records) :
    PassesAll repository batch (candidate :: candidates) (events ++ others)
      (record.toList ++ records)

/-- Why a candidate is passed over. -/
inductive Skip where
  | notMigration
  | alreadyApplied
  | recordedElsewhere
deriving DecidableEq

/-- How serious it is to pass over a candidate. -/
def Skip.severity : Skip → Severity
  | .notMigration | .recordedElsewhere => .warning
  | .alreadyApplied => .debug

/-- Why a candidate is passed over, by the notice of it. -/
def Notice.skip? : Notice → Option Skip
  | .notMigration _ => some .notMigration
  | .alreadyApplied _ => some .alreadyApplied
  | .recordedElsewhere _ => some .recordedElsewhere
  | _ => none

/-- How many notices among events pass over a candidate for a reason, as serious as that is. -/
def skips (reason : Skip) (events : List Event) : Nat :=
  (events.filterMap Event.notice?).countP fun notice =>
    notice.skip? = some reason ∧ notice.severity = reason.severity

/-- How many candidates are passed over among events. -/
def skipped (events : List Event) : Nat :=
  skips .notMigration events + skips .alreadyApplied events + skips .recordedElsewhere events

@[simp] theorem skipped_append (events others : List Event) :
    skipped (events ++ others) = skipped events + skipped others := by
  simp only [skipped, skips, List.filterMap_append, List.countP_append]
  omega

namespace Repository

variable {repository : Repository}

theorem Passes.balance {batch : Int} {candidate : Candidate} {events : List Event}
    {record : Option Record} (passes : repository.Passes batch candidate events record) :
    skipped events + record.toList.length = 1 := by
  cases passes <;> rfl

theorem PassesAll.balance {batch : Int} {candidates : List Candidate} {events : List Event}
    {records : List Record} (passes : repository.PassesAll batch candidates events records) :
    skipped events + records.length = candidates.length := by
  induction passes with
  | nil => rfl
  | cons passes onward ih =>
    have first := passes.balance
    simp only [skipped_append, List.length_append, List.length_cons]
    omega

end Repository

end Tablewright
