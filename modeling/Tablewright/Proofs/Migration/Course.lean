import Mathlib.Data.List.Dedup
import Tablewright.Proofs.Migration.ExactlyOnce
import Tablewright.Proofs.Program.Observed

/-! # The course of a run

A run that is alone with its store tries the migrations that are not recorded, each identifier once
and in the order of the list, until one of them fails. Each one whose application returns is recorded
in the batch of the run, and nothing else is. So the rows at the start of a run and the outcomes of
the applications tell everything that it does to the rows. A run also ends where its next note has
no words: before a migration if the number of the batch is too long, and at whatever is no migration
and cannot be written out.
-/

namespace Tablewright

open Program Standing

/-- An application that was tried, and how it ended. -/
structure Attempt where
  migration : Migration
  outcome : Except Fault Unit

/-- The attempt of an event. -/
def Event.attempt? : Event → Option Attempt
  | .asked (.apply migration) outcome => some ⟨migration, outcome⟩
  | _ => none

/-- The migrations of candidates that are not recorded, in order and with repeats. -/
def outstanding (rows : List Record) (candidates : List Candidate) : List Migration :=
  (candidates.filterMap Candidate.migration?).filter fun migration =>
    !decide (Recorded rows migration.identifier)

/-- The migrations at their first places, told apart by their identifiers. -/
def firsts (migrations : List Migration) : List Migration :=
  migrations.eraseDupsBy fun migration other => migration.identifier == other.identifier

theorem firsts_cons (migration : Migration) (migrations : List Migration) :
    firsts (migration :: migrations) =
      migration :: firsts (migrations.filter fun other =>
        !decide (other.identifier = migration.identifier)) := by
  unfold firsts
  rw [List.eraseDupsBy_cons]
  congr 3
  funext other
  by_cases same : other.identifier = migration.identifier <;> simp [same]

/-- The induction that follows first places: a migration, then the others without its identifier. -/
theorem firsts_induction {property : List Migration → Prop} (nil : property [])
    (cons : ∀ migration migrations,
      property (migrations.filter fun other => !decide (other.identifier = migration.identifier)) →
        property (migration :: migrations))
    (migrations : List Migration) : property migrations := by
  cases migrations with
  | nil => exact nil
  | cons migration migrations => exact cons _ _ (firsts_induction nil cons _)
termination_by migrations.length
decreasing_by
  have filtered := List.length_filter_le
    (fun other : Migration => !decide (other.identifier = migration.identifier)) migrations
  simp only [List.length_cons]
  omega

/-- The identifiers of the first migrations are all identifiers, each once. -/
theorem map_identifier_firsts (migrations : List Migration) :
    (firsts migrations).map Migration.identifier =
      (migrations.map Migration.identifier).eraseDups := by
  induction migrations using firsts_induction with
  | nil => rfl
  | cons migration migrations others =>
    rw [firsts_cons, List.map_cons, others, List.map_cons, List.eraseDups_cons, List.filter_map]
    rfl

theorem firsts_sublist (migrations : List Migration) : (firsts migrations).Sublist migrations := by
  induction migrations using firsts_induction with
  | nil => exact .slnil
  | cons migration migrations others =>
    rw [firsts_cons]
    exact (others.trans List.filter_sublist).cons_cons migration

/-- First migrations differ in their identifiers. -/
theorem firsts_pairwise (migrations : List Migration) :
    (firsts migrations).Pairwise fun one other => one.identifier ≠ other.identifier := by
  induction migrations using firsts_induction with
  | nil => exact .nil
  | cons migration migrations others =>
    rw [firsts_cons, List.pairwise_cons]
    refine ⟨fun other member => ?_, others⟩
    have kept := (firsts_sublist _).subset member
    simp only [List.mem_filter, Bool.not_eq_eq_eq_not, Bool.not_true, decide_eq_false_iff_not] at kept
    exact Ne.symm kept.2

/-- Migrations that differ in their identifiers are all first. -/
theorem firsts_eq_self {migrations : List Migration}
    (different : migrations.Pairwise fun one other => one.identifier ≠ other.identifier) :
    firsts migrations = migrations := by
  induction migrations with
  | nil => rfl
  | cons migration migrations ih =>
    obtain ⟨head, tail⟩ := List.pairwise_cons.mp different
    have all : (migrations.filter fun other =>
        !decide (other.identifier = migration.identifier)) = migrations := by
      rw [List.filter_eq_self]
      intro other member
      simpa using Ne.symm (head other member)
    rw [firsts_cons, all, ih tail]

/-! ## What is outstanding -/

section Outstanding

variable {rows : List Record} {candidates : List Candidate}

theorem outstanding_cons (candidate : Candidate) :
    outstanding rows (candidate :: candidates) =
      outstanding rows [candidate] ++ outstanding rows candidates := by
  cases found : candidate.migration? with
  | none => simp [outstanding, found]
  | some migration =>
    by_cases recorded : Recorded rows migration.identifier
    · simp [outstanding, found, recorded]
    · simp [outstanding, found, recorded]

theorem outstanding_other {candidate : Candidate} (other : candidate.migration? = none) :
    outstanding rows (candidate :: candidates) = outstanding rows candidates := by
  simp [outstanding, other]

theorem outstanding_recorded {migration : Migration}
    (recorded : Recorded rows migration.identifier) :
    outstanding rows (.migration migration :: candidates) = outstanding rows candidates := by
  simp [outstanding, Candidate.migration?, recorded]

theorem outstanding_unrecorded {migration : Migration}
    (unrecorded : ¬ Recorded rows migration.identifier) :
    outstanding rows (.migration migration :: candidates) =
      migration :: outstanding rows candidates := by
  simp [outstanding, Candidate.migration?, unrecorded]

/-- Once a migration is recorded, those with its identifier are no longer outstanding. -/
theorem outstanding_concat {record : Record} {identifier : String}
    (about : record.migration = .text identifier) :
    outstanding (rows ++ [record]) candidates =
      (outstanding rows candidates).filter fun other => !decide (other.identifier = identifier) := by
  unfold outstanding
  rw [List.filter_filter]
  congr 1
  funext other
  simp only [Recorded, List.map_append, List.map_singleton, about, List.mem_append,
    List.mem_singleton, Value.text.injEq]
  grind

end Outstanding

/-! ## Courses -/

/-- How a run fares with the migrations that are due: it tries them in order up to the first that
fails, and records those that did not. It ends early where it cannot write out the number of its
batch or something that is no migration. -/
inductive Course (numbered spoken : Prop) :
    List Migration → List Attempt → Except Fault (List Record) → List Record → Prop
  | ended : Course numbered spoken [] [] (.ok []) []
  | unspoken (obstacle : ¬ spoken) (due : List Migration) :
    Course numbered spoken due [] (.error .badValue) []
  | unnumbered (obstacle : ¬ numbered) (migration : Migration) (due : List Migration) :
    Course numbered spoken (migration :: due) [] (.error .badValue) []
  | failed (number : numbered) (migration : Migration) (due : List Migration) (fault : Fault) :
    Course numbered spoken (migration :: due) [⟨migration, .error fault⟩] (.error fault.reported) []
  | applied (number : numbered) {migration : Migration} {due : List Migration}
      {attempts : List Attempt} {result : Except Fault (List Record)} {record : Record}
      {added : List Record} (about : record.migration = .text migration.identifier)
      (onward : Course numbered spoken due attempts result added) :
    Course numbered spoken (migration :: due) (⟨migration, .ok ()⟩ :: attempts)
      (result.map (record :: ·)) (record :: added)

namespace Course

variable {numbered spoken : Prop} {due : List Migration} {attempts : List Attempt}
  {result : Except Fault (List Record)} {added : List Record}

/-- A course stays one when more has to be spoken of. -/
theorem imp {more : Prop} (course : Course numbered spoken due attempts result added)
    (less : more → spoken) : Course numbered more due attempts result added := by
  induction course with
  | ended => exact .ended
  | unspoken obstacle due => exact .unspoken (mt less obstacle) due
  | unnumbered obstacle migration due => exact .unnumbered obstacle migration due
  | failed number migration due fault => exact .failed number migration due fault
  | applied number about onward ih => exact .applied number about ih

/-- If every application returns and all can be written out, then the run returns, and all that was
due is recorded. -/
theorem whole (course : Course numbered spoken due attempts result added) (number : numbered)
    (speak : spoken) (returned : ∀ attempt ∈ attempts, attempt.outcome = .ok ()) :
    result = .ok added ∧ added.map (·.migration) = due.map fun migration =>
      .text migration.identifier := by
  induction course with
  | ended => exact ⟨rfl, rfl⟩
  | unspoken obstacle due => exact absurd speak obstacle
  | unnumbered obstacle migration due => exact absurd number obstacle
  | failed _ migration due fault => cases returned _ (List.mem_singleton_self _)
  | applied _ about onward ih =>
    obtain ⟨-, others⟩ := List.forall_mem_cons.mp returned
    obtain ⟨rfl, recorded⟩ := ih others
    exact ⟨rfl, by simp [about, recorded]⟩

/-- The migrations are tried in the order in which they are due. -/
theorem tried_prefix (course : Course numbered spoken due attempts result added) :
    attempts.map (·.migration) <+: due := by
  induction course with
  | ended => exact List.prefix_rfl
  | unspoken obstacle due => exact List.nil_prefix
  | unnumbered obstacle migration due => exact List.nil_prefix
  | failed _ migration due fault => exact List.prefix_append [migration] due
  | applied _ about onward ih => exact List.cons_prefix_cons.mpr ⟨rfl, ih⟩

/-- If every application returns and all can be written out, then all that was due is tried. -/
theorem tried_whole (course : Course numbered spoken due attempts result added)
    (number : numbered) (speak : spoken)
    (returned : ∀ attempt ∈ attempts, attempt.outcome = .ok ()) :
    attempts.map (·.migration) = due := by
  induction course with
  | ended => rfl
  | unspoken obstacle due => exact absurd speak obstacle
  | unnumbered obstacle migration due => exact absurd number obstacle
  | failed _ migration due fault => cases returned _ (List.mem_singleton_self _)
  | applied _ about onward ih =>
    obtain ⟨-, others⟩ := List.forall_mem_cons.mp returned
    exact congrArg _ (ih others)

/-- Nothing is tried in a batch whose number cannot be written out. -/
theorem tried_of_unnumbered (course : Course numbered spoken due attempts result added)
    (obstacle : ¬ numbered) : attempts = [] := by
  cases course with
  | ended | unspoken | unnumbered => rfl
  | failed number => exact absurd number obstacle
  | applied number => exact absurd number obstacle

/-- A run that returns some records could write out the number of their batch. -/
theorem numbered_of_several {records : List Record}
    (course : Course numbered spoken due attempts (.ok records) added) (several : records ≠ []) :
    numbered := by
  generalize same : (Except.ok records : Except Fault (List Record)) = result at course
  cases course with
  | ended => exact absurd (Except.ok.inj same) several
  | applied number about onward => exact number
  | unspoken obstacle due => cases same
  | unnumbered obstacle migration due => cases same
  | failed number migration due fault => exact number

end Course

/-! ## What a run does -/

namespace Repository

variable {repository : Repository}

/-- What is known of a run with the applications that it has tried. -/
abbrev Tried := Standing × List Attempt

/-- The protocol of a run that is alone with its store, with the applications it tries. -/
def triedProtocol (repository : Repository) : Protocol Tried :=
  repository.aloneProtocol.observing Event.attempt?

/-- From one point of a run to another: applications were tried, records of its batch were added,
and no batch was computed. -/
structure Advances (batch : Int) (before : Tried) (tried : List Attempt) (records : List Record)
    (after : Tried) : Prop where
  rows : after.1.rows = before.1.rows ++ records
  added : after.1.added = before.1.added ++ records
  batches : after.1.batches = before.1.batches
  attempts : after.2 = before.2 ++ tried
  batch : ∀ record ∈ records, record.batch = batch
  distinct : Distinct after.1.rows

theorem Advances.refl (batch : Int) {point : Tried} (distinct : Distinct point.1.rows) :
    Advances batch point [] [] point := by
  constructor
  · exact (List.append_nil _).symm
  · exact (List.append_nil _).symm
  · rfl
  · exact (List.append_nil _).symm
  · intro record member
    cases member
  · exact distinct

theorem Advances.trans {batch : Int} {before middle after : Tried} {tried further : List Attempt}
    {records others : List Record} (first : Advances batch before tried records middle)
    (second : Advances batch middle further others after) :
    Advances batch before (tried ++ further) (records ++ others) after := by
  constructor
  · rw [second.rows, first.rows, List.append_assoc]
  · rw [second.added, first.added, List.append_assoc]
  · rw [second.batches, first.batches]
  · rw [second.attempts, first.attempts, List.append_assoc]
  · intro record member
    rcases List.mem_append.mp member with early | late
    · exact first.batch record early
    · exact second.batch record late
  · exact second.distinct

/-- How a run fares with one candidate: it passes over it, fails with it or records it, unless it
ends because something cannot be written out. -/
inductive Fares (batch : Int) (rows : List Record) :
    Candidate → List Attempt → Except Fault (Option Record) → List Record → Prop
  | passed {candidate : Candidate} (spared : outstanding rows [candidate] = []) :
    Fares batch rows candidate [] (.ok none) []
  | unspoken {value : Value} (unwritten : ¬ value.isWritten) :
    Fares batch rows (.value value) [] (.error .badValue) []
  | unnumbered (unwritten : ¬ IsNumbered batch) {migration : Migration}
      (unrecorded : ¬ Recorded rows migration.identifier) :
    Fares batch rows (.migration migration) [] (.error .badValue) []
  | failed (number : IsNumbered batch) {migration : Migration}
      (unrecorded : ¬ Recorded rows migration.identifier) (fault : Fault) :
    Fares batch rows (.migration migration) [⟨migration, .error fault⟩] (.error fault.reported) []
  | recorded (number : IsNumbered batch) {migration : Migration}
      (unrecorded : ¬ Recorded rows migration.identifier)
      {record : Record} (about : record.migration = .text migration.identifier) :
    Fares batch rows (.migration migration) [⟨migration, .ok ()⟩] (.ok (some record)) [record]

theorem unseen_hasRun (identifier : String) :
    (repository.hasRun identifier).IsUnseen Event.attempt? := by
  refine AsksOnly.bind ⟨fun answer => rfl, fun answer => trivial⟩ fun count => ?_
  exact AsksOnly.bind trivial fun number => trivial

theorem unseen_log (identifier : String) (batch : Int) :
    (repository.log identifier batch).IsUnseen Event.attempt? := by
  refine ⟨fun answer => rfl, fun answer => ?_⟩
  cases answer with
  | error fault => trivial
  | ok moment =>
    refine ⟨fun answer => rfl, fun answer => ?_⟩
    cases answer with
    | error fault => trivial
    | ok id => cases (Value.int batch).shown <;> trivial

theorem unseen_currentBatch : repository.currentBatch.IsUnseen Event.attempt? := by
  refine ⟨fun answer => rfl, fun answer => ?_⟩
  cases answer <;> trivial

theorem unseen_ensureTable : repository.ensureTable.IsUnseen Event.attempt? := by
  refine repository.asksOnly_ensureTable.imp fun request asked answer => ?_
  cases asked <;> rfl

section Alone

variable {point : Standing}

/-- A check tells whether the migration is recorded, and nothing changes. -/
theorem hasRun_finds (identifier : String) (distinct : Distinct point.rows) :
    (repository.hasRun identifier).Ensures repository.aloneProtocol
      (fun result after => result = .ok (decide (Recorded point.rows identifier)) ∧ after = point)
      point := by
  refine ensures_hasRun identifier
    (asksAlone_of_distinct distinct (.count identifier) (by rintro _ ⟨⟩)) ?_
  rintro _ rfl
  exact ⟨rfl, withRows_rows point⟩

/-- A migration that is not recorded can be recorded. -/
theorem log_records (identifier : String) {batch : Int} (number : IsNumbered batch)
    (distinct : Distinct point.rows) (unrecorded : ¬ Recorded point.rows identifier) :
    (repository.log identifier batch).Ensures repository.aloneProtocol
      (fun result after => ∃ record, result = .ok record ∧ record.migration = .text identifier ∧
        record.batch = batch ∧ after =
          { point with rows := point.rows ++ [record], added := point.added ++ [record] }) point := by
  refine ensures_log identifier number
    (asksAlone_of_distinct distinct .now (by rintro _ ⟨⟩)) ?_ ?_ ?_
  · rintro _ moment rfl
    exact asksAlone_of_distinct distinct (.record identifier batch moment) (by rintro _ ⟨⟩)
  · rintro _ _ message statement rfl rfl recorded
    exact absurd recorded unrecorded
  · rintro _ _ moment id rfl rfl -
    exact ⟨_, rfl, rfl, rfl, rfl⟩

/-- The batch of a run is the one after the largest. -/
theorem currentBatch_computes (distinct : Distinct point.rows) :
    repository.currentBatch.Ensures repository.aloneProtocol
      (fun result after => result = .ok (largestBatch point.rows) ∧ after =
        { point with batches := point.batches ++ [largestBatch point.rows + 1] }) point := by
  refine ensures_currentBatch (asksAlone_of_distinct distinct .batch (by rintro _ ⟨⟩)) ?_
  rintro _ rfl
  exact ⟨rfl, rfl⟩

/-- Creating the tracking table changes nothing that is known. -/
theorem ensureTable_keeps (distinct : Distinct point.rows) :
    repository.ensureTable.Ensures repository.aloneProtocol (fun _ after => after = point)
      point := by
  refine ensures_ensureTable rfl ?_ ?_
  · rintro _ request rfl asked
    refine asksAlone_of_distinct distinct (.table asked) ?_
    rintro migration rfl
    cases asked
  · rintro _ _ rfl rfl
    rfl

end Alone

section Tried

variable {point : Tried}

theorem ignoresNotes_tried : repository.triedProtocol.IgnoresNotes := by
  rintro point notice next ⟨same, others⟩
  exact Prod.ext same (by simpa [Event.attempt?] using others)

theorem applyCandidate_fares (batch : Int) (candidate : Candidate)
    (distinct : Distinct point.1.rows) :
    (repository.applyCandidate batch candidate).Ensures repository.triedProtocol
      (fun result after => ∃ tried records, Advances batch point tried records after ∧
        Fares batch point.1.rows candidate tried result records) point := by
  have stopped {result : Except Fault (Option Record)}
      (fares : Fares batch point.1.rows candidate [] result []) :
      ∃ tried records, Advances batch point tried records point ∧
        Fares batch point.1.rows candidate tried result records :=
    ⟨[], [], .refl batch distinct, fares⟩
  cases candidate with
  | type migration =>
    exact ensures_notMigration ignoresNotes_tried _ none
      (fun _ _ => stopped (.passed (outstanding_other rfl))) nofun
  | value other =>
    refine ensures_notMigration ignoresNotes_tried _ none
      (fun _ _ => stopped (.passed (outstanding_other rfl))) fun fault quoted => ?_
    obtain ⟨unwritten, rfl⟩ := Value.written_eq_error.mp quoted
    exact stopped (.unspoken (by simp [unwritten]))
  | migration migration =>
    refine ensures_applyCandidate ignoresNotes_tried ?_
    refine ((hasRun_finds migration.identifier distinct).unseen
      (unseen_hasRun migration.identifier) fun _ => rfl).imp ?_
    rintro _ after ⟨⟨rfl, same⟩, others⟩
    obtain rfl : point = after := Prod.ext same.symm others.symm
    refine ⟨_, rfl, fun found => ?_, fun unfound => ?_⟩
    · exact stopped (.passed (outstanding_recorded (of_decide_eq_true found)))
    have unrecorded := of_decide_eq_false unfound
    refine ⟨fun unwritten => stopped (.unnumbered unwritten unrecorded), fun number => ?_⟩
    have permitted : repository.AsksAlone point.1.rows (.apply migration) :=
      ⟨.apply migration, distinct, by rintro _ ⟨⟩; exact unrecorded⟩
    refine ensures_request_observing (ensures_asked _ permitted ?_)
    rintro _ answer rfl -
    cases answer with
    | error fault =>
      apply ensures_finish_error ignoresNotes_tried
      refine ⟨_, [], ?_, .failed number unrecorded fault⟩
      constructor <;> simp [Standing.after, Event.added?, Event.batch?, Event.attempt?, distinct]
    | ok answer =>
      apply ensures_finish_ok ignoresNotes_tried
      have reached : point.1.after point.1.rows (.asked (.apply migration) (.ok answer)) =
          { point.1 with returned := point.1.returned ++ [migration.identifier] } := by
        simp [Standing.after, Event.returned?, Event.added?, Event.batch?]
      rw [reached]
      refine ((log_records migration.identifier number ?_ ?_).unseen
        (unseen_log migration.identifier batch) fun _ => rfl).imp ?_
      · exact distinct
      · exact unrecorded
      rintro _ ⟨next, _⟩ ⟨⟨record, rfl, about, same, rfl⟩, rfl⟩
      refine ⟨_, [record], ?_, .recorded number unrecorded about⟩
      constructor
      · rfl
      · rfl
      · rfl
      · rfl
      · simpa using same
      · exact distinct.concat unrecorded about

/-- A run takes its course through the candidates. -/
theorem applyAll_course (batch : Int) (candidates : List Candidate)
    (distinct : Distinct point.1.rows) :
    (repository.applyAll batch candidates).Ensures repository.triedProtocol
      (fun result after => ∃ tried records, Advances batch point tried records after ∧
        Course (IsNumbered batch) (Spoken candidates)
          (firsts (outstanding point.1.rows candidates)) tried result records) point := by
  induction candidates generalizing point with
  | nil => exact ⟨[], [], .refl batch distinct, .ended⟩
  | cons candidate candidates ih =>
    have less : Spoken (candidate :: candidates) → Spoken candidates :=
      fun spoken value member => spoken value (List.mem_cons_of_mem _ member)
    simp only [applyAll, ensures_bind]
    refine (applyCandidate_fares batch candidate distinct).imp ?_
    rintro _ middle ⟨tried, records, advances, fares⟩
    cases fares with
    | unspoken unwritten =>
      refine ⟨_, _, advances, .unspoken (fun spoken => ?_) _⟩
      exact unwritten (spoken _ List.mem_cons_self)
    | unnumbered unwritten unrecorded =>
      refine ⟨_, _, advances, ?_⟩
      rw [outstanding_unrecorded unrecorded, firsts_cons]
      exact .unnumbered unwritten _ _
    | failed number unrecorded fault =>
      refine ⟨_, _, advances, ?_⟩
      rw [outstanding_unrecorded unrecorded, firsts_cons]
      exact .failed number _ _ fault
    | passed spared =>
      have rows : middle.1.rows = point.1.rows := by rw [advances.rows, List.append_nil]
      simp only [continues_ok, ensures_bind]
      refine (ih advances.distinct).imp ?_
      rintro result after ⟨further, others, onward, course⟩
      have whole := advances.trans onward
      rw [rows] at course
      rw [outstanding_cons, spared]
      cases result with
      | error fault => exact ⟨further, others, whole, course.imp less⟩
      | ok records => exact ⟨further, others, whole, course.imp less⟩
    | @recorded number migration unrecorded record about =>
      have due : firsts (outstanding point.1.rows (.migration migration :: candidates)) =
          migration :: firsts (outstanding middle.1.rows candidates) := by
        rw [outstanding_unrecorded unrecorded, firsts_cons, advances.rows, outstanding_concat about]
      simp only [continues_ok, ensures_bind]
      refine (ih advances.distinct).imp ?_
      rintro result after ⟨further, others, onward, course⟩
      have whole := advances.trans onward
      have applied := Course.applied number about (course.imp less)
      rw [← due] at applied
      cases result with
      | error fault => exact ⟨_, _, whole, applied⟩
      | ok records => exact ⟨_, _, whole, applied⟩

/-- The part of a run after the tracking table was created. -/
def runPrepared (repository : Repository) (candidates : List Candidate) : Program (List Record) := do
  let batch := (← repository.currentBatch) + 1
  closing batch (← repository.applyAll batch candidates)

/-- What a run does once the tracking table is there: it computes the batch after the largest one,
and takes its course. -/
structure RunsCourse (candidates : List Candidate) (before : Tried) (tried : List Attempt)
    (records : List Record) (result : Except Fault (List Record)) (after : Tried) : Prop where
  rows : after.1.rows = before.1.rows ++ records
  added : after.1.added = before.1.added ++ records
  batches : after.1.batches = before.1.batches ++ [largestBatch before.1.rows + 1]
  attempts : after.2 = before.2 ++ tried
  batch : ∀ record ∈ records, record.batch = largestBatch before.1.rows + 1
  distinct : Distinct after.1.rows
  course : Course (IsNumbered (largestBatch before.1.rows + 1)) (Spoken candidates)
    (firsts (outstanding before.1.rows candidates)) tried result records

theorem runPrepared_course (candidates : List Candidate) (distinct : Distinct point.1.rows) :
    (repository.runPrepared candidates).Ensures repository.triedProtocol
      (fun result after => ∃ tried records, RunsCourse candidates point tried records result after)
      point := by
  simp only [runPrepared, ensures_bind]
  refine ((currentBatch_computes distinct).unseen unseen_currentBatch fun _ => rfl).imp ?_
  rintro _ ⟨_, _⟩ ⟨⟨rfl, rfl⟩, rfl⟩
  simp only [continues_ok, ensures_bind]
  refine (applyAll_course _ candidates ?_).imp ?_
  · exact distinct
  rintro result after ⟨tried, records, advances, course⟩
  have runs : RunsCourse candidates point tried records result after :=
    ⟨advances.rows, advances.added, advances.batches, advances.attempts, advances.batch,
      advances.distinct, course⟩
  cases result with
  | error fault => exact ⟨tried, records, runs⟩
  | ok returned =>
    refine ensures_closing ignoresNotes_tried _ _ ⟨tried, records, runs⟩ fun several long => ?_
    exact absurd (course.numbered_of_several several) long

end Tried

end Repository

/-! ## Accounts of runs -/

/-- What a run met, tried, computed and added, and how it ended. -/
structure RunAccount where
  met : List Record
  tried : List Attempt
  computed : List Int
  added : List Record
  result : Except Fault (List Record)

namespace RunAccount

/-- The number of the batch that the run is to make. -/
def number (account : RunAccount) : Int :=
  largestBatch account.met + 1

/-- Whether a run failed before it had a tracking table. -/
structure Stopped (account : RunAccount) (fault : Fault) : Prop where
  tried : account.tried = []
  computed : account.computed = []
  added : account.added = []
  result : account.result = .error fault

/-- Whether a run took its course with the candidates. -/
structure Ran (account : RunAccount) (candidates : List Candidate) : Prop where
  computed : account.computed = [account.number]
  batch : ∀ record ∈ account.added, record.batch = account.number
  course : Course (IsNumbered account.number) (Spoken candidates)
    (firsts (outstanding account.met candidates)) account.tried account.result account.added

/-- Whether a run took its course, or stopped because there is no tracking table. -/
def Goes {α : Type} (account : RunAccount) (candidates : List Candidate) :
    (prepared : Except Fault α) → Prop
  | .ok _ => account.Ran candidates
  | .error fault => account.Stopped fault

end RunAccount

section History

variable {State : Type}

/-- The account of a run on candidates after a history. -/
def History.account (past : History State) (world : World State) (repository : Repository)
    (stored : State → List Record) (candidates : List Candidate) : RunAccount :=
  let program := repository.runMigrations candidates
  let exchanges := program.exchanges world past.state
  { met := stored past.state
    tried := exchanges.filterMap fun exchange => exchange.event.attempt?
    computed := exchanges.filterMap fun exchange => exchange.event.batch?
    added := exchanges.filterMap fun exchange => exchange.event.added?
    result := (program.run world past.state).result }

/-- What is known after a history, with the applications that were tried. -/
def History.progress (stored : State → List Record) (past : History State) : Repository.Tried :=
  (past.standing stored, past.exchanges.filterMap fun exchange => exchange.event.attempt?)

variable {world : World State} {repository : Repository} {usable : State → Prop}
  {stored : State → List Record} {past : History State}

theorem World.KeepsRecords.tried (keeps : world.KeepsRecords repository usable stored) :
    world.Follows repository.triedProtocol (History.IsAlone repository usable stored)
      (History.progress stored) :=
  keeps.alone.observing fun _ => rfl

/-- What a run did is what it adds to the progress. -/
theorem History.progress_after (past : History State) (world : World State)
    (repository : Repository) (stored : State → List Record) (candidates : List Candidate) :
    let account := past.account world repository stored candidates
    let before := past.progress stored
    let next := (past.after world (repository.runMigrations candidates)).progress stored
    next.1.added = before.1.added ++ account.added ∧
      next.1.batches = before.1.batches ++ account.computed ∧
      next.2 = before.2 ++ account.tried := by
  intro account before next
  refine ⟨?_, ?_, ?_⟩
  · exact List.filterMap_append
  · exact List.filterMap_append
  · exact List.filterMap_append

/-- Nothing has been asked yet at the start of a history. -/
theorem History.start_isAlone {initial : State} (ready : usable initial) :
    (History.start initial).IsAlone repository usable stored := by
  refine ⟨ready, ?_⟩
  intro exchange member
  cases member

theorem History.start_settled {initial : State} (empty : stored initial = []) :
    ((History.start initial).standing stored).Settled := by
  constructor
  · simp [start, standing, Standing.of, empty]
  · simp [start, standing, Standing.of, Distinct, empty]

/-- What holds after a run that was alone with its store. -/
structure History.RunsOn (repository : Repository) (usable : State → Prop)
    (stored : State → List Record) (account : RunAccount) (next : History State) : Prop where
  alone : next.IsAlone repository usable stored
  distinct : Distinct (stored next.state)
  rows : stored next.state = account.met ++ account.added

/-- A run takes its course, unless there is no tracking table and none can be created; then it does
nothing. -/
theorem History.IsAlone.runs (keeps : world.KeepsRecords repository usable stored)
    (alone : past.IsAlone repository usable stored) (distinct : Distinct (stored past.state))
    (candidates : List Candidate) :
    let account := past.account world repository stored candidates
    (past.after world (repository.runMigrations candidates)).RunsOn repository usable stored
        account ∧
      account.Goes candidates (repository.ensureTable.run world past.state).result := by
  intro account
  have creates : repository.ensureTable.Ensures repository.triedProtocol
      (fun _ after => after.1 = (past.progress stored).1 ∧ after.2 = (past.progress stored).2)
      (past.progress stored) :=
    (Repository.ensureTable_keeps distinct).unseen Repository.unseen_ensureTable fun _ => rfl
  obtain ⟨created, standing, attempts⟩ := creates.after keeps.tried alone
  have unchanged : (past.after world repository.ensureTable).progress stored =
      past.progress stored := Prod.ext standing attempts
  have rows : stored (past.after world repository.ensureTable).state = stored past.state :=
    congrArg Standing.rows standing
  have whole := past.after_bind world repository.ensureTable
    fun _ => repository.runPrepared candidates
  have result := repository.ensureTable.run_bind_result world
    (fun _ => repository.runPrepared candidates) past.state
  obtain ⟨added, computed, tried⟩ := past.progress_after world repository stored
    candidates
  cases ready : (repository.ensureTable.run world past.state).result with
  | error fault =>
    rw [ready] at whole result
    have same : past.after world (repository.runMigrations candidates) =
      past.after world repository.ensureTable := whole
    rw [same, unchanged] at added computed tried
    have nothing := List.self_eq_append_right.mp added
    refine ⟨⟨same ▸ created, ?_, ?_⟩, ⟨?_, ?_, nothing, result⟩⟩
    · rw [same, rows]
      exact distinct
    · rw [same, rows, nothing, List.append_nil]
      rfl
    · exact List.self_eq_append_right.mp tried
    · exact List.self_eq_append_right.mp computed
  | ok value =>
    rw [ready] at whole result
    have same : past.after world (repository.runMigrations candidates) =
      (past.after world repository.ensureTable).after world (repository.runPrepared candidates) :=
        whole
    have returned : ((repository.runPrepared candidates).run world
        (past.after world repository.ensureTable).state).result = account.result := result.symm
    have prepares : (repository.runPrepared candidates).Ensures repository.triedProtocol
        (fun result after => ∃ tried records,
          Repository.RunsCourse candidates (past.progress stored) tried records result after)
        ((past.after world repository.ensureTable).progress stored) := by
      rw [unchanged]
      exact Repository.runPrepared_course candidates distinct
    obtain ⟨ended, tries, records, runs⟩ := prepares.after keeps.tried created
    rw [returned, ← same] at runs
    rw [← same] at ended
    have recorded : account.added = records :=
      List.append_cancel_left (added.symm.trans runs.added)
    have attempted : account.tried = tries :=
      List.append_cancel_left (tried.symm.trans runs.attempts)
    have numbered : account.computed = [account.number] :=
      List.append_cancel_left (computed.symm.trans runs.batches)
    refine ⟨⟨ended, runs.distinct, ?_⟩, numbered, ?_, ?_⟩
    · rw [recorded]
      exact runs.rows
    · rw [recorded]
      exact runs.batch
    · rw [recorded, attempted]
      exact runs.course

end History

end Tablewright
