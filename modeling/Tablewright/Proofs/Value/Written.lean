import Tablewright.Proofs.Success
import Tablewright.Value.Display

/-! # What can be written out

A whole number with too many digits cannot be written, and neither can a list or a map that holds
one. What is made of such values is found out only when it is written, so it is given exactly if the
values in it can be, and the fault is the same for all.
-/

namespace Tablewright

section Results

variable {α β : Type}

/-- Whether there is a result if the condition holds, and else the fault of a value that is too long
to be written. -/
def GivenIf (condition : Bool) (result : Except Fault α) : Prop :=
  if condition then ∃ value, result = .ok value else result = .error .badValue

theorem givenIf_ok (value : α) : GivenIf true (.ok value) :=
  ⟨value, rfl⟩

theorem GivenIf.ok {condition : Bool} {result : Except Fault α} (given : GivenIf condition result) :
    (∃ value, result = .ok value) ↔ condition = true := by
  cases condition with
  | false =>
    have failed : result = .error .badValue := given
    simp [failed]
  | true => exact iff_of_true given rfl

theorem GivenIf.error {result : Except Fault α} (given : GivenIf false result) :
    result = .error .badValue :=
  given

theorem GivenIf.map {condition : Bool} {result : Except Fault α} (given : GivenIf condition result)
    (change : α → β) : GivenIf condition (result.map change) := by
  cases condition with
  | false => rw [given.error]; rfl
  | true =>
    obtain ⟨value, found⟩ := given
    exact ⟨change value, by rw [found]; rfl⟩

theorem GivenIf.bind {first second : Bool} {result : Except Fault α} {next : α → Except Fault β}
    (given : GivenIf first result) (follows : ∀ value, GivenIf second (next value)) :
    GivenIf (first && second) (result >>= next) := by
  cases first with
  | false => rw [given.error]; rfl
  | true =>
    obtain ⟨value, found⟩ := given
    rw [found]
    exact follows value

/-- Going through a list gives a result if every element does. -/
theorem GivenIf.mapM {condition : α → Bool} {compute : α → Except Fault β} {inputs : List α}
    (each : ∀ input ∈ inputs, GivenIf (condition input) (compute input)) :
    GivenIf (inputs.all condition) (inputs.mapM compute) := by
  induction inputs with
  | nil => exact givenIf_ok []
  | cons input inputs ih =>
    obtain ⟨first, others⟩ := List.forall_mem_cons.mp each
    rw [List.mapM_cons, List.all_cons]
    exact first.bind fun output => (ih others).map (output :: ·)

end Results

/-! ## Values -/

namespace Value

/-- The least number with more digits than can be written. -/
def longNumber : Value :=
  .int (.ofNat (Nat.pow 10 mostDigits))

theorem givenIf_written (value : Value) (form : String) :
    GivenIf value.isWritten (value.written form) := by
  unfold written
  cases value.isWritten with
  | false => exact rfl
  | true => exact givenIf_ok form

theorem givenIf_shown (value : Value) : GivenIf value.isWritten value.shown :=
  value.givenIf_written _

theorem givenIf_quoted (value : Value) : GivenIf value.isWritten value.quoted :=
  value.givenIf_written _

/-- Values are written out in a form if each of them can be. -/
theorem mapM_written_eq_ok (form : Value → String) {values : List Value} {texts : List String} :
    values.mapM (fun value => value.written (form value)) = .ok texts ↔
      values.all isWritten ∧ values.map form = texts := by
  rw [mapM_eq_ok]
  simp only [written_eq_ok]
  constructor
  · intro each
    induction each with
    | nil => exact ⟨rfl, rfl⟩
    | cons first _ ih =>
      obtain ⟨written, rfl⟩ := first
      obtain ⟨others, rfl⟩ := ih
      exact ⟨by rw [List.all_cons, written, others]; rfl, rfl⟩
  · rintro ⟨written, rfl⟩
    rw [List.forall₂_map_right_iff, List.forall₂_same]
    exact fun value member => ⟨List.all_eq_true.mp written value member, rfl⟩

end Value

end Tablewright
