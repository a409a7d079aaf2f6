import Mathlib.Data.List.Forall2
import Tablewright.Fault

/-! # Results that are no faults

A computation in steps succeeds exactly if every step does, and else fails with the first fault. The
laws take a computation apart into its steps.
-/

namespace Tablewright

variable {α β : Type}

@[simp] theorem bind_eq_ok {first : Except Fault α} {next : α → Except Fault β} {value : β} :
    first >>= next = .ok value ↔ ∃ middle, first = .ok middle ∧ next middle = .ok value := by
  cases first with
  | error fault => simp [bind, Except.bind]
  | ok middle => simp [bind, Except.bind]

@[simp] theorem except_bind_eq_ok {first : Except Fault α} {next : α → Except Fault β} {value : β} :
    first.bind next = .ok value ↔ ∃ middle, first = .ok middle ∧ next middle = .ok value :=
  bind_eq_ok

@[simp] theorem map_eq_ok {result : Except Fault α} {change : α → β} {value : β} :
    result.map change = .ok value ↔ ∃ middle, result = .ok middle ∧ change middle = value := by
  cases result with
  | error fault => simp [Except.map]
  | ok middle => simp [Except.map]

@[simp] theorem pure_eq_ok (value : α) : (pure value : Except Fault α) = .ok value := rfl

/-- Going through a list succeeds exactly if every element does. -/
theorem mapM_eq_ok {compute : α → Except Fault β} {inputs : List α} {outputs : List β} :
    inputs.mapM compute = .ok outputs ↔
      List.Forall₂ (fun input output => compute input = .ok output) inputs outputs := by
  induction inputs generalizing outputs with
  | nil => simp [eq_comm]
  | cons input inputs ih =>
    rw [List.mapM_cons]
    simp only [bind_eq_ok, pure_eq_ok, Except.ok.injEq]
    constructor
    · rintro ⟨first, computed, rest, others, rfl⟩
      exact .cons computed (ih.mp others)
    · rintro (_ | ⟨computed, others⟩)
      exact ⟨_, computed, _, ih.mpr others, rfl⟩

/-- If every element gives something with a property, so does going through the list. -/
theorem mapM_ok_of_forall {compute : α → Except Fault β} {property : β → Prop} {inputs : List α}
    (each : ∀ input ∈ inputs, ∃ output, compute input = .ok output ∧ property output) :
    ∃ outputs, inputs.mapM compute = .ok outputs ∧ ∀ output ∈ outputs, property output := by
  induction inputs with
  | nil => exact ⟨[], rfl, by simp⟩
  | cons input inputs ih =>
    obtain ⟨first, others⟩ := List.forall_mem_cons.mp each
    obtain ⟨output, computed, holds⟩ := first
    obtain ⟨outputs, rest, hold⟩ := ih others
    refine ⟨output :: outputs, ?_, List.forall_mem_cons.mpr ⟨holds, hold⟩⟩
    rw [List.mapM_cons, computed, rest]
    rfl

/-- What going through a list gives has a property that whatever an element gives has. -/
theorem forall_mem_of_mapM {compute : α → Except Fault β} {property : β → Prop} {inputs : List α}
    {outputs : List β} (computed : inputs.mapM compute = .ok outputs)
    (each : ∀ input ∈ inputs, ∀ output, compute input = .ok output → property output) :
    ∀ output ∈ outputs, property output := by
  have pairs := mapM_eq_ok.mp computed
  clear computed
  induction pairs with
  | nil => simp
  | cons here _ ih =>
    obtain ⟨first, others⟩ := List.forall_mem_cons.mp each
    exact List.forall_mem_cons.mpr ⟨first _ here, ih others⟩

/-- Every element of a list has its own among what going through the list gives. -/
theorem exists_of_mem_mapM {compute : α → Except Fault β} {inputs : List α} {outputs : List β}
    (computed : inputs.mapM compute = .ok outputs) {input : α} (member : input ∈ inputs) :
    ∃ output ∈ outputs, compute input = .ok output := by
  have pairs := mapM_eq_ok.mp computed
  clear computed
  induction pairs with
  | nil => cases member
  | cons here _ ih =>
    obtain rfl | later := List.mem_cons.mp member
    · exact ⟨_, List.mem_cons_self .., here⟩
    · obtain ⟨output, among, there⟩ := ih later
      exact ⟨output, List.mem_cons_of_mem _ among, there⟩

/-- Going through a list succeeds with something exactly if every element does. -/
theorem exists_mapM_iff {compute : α → Except Fault β} {inputs : List α} :
    (∃ outputs, inputs.mapM compute = .ok outputs) ↔
      ∀ input ∈ inputs, ∃ output, compute input = .ok output := by
  induction inputs with
  | nil => simp
  | cons input inputs ih =>
    rw [List.mapM_cons, List.forall_mem_cons, ← ih]
    simp only [bind_eq_ok, pure_eq_ok, Except.ok.injEq]
    constructor
    · rintro ⟨_, first, computed, rest, others, -⟩
      exact ⟨⟨first, computed⟩, rest, others⟩
    · rintro ⟨⟨first, computed⟩, rest, others⟩
      exact ⟨_, first, computed, rest, others, rfl⟩

/-- Two steps fail if the first does, or the second on what the first gives. -/
theorem except_bind_eq_error {first : Except Fault α} {next : α → Except Fault β} {fault : Fault} :
    first.bind next = .error fault ↔
      first = .error fault ∨ ∃ middle, first = .ok middle ∧ next middle = .error fault := by
  cases first with
  | error stopped => simp [Except.bind]
  | ok middle => simp [Except.bind]

theorem map_eq_error {result : Except Fault α} {change : α → β} {fault : Fault} :
    result.map change = .error fault ↔ result = .error fault := by
  cases result with
  | error stopped => simp [Except.map]
  | ok value => simp [Except.map]

/-- The fault of the first input that gives one. -/
def FirstFault (compute : α → Except Fault β) (inputs : List α) (fault : Fault) : Prop :=
  ∃ before input after, inputs = before ++ input :: after ∧
    (∀ earlier ∈ before, ∃ output, compute earlier = .ok output) ∧ compute input = .error fault

section FirstFault

variable {compute : α → Except Fault β} {input : α} {inputs : List α} {fault : Fault}

theorem not_firstFault_nil : ¬ FirstFault compute [] fault := by
  rintro ⟨before, input, after, split, -⟩
  cases before <;> cases split

/-- A list begins with its first fault, or that is the first fault of the rest. -/
theorem firstFault_cons :
    FirstFault compute (input :: inputs) fault ↔
      compute input = .error fault ∨
        ∃ output, compute input = .ok output ∧ FirstFault compute inputs fault := by
  constructor
  · rintro ⟨_ | ⟨first, before⟩, last, after, split, given, failed⟩
    · obtain ⟨rfl, rfl⟩ := List.cons.inj split
      exact .inl failed
    · obtain ⟨rfl, rfl⟩ := List.cons.inj split
      obtain ⟨⟨output, here⟩, others⟩ := List.forall_mem_cons.mp given
      exact .inr ⟨output, here, before, last, after, rfl, others, failed⟩
  · rintro (failed | ⟨output, here, before, last, after, rfl, given, failed⟩)
    · exact ⟨[], input, inputs, rfl, by simp, failed⟩
    · exact ⟨input :: before, last, after, rfl,
        List.forall_mem_cons.mpr ⟨⟨output, here⟩, given⟩, failed⟩

/-- Going through a list fails with its first fault. -/
theorem mapM_eq_error : inputs.mapM compute = .error fault ↔ FirstFault compute inputs fault := by
  induction inputs with
  | nil =>
    rw [List.mapM_nil]
    exact iff_of_false (by simp [pure, Except.pure]) not_firstFault_nil
  | cons input inputs ih =>
    rw [List.mapM_cons, firstFault_cons, ← ih]
    change Except.bind _ _ = _ ↔ _
    simp only [except_bind_eq_error]
    refine or_congr_right (exists_congr fun output => and_congr_right fun _ => ?_)
    change Except.bind _ _ = _ ↔ _
    simp [except_bind_eq_error, pure, Except.pure]

end FirstFault

/-! ## Checks of all elements -/

/-- What fails of a check of all elements fails for one of them. -/
theorem exists_of_forM_eq_error {check : α → Except Fault Unit} {elements : List α} {fault : Fault}
    (failed : elements.forM check = .error fault) :
    ∃ element ∈ elements, check element = .error fault := by
  induction elements with
  | nil => cases failed
  | cons element elements ih =>
    rcases except_bind_eq_error.mp failed with here | ⟨_, -, later⟩
    · exact ⟨element, List.mem_cons_self .., here⟩
    · obtain ⟨other, member, there⟩ := ih later
      exact ⟨other, List.mem_cons_of_mem _ member, there⟩

end Tablewright
