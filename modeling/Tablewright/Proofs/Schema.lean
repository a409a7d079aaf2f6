import Tablewright.Proofs.Blueprint.Statement
import Tablewright.Proofs.Program.Ensures
import Tablewright.Schema

/-! # What schemas ask for

Creating a table asks whether it exists, and executes at most one statement: the one that its
declaration compiles to.
-/

namespace Tablewright.Schema

open Program

variable {α β : Type} {asks : Request → Prop}

/-- What goes on with a compiled value is asked only if compiling succeeded. -/
theorem asksOnly_compiled_bind {outcome : Compiled α} {next : α → Program β}
    (goes : ∀ value, outcome.result = .ok value → (next value).AsksOnly asks) :
    (compiled outcome >>= next).AsksOnly asks := by
  obtain ⟨result, _, notices⟩ := outcome
  induction notices with
  | nil =>
    cases result with
    | ok value => exact goes value rfl
    | error fault => trivial
  | cons notice notices ih => exact ih goes

section World

variable {State : Type} {world : World State}

/-- Compiling exchanges nothing, and a fault in it ends the program. -/
theorem after_compiled_bind (past : History State) (outcome : Compiled α) (next : α → Program β) :
    past.after world (compiled outcome >>= next) =
      match outcome.result with
      | .ok value => past.after world (next value)
      | .error _ => past := by
  obtain ⟨result, _, notices⟩ := outcome
  induction notices with
  | nil =>
    cases result with
    | ok value => rfl
    | error fault => exact past.after_done world _
  | cons notice notices ih => exact ih

theorem result_compiled_bind (state : State) (outcome : Compiled α) (next : α → Program β) :
    ((compiled outcome >>= next).run world state).result =
      match outcome.result with
      | .ok value => ((next value).run world state).result
      | .error fault => .error fault := by
  obtain ⟨result, _, notices⟩ := outcome
  induction notices with
  | nil => cases result <;> rfl
  | cons notice notices ih => exact ih

end World

/-- Creating a table asks whether it exists and executes the statement of its declaration. -/
theorem asksOnly_create (schema : Schema) (table : String) (declaration : Declaration)
    (asked : asks (.hasTable (schema.tableName table)))
    (executed : ∀ statement,
      ((declaration (schema.blueprint table)).blueprint.toCreate schema.options).result =
        .ok (some statement) → asks (.execute statement)) :
    (schema.create table declaration).AsksOnly asks := by
  unfold create
  refine AsksOnly.bind ⟨asked, fun _ => trivial⟩ fun found => ?_
  split
  · trivial
  · refine asksOnly_compiled_bind fun _ _ => asksOnly_compiled_bind fun statement compiled => ?_
    cases statement with
    | none => trivial
    | some statement => exact .bind ⟨executed statement compiled, fun _ => trivial⟩ fun _ => trivial

end Tablewright.Schema
