import Tablewright.Program.Basic

/-! # The laws of programs

Programs go on with each other like computations in any lawful monad, so a program that is written
in steps can be cut between any two of them.
-/

namespace Tablewright.Program

variable {α β γ : Type}

private theorem bind_done (program : Program α) :
    (program.bind fun value => .done (.ok value)) = program := by
  induction program with
  | done result => cases result <;> rfl
  | note notice rest ih => exact congrArg (note notice) ih
  | ask request rest ih => exact congrArg (ask request) (funext ih)

private theorem bind_bind (program : Program α) (next : α → Program β) (last : β → Program γ) :
    (program.bind next).bind last = program.bind fun value => (next value).bind last := by
  induction program with
  | done result => cases result <;> rfl
  | note notice rest ih => exact congrArg (note notice) ih
  | ask request rest ih => exact congrArg (ask request) (funext ih)

instance : LawfulMonad Program :=
  LawfulMonad.mk' Program bind_done (fun _ _ => rfl) bind_bind

end Tablewright.Program
