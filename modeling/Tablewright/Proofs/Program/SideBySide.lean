import Mathlib.Logic.Function.Basic
import Tablewright.Proofs.Program.Ensures

/-! # Programs side by side

Several programs run against one world and take turns in any order. In its turn a program goes on to
its next request, and that is answered at once; notices before the request concern nobody else. The
exchanges of all programs are kept in one order, each with the name of its program.
-/

namespace Tablewright

namespace Program

variable {α Point : Type}

/-- The program from its next request on. -/
def awaiting : Program α → Program α
  | .note _ rest => rest.awaiting
  | program => program

/-- The result of a program that has no requests left. -/
def result? : Program α → Option (Except Fault α)
  | .done result => some result
  | .note _ rest => rest.result?
  | .ask .. => none

variable {protocol : Protocol Point} {ends : Except Fault α → Point → Prop} {point : Point}

/-- Where notices change no point, a program ensures the same from its next request on. -/
theorem Ensures.awaiting {program : Program α}
    (noted : ∀ notice, protocol.follows point (.noted notice) point)
    (ensures : program.Ensures protocol ends point) :
    program.awaiting.Ensures protocol ends point := by
  induction program with
  | done result => exact ensures
  | note notice rest ih => exact ih (ensures point (noted notice))
  | ask request rest ih => exact ensures

/-- Where notices change no point, a program without requests left has ended as it should. -/
theorem Ensures.result {program : Program α} {result : Except Fault α}
    (noted : ∀ notice, protocol.follows point (.noted notice) point)
    (ensures : program.Ensures protocol ends point) (finished : program.result? = some result) :
    ends result point := by
  induction program with
  | done own => exact Option.some.inj finished ▸ ensures
  | note notice rest ih => exact ih (ensures point (noted notice)) finished
  | ask request rest ih => exact nomatch finished

/-- From its next request on a program asks for what it asks for. -/
theorem asksOnly_awaiting {asks : Request → Prop} {program : Program α}
    (only : program.AsksOnly asks) : program.awaiting.AsksOnly asks := by
  induction program with
  | done result => trivial
  | note notice rest ih => exact ih only
  | ask request rest ih => exact only

/-- What is left of a program after exchanges of its own, apart from notices. -/
inductive Leaves {State : Type} : Program α → List (Exchange State) → Program α → Prop
  | none {program left : Program α} (same : left.awaiting = program.awaiting) :
    Leaves program [] left
  | asked {program left : Program α} {request : Request}
      {rest : Except Fault request.Answer → Program α} {exchanges : List (Exchange State)}
      (next : program.awaiting = .ask request rest) (before after : State)
      {answer : Except Fault request.Answer} (onward : Leaves (rest answer) exchanges left) :
    Leaves program (⟨before, request, answer, after⟩ :: exchanges) left

namespace Leaves

variable {State : Type} {program left : Program α} {exchanges : List (Exchange State)}

/-- The next request that is answered leaves what goes on with the answer. -/
theorem concat (leaves : program.Leaves exchanges left) {request : Request}
    {rest : Except Fault request.Answer → Program α} (next : left.awaiting = .ask request rest)
    (before after : State) (answer : Except Fault request.Answer) :
    program.Leaves (exchanges ++ [⟨before, request, answer, after⟩]) (rest answer) := by
  induction leaves with
  | none same => exact .asked (same.symm.trans next) before after (.none rfl)
  | asked first earlier later onward ih => exact .asked first earlier later (ih next)

theorem asksOnly {asks : Request → Prop} (leaves : program.Leaves exchanges left)
    (only : program.AsksOnly asks) : left.awaiting.AsksOnly asks := by
  induction leaves with
  | none same => exact same ▸ asksOnly_awaiting only
  | asked next before after onward ih =>
    have asked := asksOnly_awaiting only
    rw [next] at asked
    exact ih (asked.2 _)

theorem requests {asks : Request → Prop} (leaves : program.Leaves exchanges left)
    (only : program.AsksOnly asks) : ∀ exchange ∈ exchanges, asks exchange.request := by
  induction leaves with
  | none same =>
    intro exchange member
    cases member
  | asked next before after onward ih =>
    have asked := asksOnly_awaiting only
    rw [next] at asked
    exact List.forall_mem_cons.mpr ⟨asked.1, ih (asked.2 _)⟩

end Leaves

end Program

/-- Programs side by side: what is left of each, what all of them exchanged with the world, and the
state of the world. -/
structure SideBySide (Name α State : Type) where
  programs : Name → Program α
  exchanges : List (Name × Exchange State)
  state : State

namespace SideBySide

variable {Name α State : Type}

/-- Programs that have not begun. -/
def start (programs : Name → Program α) (state : State) : SideBySide Name α State :=
  ⟨programs, [], state⟩

/-- The result of a program that has ended. -/
def result? (side : SideBySide Name α State) (name : Name) : Option (Except Fault α) :=
  (side.programs name).result?

variable [DecidableEq Name] (world : World State) (side : SideBySide Name α State) (name : Name)

/-- What a program exchanged. -/
def exchangesOf : List (Exchange State) :=
  (side.exchanges.filter fun entry => entry.1 = name).map (·.2)

/-- A program has its request answered and is left with the rest. -/
def exchange (request : Request) (rest : Except Fault request.Answer → Program α) :
    SideBySide Name α State where
  programs := Function.update side.programs name
    (rest (world.respond request side.state).answer)
  exchanges := side.exchanges ++ [(name, world.exchange request side.state)]
  state := (world.respond request side.state).state

/-- A turn of one program. Nothing happens if it has no requests left. -/
def turn : SideBySide Name α State :=
  match (side.programs name).awaiting with
  | .ask request rest => side.exchange world name request rest
  | _ => side

/-- In its turn a program has its next request answered. -/
theorem turn_eq {request : Request} {rest : Except Fault request.Answer → Program α}
    (awaits : (side.programs name).awaiting = .ask request rest) :
    side.turn world name = side.exchange world name request rest := by
  simp only [turn, awaits]

/-- Turns in the order of a schedule. -/
def interleave (schedule : List Name) : SideBySide Name α State :=
  schedule.foldl (turn world) side

/-- What holds at the beginning and is kept by every exchange holds under every schedule. -/
theorem interleave_keeps {world : World State} {holds : SideBySide Name α State → Prop}
    (kept : ∀ side name request rest, holds side →
      (side.programs name).awaiting = .ask request rest →
        holds (side.exchange world name request rest))
    {side : SideBySide Name α State} (initially : holds side) (schedule : List Name) :
    holds (side.interleave world schedule) := by
  induction schedule generalizing side with
  | nil => exact initially
  | cons name schedule ih =>
    refine ih ?_
    unfold turn
    split
    · rename_i request rest next
      exact kept side name request rest initially next
    · exact initially

variable {world side name} {request : Request}
  {rest : Except Fault request.Answer → Program α}

@[simp] theorem exchangesOf_exchange_self :
    (side.exchange world name request rest).exchangesOf name =
      side.exchangesOf name ++ [world.exchange request side.state] := by
  simp [exchangesOf, exchange]

theorem exchangesOf_exchange_other {other : Name} (different : other ≠ name) :
    (side.exchange world name request rest).exchangesOf other = side.exchangesOf other := by
  simp [exchangesOf, exchange, different.symm]

theorem programs_exchange_self :
    (side.exchange world name request rest).programs name =
      rest (world.respond request side.state).answer :=
  Function.update_self ..

theorem programs_exchange_other {other : Name} (different : other ≠ name) :
    (side.exchange world name request rest).programs other = side.programs other :=
  Function.update_of_ne different ..

end SideBySide

end Tablewright
