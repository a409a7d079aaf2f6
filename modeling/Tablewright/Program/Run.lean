import Tablewright.Program.Basic

/-! # Runs

A world answers requests and keeps a state. Running a program against a world gives its result, the
final state, and everything that was asked and noted on the way. What happens while a migration is
applied comes before the answer to that request.
-/

namespace Tablewright

/-- Something that happened: a request with its answer, or a notice. -/
inductive Event where
  | asked (request : Request) (answer : Except Fault request.Answer)
  | noted (notice : Notice)

/-- The notice of an event. -/
def Event.notice? : Event → Option Notice
  | .asked .. => none
  | .noted notice => some notice

/-- The request of an event. -/
def Event.request? : Event → Option Request
  | .asked request _ => some request
  | .noted _ => none

/-- How a world reacts to a request: its answer, what happened meanwhile, and its new state. -/
structure Reaction (α State : Type) where
  answer : Except Fault α
  events : List Event
  state : State

/-- Something that answers every request. -/
structure World (State : Type) where
  respond : (request : Request) → State → Reaction request.Answer State

/-- The outcome of a run. -/
structure Run (α State : Type) where
  result : Except Fault α
  events : List Event
  state : State

namespace Run

variable {α State : Type}

/-- The run with events before its own. -/
def after (events : List Event) (run : Run α State) : Run α State :=
  { run with events := events ++ run.events }

/-- What was noted in a run. -/
def notices (run : Run α State) : List Notice :=
  run.events.filterMap Event.notice?

/-- What was asked in a run. -/
def requests (run : Run α State) : List Request :=
  run.events.filterMap Event.request?

end Run

/-- Runs a program against a world. -/
def Program.run {α State : Type} (world : World State) : Program α → State → Run α State
  | .done result, state => ⟨result, [], state⟩
  | .note notice rest, state => (rest.run world state).after [.noted notice]
  | .ask request rest, state =>
    let reaction := world.respond request state
    ((rest reaction.answer).run world reaction.state).after
      (reaction.events ++ [.asked request reaction.answer])

end Tablewright
