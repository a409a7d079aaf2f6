import Tablewright.Program.Run

/-! # Exchanges of a program with its world

An exchange is one request that a program made itself, with the answer and the states around it.
What a world does meanwhile is not an exchange of the program. A history is what has been exchanged
so far and the state that is left; programs that run one after another extend it, whether they fail
or not.
-/

namespace Tablewright

/-- One request of a program, with its answer and the states around it. -/
structure Exchange (State : Type) where
  before : State
  request : Request
  answer : Except Fault request.Answer
  after : State

/-- The event of an exchange. -/
def Exchange.event {State : Type} (exchange : Exchange State) : Event :=
  .asked exchange.request exchange.answer

/-- What a world makes of a request. -/
def World.exchange {State : Type} (world : World State) (request : Request) (state : State) :
    Exchange State :=
  ⟨state, request, (world.respond request state).answer, (world.respond request state).state⟩

namespace Program

variable {α β State : Type}

/-- What a program exchanges with a world. -/
def exchanges (world : World State) : Program α → State → List (Exchange State)
  | .done _, _ => []
  | .note _ rest, state => rest.exchanges world state
  | .ask request rest, state =>
    world.exchange request state ::
      (rest (world.respond request state).answer).exchanges world
        (world.respond request state).state

/-- A program that goes on with the value of another adds its own exchanges. -/
theorem exchanges_bind (world : World State) (program : Program α) (next : α → Program β)
    (state : State) :
    (program.bind next).exchanges world state =
      program.exchanges world state ++
        match (program.run world state).result with
        | .ok value => (next value).exchanges world (program.run world state).state
        | .error _ => [] := by
  induction program generalizing state with
  | done result => cases result <;> rfl
  | note notice rest ih => exact ih state
  | ask request rest ih =>
    simp only [bind, exchanges, ih, List.cons_append]
    rfl

theorem run_bind_result (world : World State) (program : Program α) (next : α → Program β)
    (state : State) :
    ((program.bind next).run world state).result =
      match (program.run world state).result with
      | .ok value => ((next value).run world (program.run world state).state).result
      | .error fault => .error fault := by
  induction program generalizing state with
  | done result => cases result <;> rfl
  | note notice rest ih => exact ih state
  | ask request rest ih => exact ih _ _

theorem run_bind_state (world : World State) (program : Program α) (next : α → Program β)
    (state : State) :
    ((program.bind next).run world state).state =
      match (program.run world state).result with
      | .ok value => ((next value).run world (program.run world state).state).state
      | .error _ => (program.run world state).state := by
  induction program generalizing state with
  | done result => cases result <;> rfl
  | note notice rest ih => exact ih state
  | ask request rest ih => exact ih _ _

/-- The run of a request and what goes on with its answer. -/
theorem run_request_bind (world : World State) (request : Request)
    (next : request.Answer → Program β) (state : State) :
    (Program.request request >>= next).run world state =
      Run.after
        ((world.respond request state).events ++
          [.asked request (world.respond request state).answer])
        (match (world.respond request state).answer with
        | .ok value => (next value).run world (world.respond request state).state
        | .error fault => ⟨.error fault, [], (world.respond request state).state⟩) := by
  change Run.after _ (((Program.done (world.respond request state).answer).bind next).run world
    (world.respond request state).state) = _
  cases (world.respond request state).answer <;> rfl

theorem result_request_bind (world : World State) (request : Request)
    (next : request.Answer → Program β) (state : State) :
    ((Program.request request >>= next).run world state).result =
      match (world.respond request state).answer with
      | .ok value => ((next value).run world (world.respond request state).state).result
      | .error fault => .error fault := by
  rw [run_request_bind]
  cases (world.respond request state).answer <;> rfl

theorem state_request_bind (world : World State) (request : Request)
    (next : request.Answer → Program β) (state : State) :
    ((Program.request request >>= next).run world state).state =
      match (world.respond request state).answer with
      | .ok value => ((next value).run world (world.respond request state).state).state
      | .error _ => (world.respond request state).state := by
  rw [run_request_bind]
  cases (world.respond request state).answer <;> rfl

/-- A program that begins with a request exchanges that and goes on with its answer. -/
theorem exchanges_request_bind (world : World State) (request : Request)
    (next : request.Answer → Program β) (state : State) :
    (Program.request request >>= next).exchanges world state =
      world.exchange request state ::
        match (world.respond request state).answer with
        | .ok value => (next value).exchanges world (world.respond request state).state
        | .error _ => [] := by
  change world.exchange request state :: ((Program.done (world.respond request state).answer).bind
    next).exchanges world (world.respond request state).state = _
  cases (world.respond request state).answer <;> rfl

end Program

/-- What has been exchanged with a world so far, and the state that is left. -/
structure History (State : Type) where
  exchanges : List (Exchange State)
  state : State

namespace History

variable {State : Type}

/-- The history in which nothing has been exchanged. -/
def start (state : State) : History State :=
  ⟨[], state⟩

/-- The history after one more exchange. -/
def exchange (history : History State) (world : World State) (request : Request) :
    History State :=
  ⟨history.exchanges ++ [world.exchange request history.state],
    (world.respond request history.state).state⟩

/-- The history after a program, whether that fails or not. -/
def after {α : Type} (history : History State) (world : World State) (program : Program α) :
    History State :=
  ⟨history.exchanges ++ program.exchanges world history.state,
    (program.run world history.state).state⟩

variable {α β : Type} (history : History State) (world : World State)

@[simp] theorem after_done (result : Except Fault α) :
    history.after world (.done result) = history := by
  simp [after, Program.exchanges, Program.run]

@[simp] theorem after_note (notice : Notice) (rest : Program α) :
    history.after world (.note notice rest) = history.after world rest := rfl

@[simp] theorem after_ask (request : Request) (rest : Except Fault request.Answer → Program α) :
    history.after world (.ask request rest) =
      (history.exchange world request).after world
        (rest (world.respond request history.state).answer) := by
  simp only [after, exchange, Program.exchanges, List.append_assoc, List.cons_append,
    List.nil_append, Program.run, Run.after]

/-- A history goes through a request and then through what goes on with its answer. -/
theorem after_request_bind (request : Request) (next : request.Answer → Program β) :
    history.after world (Program.request request >>= next) =
      match (world.respond request history.state).answer with
      | .ok value => (history.exchange world request).after world (next value)
      | .error _ => history.exchange world request := by
  change history.after world (.ask request fun answer => (Program.done answer).bind next) = _
  rw [after_ask]
  cases (world.respond request history.state).answer with
  | ok value => rfl
  | error fault => exact after_done _ world _

/-- A history goes through a program and then through what goes on with its value. -/
theorem after_bind (program : Program α) (next : α → Program β) :
    history.after world (program.bind next) =
      match (program.run world history.state).result with
      | .ok value => (history.after world program).after world (next value)
      | .error _ => history.after world program := by
  cases finished : (program.run world history.state).result with
  | ok value =>
    simp only [after, Program.exchanges_bind, Program.run_bind_state, finished,
      List.append_assoc]
  | error fault =>
    simp only [after, Program.exchanges_bind, Program.run_bind_state, finished, List.append_nil]

/-- What is made of the value of a program exchanges nothing. -/
theorem after_bind_pure (program : Program α) (make : α → β) :
    (history.after world (program >>= fun value => pure (make value))) =
      history.after world program := by
  change history.after world (program.bind fun value => .done (.ok (make value))) = _
  rw [after_bind]
  split
  · exact after_done _ world _
  · rfl

end History

/-- What is made of the value of a program changes nothing else in its run. -/
theorem Program.run_bind_pure {α β State : Type} (world : World State) (program : Program α)
    (make : α → β) (state : State) :
    (program >>= fun value => pure (make value)).run world state =
      ⟨(program.run world state).result.map make, (program.run world state).events,
        (program.run world state).state⟩ := by
  induction program generalizing state with
  | done result => cases result <;> rfl
  | note notice rest ih => exact congrArg (Run.after _) (ih state)
  | ask request rest ih => exact congrArg (Run.after _) (ih _ _)

end Tablewright
