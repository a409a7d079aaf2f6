import Tablewright.Proofs.Program.Ensures

/-! # Traces of programs

The trace of a program is what it asks for itself, with the answers, and what it notes itself. What
a world does meanwhile, for one while a migration is applied, belongs to the run and not to the
trace.

A rule about traces permits a request or not by everything that happened before it. A program that
ensures an ending under such a rule keeps to it at every single request of its trace, in every world
that gives only the answers reckoned with.
-/

namespace Tablewright

namespace Program

variable {α State : Type}

/-- What a program asks for and notes itself in a world. -/
def trace (world : World State) : Program α → State → List Event
  | .done _, _ => []
  | .note notice rest, state => .noted notice :: rest.trace world state
  | .ask request rest, state =>
    (world.exchange request state).event ::
      (rest (world.respond request state).answer).trace world (world.respond request state).state

/-- What is in the trace happens in the run, in that order. -/
theorem trace_sublist (world : World State) (program : Program α) (state : State) :
    (program.trace world state).Sublist (program.run world state).events := by
  induction program generalizing state with
  | done result => exact .slnil
  | note notice rest ih => exact (ih state).cons_cons _
  | ask request rest ih =>
    have onward := ih (world.respond request state).answer (world.respond request state).state
    have meanwhile := List.nil_sublist (world.respond request state).events
    simpa [run, Run.after, trace, World.exchange, Exchange.event] using
      meanwhile.append (onward.cons_cons (world.exchange request state).event)

end Program

/-- The protocol of a run that is judged by its trace: everything that happened so far decides what
may be asked for, and only some events occur. -/
def Protocol.tracing (permits : List Event → Request → Prop) (occurs : Event → Prop) :
    Protocol (List Event) where
  permits := permits
  follows earlier event later := occurs event ∧ later = earlier ++ [event]

namespace Program

variable {α State : Type} {permits : List Event → Request → Prop} {occurs : Event → Prop}
  {earlier : List Event}

/-- A request is judged by what happened before it, and is part of that for what comes next. -/
theorem ensures_request_tracing {request : Request}
    {ends : Except Fault request.Answer → List Event → Prop} (permitted : permits earlier request)
    (answered : ∀ answer, occurs (.asked request answer) →
      ends answer (earlier ++ [.asked request answer])) :
    (Program.request request).Ensures (.tracing permits occurs) ends earlier := by
  refine ⟨permitted, ?_⟩
  rintro answer _ ⟨occurred, rfl⟩
  exact answered answer occurred

theorem ensures_say_tracing {notice : Notice} {ends : Except Fault Unit → List Event → Prop}
    (noted : ends (.ok ()) (earlier ++ [.noted notice])) :
    (say notice).Ensures (.tracing permits occurs) ends earlier := by
  rintro _ ⟨-, rfl⟩
  exact noted

/-- A program that ensures an ending keeps to the rule throughout its trace, and ends so with it. -/
theorem Ensures.traced {world : World State} {ends : Except Fault α → List Event → Prop}
    {program : Program α} (ensures : program.Ensures (.tracing permits occurs) ends earlier)
    (noted : ∀ notice, occurs (.noted notice))
    (answered : ∀ request state, occurs (world.exchange request state).event) (state : State) :
    ends (program.run world state).result (earlier ++ program.trace world state) ∧
      ∀ before request answer after,
        program.trace world state = before ++ .asked request answer :: after →
          permits (earlier ++ before) request := by
  induction program generalizing earlier state with
  | done result =>
    refine ⟨?_, fun before request answer after split => ?_⟩
    · rw [trace, List.append_nil]
      exact ensures
    · cases before <;> cases split
  | note notice rest ih =>
    obtain ⟨ending, each⟩ := ih (ensures _ ⟨noted notice, rfl⟩) state
    rw [List.append_assoc] at ending
    refine ⟨ending, fun before request answer after split => ?_⟩
    rcases List.cons_eq_append_iff.mp split with ⟨-, impossible⟩ | ⟨within, rfl, further⟩
    · cases impossible
    · rw [List.append_cons]
      exact each within request answer after further
  | ask asked rest ih =>
    obtain ⟨permitted, goes⟩ := ensures
    obtain ⟨ending, each⟩ := ih _ (goes _ _ ⟨answered asked state, rfl⟩)
      (world.respond asked state).state
    rw [List.append_assoc] at ending
    refine ⟨ending, fun before request answer after split => ?_⟩
    rcases List.cons_eq_append_iff.mp split with ⟨rfl, first⟩ | ⟨within, rfl, further⟩
    · obtain ⟨same, -⟩ := List.cons.inj first
      obtain ⟨rfl, -⟩ := Event.asked.inj same
      rw [List.append_nil]
      exact permitted
    · rw [List.append_cons]
      exact each within request answer after further

end Program

end Tablewright
