import Tablewright.Proofs.Program.Ensures

/-! # What is seen of a run

A point of a protocol holds what a run has to know. To tell more about a run, what is seen in its
events is collected beside the points. A program whose requests let nothing be seen ensures what it
ensured before, and nothing new is seen.
-/

namespace Tablewright

variable {α Point Seen State : Type} {protocol : Protocol Point} {observe : Event → Option Seen}

/-- The protocol that also collects what is seen in events. -/
def Protocol.observing (protocol : Protocol Point) (observe : Event → Option Seen) :
    Protocol (Point × List Seen) where
  permits point := protocol.permits point.1
  follows point event next :=
    protocol.follows point.1 event next.1 ∧ next.2 = point.2 ++ (observe event).toList

namespace Program

/-- Whether nothing is seen in what a program asks for. -/
def IsUnseen (observe : Event → Option Seen) (program : Program α) : Prop :=
  program.AsksOnly fun request => ∀ answer, observe (.asked request answer) = none

/-- Where nothing is seen, a program ensures what it ensures without an observer. -/
theorem Ensures.unseen {ends : Except Fault α → Point → Prop} {program : Program α}
    {point : Point × List Seen} (ensures : program.Ensures protocol ends point.1)
    (unseen : program.IsUnseen observe) (silent : ∀ notice, observe (.noted notice) = none) :
    program.Ensures (protocol.observing observe)
      (fun result after => ends result after.1 ∧ after.2 = point.2) point := by
  induction program generalizing point with
  | done result => exact ⟨ensures, rfl⟩
  | note notice rest ih =>
    rintro next ⟨follows, same⟩
    rw [silent, Option.toList_none, List.append_nil] at same
    rw [← same]
    exact ih (ensures next.1 follows) unseen
  | ask request rest ih =>
    obtain ⟨permitted, goes⟩ := ensures
    obtain ⟨hidden, onward⟩ := unseen
    refine ⟨permitted, ?_⟩
    rintro answer next ⟨follows, same⟩
    rw [hidden, Option.toList_none, List.append_nil] at same
    rw [← same]
    exact ih answer (goes answer next.1 follows) (onward answer)

/-- A request whose events are seen. -/
theorem ensures_request_observing {request : Request}
    {ends : Except Fault request.Answer → Point × List Seen → Prop} {point : Point × List Seen}
    (ensures : (Program.request request).Ensures protocol
      (fun answer after =>
        ends answer (after, point.2 ++ (observe (.asked request answer)).toList)) point.1) :
    (Program.request request).Ensures (protocol.observing observe) ends point := by
  obtain ⟨permitted, goes⟩ := ensures
  refine ⟨permitted, ?_⟩
  rintro answer ⟨next, _⟩ ⟨follows, rfl⟩
  exact goes answer next follows

end Program

/-- A world that follows a protocol also follows it with an observer, who has seen what is in the
exchanges of the history. -/
theorem World.Follows.observing {world : World State} {fits : History State → Prop}
    {view : History State → Point} (follows : world.Follows protocol fits view)
    (silent : ∀ notice, observe (.noted notice) = none) :
    world.Follows (protocol.observing observe) fits fun past =>
      (view past, past.exchanges.filterMap fun exchange => observe exchange.event) where
  noted past notice fit := by
    refine ⟨follows.noted past notice fit, ?_⟩
    simp [silent]
  stays := follows.stays
  asked past request fit permitted := by
    refine ⟨follows.asked past request fit permitted, ?_⟩
    simp only [History.exchange, List.filterMap_append]
    rfl

/-- What every permitted request leaves true may be added to what fits. -/
theorem World.Follows.keeping {world : World State} {fits holds : History State → Prop}
    {view : History State → Point} (follows : world.Follows protocol fits view)
    (keeps : ∀ past request, fits past → protocol.permits (view past) request → holds past →
      holds (past.exchange world request)) :
    world.Follows protocol (fun past => fits past ∧ holds past) view where
  noted past notice fit := follows.noted past notice fit.1
  stays past request fit permitted :=
    ⟨follows.stays past request fit.1 permitted, keeps past request fit.1 permitted fit.2⟩
  asked past request fit permitted := follows.asked past request fit.1 permitted

end Tablewright
