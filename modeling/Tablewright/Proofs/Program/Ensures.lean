import Tablewright.Proofs.Program.Exchange

/-! # What a program ensures

A point is what is known at some moment of a run. A protocol says what may be asked for at a point
and to which points an event may lead. Under a protocol a program ensures an ending if it asks only
for what is permitted and ends that way whatever the answers are. The rules follow the way programs
are built, so what a program ensures is computed from its parts.

A world that follows a protocol takes a program to the ending that it ensures.
-/

namespace Tablewright

/-- What may be asked for at a point, and which points an event may lead to. -/
structure Protocol (Point : Type) where
  permits : Point → Request → Prop
  follows : Point → Event → Point → Prop

/-- Whether notices leave every point as it is. -/
def Protocol.IgnoresNotes {Point : Type} (protocol : Protocol Point) : Prop :=
  ∀ point notice next, protocol.follows point (.noted notice) next → next = point

namespace Program

variable {α β Point State : Type}

/-- Whether a program asks only for what is permitted and ends as it should. -/
def Ensures (protocol : Protocol Point) (ends : Except Fault α → Point → Prop) :
    Program α → Point → Prop
  | .done result, point => ends result point
  | .note notice rest, point =>
    ∀ next, protocol.follows point (.noted notice) next → rest.Ensures protocol ends next
  | .ask request rest, point =>
    protocol.permits point request ∧ ∀ answer next,
      protocol.follows point (.asked request answer) next →
        (rest answer).Ensures protocol ends next

/-- The ending of a first program that lets a second one go on with its value. -/
def Continues (protocol : Protocol Point) (ends : Except Fault β → Point → Prop)
    (next : α → Program β) : Except Fault α → Point → Prop
  | .ok value, point => (next value).Ensures protocol ends point
  | .error fault, point => ends (.error fault) point

section Rules

variable {protocol : Protocol Point} {ends : Except Fault α → Point → Prop} {point : Point}

@[simp] theorem continues_ok {ends : Except Fault β → Point → Prop} (next : α → Program β)
    (value : α) :
    Continues protocol ends next (.ok value) point ↔
      (next value).Ensures protocol ends point := .rfl

@[simp] theorem continues_error {ends : Except Fault β → Point → Prop} (next : α → Program β)
    (fault : Fault) :
    Continues protocol ends next (.error fault) point ↔ ends (.error fault) point := .rfl

@[simp] theorem ensures_pure (value : α) :
    (pure value : Program α).Ensures protocol ends point ↔ ends (.ok value) point := .rfl

@[simp] theorem ensures_fail (fault : Fault) :
    (fail fault : Program α).Ensures protocol ends point ↔ ends (.error fault) point := .rfl

@[simp] theorem ensures_ofExcept (result : Except Fault α) :
    (ofExcept result).Ensures protocol ends point ↔ ends result point := .rfl

@[simp] theorem ensures_say {ends : Except Fault Unit → Point → Prop} (notice : Notice) :
    (say notice).Ensures protocol ends point ↔
      ∀ next, protocol.follows point (.noted notice) next → ends (.ok ()) next := .rfl

theorem ensures_say_of_ignored {ends : Except Fault Unit → Point → Prop}
    (ignores : protocol.IgnoresNotes) (notice : Notice) (ending : ends (.ok ()) point) :
    (say notice).Ensures protocol ends point := by
  intro next follows
  rwa [ignores point notice next follows]

@[simp] theorem ensures_request (request : Request)
    {ends : Except Fault request.Answer → Point → Prop} :
    (Program.request request).Ensures protocol ends point ↔
      protocol.permits point request ∧ ∀ answer next,
        protocol.follows point (.asked request answer) next → ends answer next := .rfl

@[simp] theorem ensures_bind {ends : Except Fault β → Point → Prop} (program : Program α)
    (next : α → Program β) :
    (program >>= next).Ensures protocol ends point ↔
      program.Ensures protocol (Continues protocol ends next) point := by
  change (program.bind next).Ensures protocol ends point ↔ _
  induction program generalizing point with
  | done result => cases result <;> rfl
  | note notice rest ih => exact forall₂_congr fun after _ => ih
  | ask request rest ih =>
    exact and_congr_right fun _ => forall₂_congr fun answer after => imp_congr_right fun _ => ih _

@[simp] theorem ensures_attempt {ends : Except Fault (Except Fault α) → Point → Prop}
    (program : Program α) :
    program.attempt.Ensures protocol ends point ↔
      program.Ensures protocol (fun result => ends (.ok result)) point := by
  induction program generalizing point with
  | done result => rfl
  | note notice rest ih => exact forall₂_congr fun after _ => ih
  | ask request rest ih =>
    exact and_congr_right fun _ => forall₂_congr fun answer after => imp_congr_right fun _ => ih _

/-- A weaker ending is ensured as well. -/
theorem Ensures.imp {weaker : Except Fault α → Point → Prop} {program : Program α}
    (ensures : program.Ensures protocol ends point)
    (weaken : ∀ result point, ends result point → weaker result point) :
    program.Ensures protocol weaker point := by
  induction program generalizing point with
  | done result => exact weaken result point ensures
  | note notice rest ih => exact fun next follows => ih (ensures next follows)
  | ask request rest ih =>
    exact ⟨ensures.1, fun answer next follows => ih answer (ensures.2 answer next follows)⟩

end Rules

/-- Whether a program asks only for requests of some kind. -/
def AsksOnly (asks : Request → Prop) : Program α → Prop
  | .done _ => True
  | .note _ rest => rest.AsksOnly asks
  | .ask request rest => asks request ∧ ∀ answer, (rest answer).AsksOnly asks

/-- A program that asks only for requests of some kind asks only for those of a wider kind. -/
theorem AsksOnly.imp {asks wider : Request → Prop} {program : Program α}
    (only : program.AsksOnly asks) (weaken : ∀ request, asks request → wider request) :
    program.AsksOnly wider := by
  induction program with
  | done result => trivial
  | note notice rest ih => exact ih only
  | ask request rest ih =>
    exact ⟨weaken request only.1, fun answer => ih answer (only.2 answer)⟩

theorem AsksOnly.bind {asks : Request → Prop} {program : Program α} {next : α → Program β}
    (first : program.AsksOnly asks) (second : ∀ value, (next value).AsksOnly asks) :
    (program >>= next).AsksOnly asks := by
  change (program.bind next).AsksOnly asks
  induction program with
  | done result =>
    cases result with
    | ok value => exact second value
    | error fault => trivial
  | note notice rest ih => exact ih first
  | ask request rest ih => exact ⟨first.1, fun answer => ih answer (first.2 answer)⟩

/-- What every request of a kind leaves true is true after a program that asks for nothing else. -/
theorem AsksOnly.run_state {asks : Request → Prop} {program : Program α} {world : World State}
    {holds : State → Prop} {state : State} (only : program.AsksOnly asks)
    (leaves : ∀ request state, asks request → holds state →
      holds (world.respond request state).state) (initially : holds state) :
    holds (program.run world state).state := by
  induction program generalizing state with
  | done result => exact initially
  | note notice rest ih => exact ih only initially
  | ask request rest ih => exact ih _ (only.2 _) (leaves request state only.1 initially)

/-- What every request of a kind leaves true is true before every request of a program that asks for
nothing else. -/
theorem AsksOnly.exchanges {asks : Request → Prop} {program : Program α} {world : World State}
    {holds : State → Prop} {state : State} (only : program.AsksOnly asks)
    (leaves : ∀ request state, asks request → holds state →
      holds (world.respond request state).state) (initially : holds state) :
    ∀ exchange ∈ program.exchanges world state, holds exchange.before := by
  induction program generalizing state with
  | done result => exact fun exchange member => nomatch member
  | note notice rest ih => exact ih only initially
  | ask request rest ih =>
    refine List.forall_mem_cons.mpr ⟨initially, ?_⟩
    exact ih _ (only.2 _) (leaves request state only.1 initially)

/-- A program exchanges nothing but what it asks for. -/
theorem AsksOnly.requests {asks : Request → Prop} {program : Program α}
    (only : program.AsksOnly asks) (world : World State) (state : State) :
    ∀ exchange ∈ program.exchanges world state, asks exchange.request := by
  induction program generalizing state with
  | done result =>
    intro exchange member
    cases member
  | note notice rest ih => exact ih only state
  | ask request rest ih =>
    exact List.forall_mem_cons.mpr ⟨only.1, ih _ (only.2 _) _⟩

end Program

/-- Whether something known stays known through notices and requests of some kind, which are all
permitted. -/
structure Protocol.Keeps {Point : Type} (protocol : Protocol Point) (asks : Request → Prop)
    (known : Point → Prop) : Prop where
  noted : ∀ point notice next, known point → protocol.follows point (.noted notice) next →
    known next
  permitted : ∀ point request, known point → asks request → protocol.permits point request
  asked : ∀ point request answer next, known point → asks request →
    protocol.follows point (.asked request answer) next → known next

/-- What stays known through the requests of a program is known at its end. -/
theorem Program.AsksOnly.ensures {α Point : Type} {protocol : Protocol Point}
    {asks : Request → Prop} {known : Point → Prop} {program : Program α} {point : Point}
    (only : program.AsksOnly asks) (keeps : protocol.Keeps asks known) (holds : known point) :
    program.Ensures protocol (fun _ => known) point := by
  induction program generalizing point with
  | done result => exact holds
  | note notice rest ih =>
    exact fun next follows => ih only (keeps.noted point notice next holds follows)
  | ask request rest ih =>
    refine ⟨keeps.permitted point request holds only.1, fun answer next follows => ?_⟩
    exact ih answer (only.2 answer) (keeps.asked point request answer next holds only.1 follows)

/-- A world follows a protocol along the histories that fit: notices change no point, and what is
permitted leads to a history that fits. -/
structure World.Follows {State Point : Type} (world : World State) (protocol : Protocol Point)
    (fits : History State → Prop) (view : History State → Point) : Prop where
  noted : ∀ history notice, fits history →
    protocol.follows (view history) (.noted notice) (view history)
  stays : ∀ history request, fits history → protocol.permits (view history) request →
    fits (history.exchange world request)
  asked : ∀ history request, fits history → protocol.permits (view history) request →
    protocol.follows (view history) (world.exchange request history.state).event
      (view (history.exchange world request))

/-- A world that follows a protocol takes a program to the ending that it ensures. -/
theorem Program.Ensures.after {α State Point : Type} {world : World State}
    {protocol : Protocol Point} {fits : History State → Prop} {view : History State → Point}
    {ends : Except Fault α → Point → Prop} {program : Program α} {history : History State}
    (ensures : program.Ensures protocol ends (view history))
    (follows : world.Follows protocol fits view) (fit : fits history) :
    fits (history.after world program) ∧
      ends (program.run world history.state).result (view (history.after world program)) := by
  induction program generalizing history with
  | done result => simpa [Program.run] using ⟨fit, ensures⟩
  | note notice rest ih => exact ih (ensures _ (follows.noted history notice fit)) fit
  | ask request rest ih =>
    rw [History.after_ask]
    exact ih _ (ensures.2 _ _ (follows.asked history request fit ensures.1))
      (follows.stays history request fit ensures.1)

end Tablewright
