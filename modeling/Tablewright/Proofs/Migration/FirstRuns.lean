import Tablewright.Proofs.Migration.Tracking
import Tablewright.Proofs.Program.SideBySide

/-! # First operations side by side

On a database without the tracking table several operations may find it missing, and only one of
them can create it where a table that exists cannot be created again. An operation asks for the
table and creates it by two requests, so another one can create the table in between. Exactly an
operation that is overtaken in this way fails; every other one goes on.
-/

namespace Tablewright

open Program

/-! ## Databases that refuse to create a table again -/

/-- A world that knows whether the tracking table is there, creates it if it is not, and refuses to
create it again. Applying a migration may do anything but create or drop it. -/
structure World.GuardsTable {State : Type} (world : World State) (repository : Repository)
    (usable : State → Prop) (present : State → Bool) : Prop where
  stays : ∀ state request, usable state → repository.AsksTracker request →
    usable (world.respond request state).state
  checks : ∀ state, usable state →
    (world.respond (.hasTable repository.tableName) state).answer = .ok (present state)
  creates : ∀ state, usable state → present state = false →
    (world.respond (.execute repository.creation) state).answer = .ok ()
  refuses : ∀ state, usable state → present state = true → ∃ message statement,
    (world.respond (.execute repository.creation) state).answer =
      .error (.executionFailure message statement)
  present : ∀ state request, usable state → repository.AsksTracker request →
    present (world.respond request state).state =
      (present state || decide (request = .execute repository.creation))

/-! ## Operations that overtake each other -/

namespace SideBySide

variable {Name α State : Type} [DecidableEq Name] (side : SideBySide Name α State)
  (repository : Repository) (name : Name)

omit [DecidableEq Name] in
/-- How often the tracking table was created. -/
def creations : Nat :=
  side.exchanges.countP fun entry => decide (entry.2.Creates repository)

omit [DecidableEq Name] in
/-- Whether a program asked for the creation of the tracking table after it had found the table
missing, and another one created it in between. -/
def Overtaken : Prop :=
  ∃ before check between creation after,
    side.exchanges = before ++ (name, check) :: between ++ (name, creation) :: after ∧
      check.FindsMissing repository ∧ creation.request = .execute repository.creation ∧
      ∃ entry ∈ between, entry.1 ≠ name ∧ entry.2.Creates repository

/-- Whether a program failed because the tracking table could not be created. -/
def FailsToCreate : Prop :=
  ∃ check creation message statement, side.exchangesOf name = [check, creation] ∧
    check.FindsMissing repository ∧
    creation.event = .asked (.execute repository.creation)
      (.error (.executionFailure message statement)) ∧
    side.result? name = some (.error (.executionFailure message statement))

/-- Whether a program is on its way with what it does once the tracking table is there: it has not
begun, it has found the table missing, or it has made sure of the table and goes on. -/
inductive GoesOn (present : Bool) (next : Program α) : Prop
  | waiting (own : side.exchangesOf name = [])
  | missing {check : Exchange State} (own : side.exchangesOf name = [check])
    (found : check.FindsMissing repository)
  | going {first later : List (Exchange State)} (own : side.exchangesOf name = first ++ later)
    (sure : Exchange.MakeSure repository first)
    (onward : next.Leaves later (side.programs name)) (there : present = true)

/-- Where a program is that makes sure of the tracking table before it goes on. -/
inductive Stage (present : Bool) (next : Program α) : Prop
  | waiting (own : side.exchangesOf name = [])
    (program : side.programs name =
      .ask (.hasTable repository.tableName) (repository.onCheck next))
  | missing {check : Exchange State} {before since : List (Name × Exchange State)}
    (own : side.exchangesOf name = [check]) (found : check.FindsMissing repository)
    (program : side.programs name =
      .ask (.execute repository.creation) (repository.onCreation next))
    (whole : side.exchanges = before ++ (name, check) :: since)
    (others : ∀ entry ∈ since, entry.1 ≠ name)
    (created : (∃ entry ∈ since, entry.2.Creates repository) ↔ present = true)
  | failed {fault : Fault} (program : side.programs name = .done (.error fault))
    (fails : side.FailsToCreate repository name) (overtaken : side.Overtaken repository name)
  | going {first later : List (Exchange State)} (own : side.exchangesOf name = first ++ later)
    (sure : Exchange.MakeSure repository first)
    (onward : next.Leaves later (side.programs name)) (there : present = true)

end SideBySide

/-! ## One exchange -/

section Steps

variable {Name α State : Type} [DecidableEq Name] {world : World State} {repository : Repository}
  {usable : State → Prop} {present : State → Bool} {side : SideBySide Name α State}
  {name mover : Name} {next : Program α} {request : Request}
  {rest : Except Fault request.Answer → Program α}

namespace World.GuardsTable

/-- The table is created exactly by the creation of a table that is not there. -/
theorem creates_iff (guards : world.GuardsTable repository usable present) {state : State}
    (ready : usable state) :
    (world.exchange request state).Creates repository ↔
      request = .execute repository.creation ∧ present state = false := by
  unfold Exchange.Creates
  rw [Event.executed?_eq_some]
  constructor
  · intro created
    obtain ⟨rfl, answered⟩ := Event.asked.inj created
    refine ⟨rfl, Bool.eq_false_iff.mpr fun there => ?_⟩
    obtain ⟨message, statement, refused⟩ := guards.refuses state ready there
    cases (eq_of_heq answered).symm.trans refused
  · rintro ⟨rfl, missing⟩
    exact congrArg (Event.asked (.execute repository.creation)) (guards.creates state ready missing)

/-- The table is there after an exchange if it was there before or was created by it. -/
theorem present_iff (guards : world.GuardsTable repository usable present) {state : State}
    (ready : usable state) (asks : repository.AsksTracker request) :
    present (world.respond request state).state = true ↔
      present state = true ∨ (world.exchange request state).Creates repository := by
  rw [guards.present state request ready asks, guards.creates_iff ready]
  cases present state <;> simp

end World.GuardsTable

namespace SideBySide

theorem Overtaken.exchange (overtaken : side.Overtaken repository name) :
    (side.exchange world mover request rest).Overtaken repository name := by
  obtain ⟨before, check, between, creation, after, whole, facts⟩ := overtaken
  refine ⟨before, check, between, creation, after ++ [(mover, world.exchange request side.state)],
    ?_, facts⟩
  simp [SideBySide.exchange, whole]

/-- What a program is to ask for next is what operations of a tracker ask for. -/
theorem Stage.asks (stage : side.Stage repository name (present side.state) next)
    (only : next.AsksOnly repository.AsksTabled)
    (awaits : (side.programs name).awaiting = .ask request rest) :
    repository.AsksTracker request := by
  cases stage with
  | waiting own program =>
    rw [program] at awaits
    cases awaits
    exact .check
  | missing own found program =>
    rw [program] at awaits
    cases awaits
    exact .create
  | failed program =>
    rw [program] at awaits
    cases awaits
  | going own sure onward =>
    have asked := onward.asksOnly only
    rw [awaits] at asked
    exact .tabled asked.1

/-- The exchange of another program leaves a program where it is. -/
theorem Stage.other (guards : world.GuardsTable repository usable present)
    (ready : usable side.state) (asks : repository.AsksTracker request) (apart : name ≠ mover)
    (stage : side.Stage repository name (present side.state) next) :
    (side.exchange world mover request rest).Stage repository name
      (present (side.exchange world mover request rest).state) next := by
  have same : (side.exchange world mover request rest).exchangesOf name = side.exchangesOf name :=
    exchangesOf_exchange_other apart
  have program : (side.exchange world mover request rest).programs name = side.programs name :=
    programs_exchange_other apart
  have there := guards.present_iff ready asks
  cases stage with
  | waiting own waits => exact .waiting (same.trans own) (program.trans waits)
  | @missing check before since own found waits whole others created =>
    have extended : (side.exchange world mover request rest).exchanges =
        before ++ (name, check) :: (since ++ [(mover, world.exchange request side.state)]) := by
      simp [SideBySide.exchange, whole]
    refine .missing (same.trans own) found (program.trans waits) extended ?_ ?_
    · intro entry member
      rcases List.mem_append.mp member with earlier | latest
      · exact others entry earlier
      · obtain rfl := List.mem_singleton.mp latest
        exact apart.symm
    · change _ ↔ present (world.respond request side.state).state = true
      rw [there, ← created]
      simp [or_and_right, exists_or]
  | failed ended fails overtaken =>
    refine .failed (program.trans ended) ?_ overtaken.exchange
    obtain ⟨check, creation, message, statement, own, missing, refused, ended⟩ := fails
    refine ⟨check, creation, message, statement, same.trans own, missing, refused, ?_⟩
    rw [result?, program]
    exact ended
  | going own sure onward present =>
    exact .going (same.trans own) sure (program ▸ onward) (there.mpr (.inl present))

/-- A program makes sure of the tracking table in two exchanges of its own, unless it is overtaken
between them. -/
theorem Stage.own (guards : world.GuardsTable repository usable present)
    (ready : usable side.state) (awaits : (side.programs name).awaiting = .ask request rest)
    (only : next.AsksOnly repository.AsksTabled)
    (stage : side.Stage repository name (present side.state) next) :
    (side.exchange world name request rest).Stage repository name
      (present (side.exchange world name request rest).state) next := by
  have there := guards.present_iff ready (stage.asks only awaits)
  have one : (side.exchange world name request rest).exchangesOf name =
      side.exchangesOf name ++ [world.exchange request side.state] :=
    exchangesOf_exchange_self
  have left : (side.exchange world name request rest).programs name =
      rest (world.respond request side.state).answer :=
    programs_exchange_self
  cases stage with
  | waiting own program =>
    rw [program] at awaits
    cases awaits
    rw [own, List.nil_append] at one
    have answered := guards.checks side.state ready
    rw [answered] at left
    cases known : present side.state with
    | true =>
      rw [known] at answered left
      refine .going one (.found ?_) (left ▸ .none rfl) (there.mpr (.inl known))
      exact congrArg (Event.asked _) answered
    | false =>
      rw [known] at answered left
      have whole : (side.exchange world name (.hasTable repository.tableName)
          (repository.onCheck next)).exchanges = side.exchanges ++
            [(name, world.exchange (.hasTable repository.tableName) side.state)] := rfl
      refine .missing one (congrArg (Event.asked _) answered) left whole ?_ ?_
      · intro entry member
        cases member
      · have unmade : ¬ (world.exchange (.hasTable repository.tableName) side.state).Creates
            repository := by
          rw [guards.creates_iff ready]
          rintro ⟨⟨⟩, -⟩
        change _ ↔ present (world.respond (.hasTable repository.tableName) side.state).state = true
        simp [there, known, unmade]
  | @missing check before since own found program whole others created =>
    rw [program] at awaits
    cases awaits
    rw [own] at one
    cases known : present side.state with
    | true =>
      obtain ⟨message, statement, refused⟩ := guards.refuses side.state ready known
      obtain ⟨entry, member, creates⟩ := created.mpr known
      rw [refused] at left
      have answered := congrArg (Event.asked (.execute repository.creation)) refused
      refine .failed left ⟨check, _, message, statement, one, found, answered, ?_⟩ ?_
      · rw [result?, left]
        rfl
      · refine ⟨before, check, since, world.exchange (.execute repository.creation) side.state, [],
          ?_, found, rfl, entry, member, others entry member, creates⟩
        simp [SideBySide.exchange, whole]
    | false =>
      have accepted := guards.creates side.state ready known
      have creates := (guards.creates_iff ready).mpr ⟨rfl, known⟩
      rw [accepted] at left
      have obtained := one.trans (List.append_nil _).symm
      exact .going obtained (.created found creates) (left ▸ .none rfl) (there.mpr (.inr creates))
  | failed ended =>
    rw [ended] at awaits
    cases awaits
  | @going first later own sure onward known =>
    have further := onward.concat awaits side.state
      (world.respond request side.state).state (world.respond request side.state).answer
    rw [own, List.append_assoc] at one
    exact .going one sure (left ▸ further) (there.mpr (.inl known))

/-- At every stage a program has failed because it was overtaken, or it goes on. -/
theorem Stage.fails_or_goes {there : Bool} (stage : side.Stage repository name there next) :
    side.FailsToCreate repository name ∧ side.Overtaken repository name ∨
      side.GoesOn repository name there next := by
  cases stage with
  | waiting own => exact .inr (.waiting own)
  | missing own found => exact .inr (.missing own found)
  | failed program fails overtaken => exact .inl ⟨fails, overtaken⟩
  | going own sure onward there => exact .inr (.going own sure onward there)

/-- A program that goes on has not failed to create the table. -/
theorem GoesOn.not_fails {there : Bool} (goes : side.GoesOn repository name there next) :
    ¬ side.FailsToCreate repository name := by
  rintro ⟨check, creation, message, statement, own, missing, refused, -⟩
  cases goes with
  | waiting none => cases none.symm.trans own
  | missing one => cases one.symm.trans own
  | going sure obtained =>
    cases obtained with
    | found found =>
      obtain ⟨rfl, -⟩ := List.cons.inj (sure.symm.trans own)
      cases found.symm.trans missing
    | created first created =>
      obtain ⟨-, rest⟩ := List.cons.inj (sure.symm.trans own)
      obtain ⟨rfl, -⟩ := List.cons.inj rest
      rw [Exchange.Creates, refused] at created
      cases created

theorem mem_exchangesOf {exchange : Exchange State} :
    exchange ∈ side.exchangesOf name ↔ (name, exchange) ∈ side.exchanges := by
  simp [exchangesOf]

/-- If the table is created at most once, a program that goes on has not been overtaken. -/
theorem GoesOn.not_overtaken {there : Bool} (goes : side.GoesOn repository name there next)
    (only : next.AsksOnly repository.AsksTabled) (once : side.creations repository ≤ 1) :
    ¬ side.Overtaken repository name := by
  rintro ⟨before, check, between, creation, after, whole, missing, asked, entry, member, apart,
    creates⟩
  have first : check ∈ side.exchangesOf name := mem_exchangesOf.mpr (by simp [whole])
  have second : creation ∈ side.exchangesOf name := mem_exchangesOf.mpr (by simp [whole])
  have checks : check.request = .hasTable repository.tableName := (Event.asked.inj missing).1
  cases goes with
  | waiting none =>
    rw [none] at first
    cases first
  | missing one =>
    rw [one, List.mem_singleton] at first second
    cases (first.trans second.symm ▸ checks).symm.trans asked
  | @going prepared later sure obtained onward =>
    have tabled := onward.requests only
    have early {exchange : Exchange State} (own : exchange ∈ side.exchangesOf name)
        (other : ¬ repository.AsksTabled exchange.request) : exchange ∈ prepared :=
      (List.mem_append.mp (sure ▸ own)).resolve_right fun late => other (tabled exchange late)
    have ownCheck : check ∈ prepared := early first fun later => later.no_check _ checks
    have ownCreation : creation ∈ prepared := early second fun later => later.no_statement _ asked
    cases obtained with
    | found found =>
      rw [List.mem_singleton] at ownCheck
      subst ownCheck
      cases found.symm.trans missing
    | @created check' creation' missing' created =>
      have itself : creation = creation' := by
        rcases List.mem_cons.mp ownCreation with same | latest
        · subst same
          cases (Event.asked.inj missing').1.symm.trans asked
        · exact List.mem_singleton.mp latest
      subst itself
      have others : 0 < between.countP fun entry => decide (entry.2.Creates repository) :=
        List.countP_pos_iff.mpr ⟨entry, member, by simpa using creates⟩
      rw [creations, whole] at once
      simp only [List.countP_append, List.countP_cons, created, decide_true, if_true] at once
      omega

end SideBySide

/-! ## Schedules -/

/-- Where operations side by side are that found no tracking table at first. -/
structure Racing (repository : Repository) (usable : State → Prop) (present : State → Bool)
    (operations : Name → TrackerOperation) (side : SideBySide Name OperationAnswer State) :
    Prop where
  ready : usable side.state
  counted : side.creations repository = (present side.state).toNat
  stages : ∀ name, side.Stage repository name (present side.state)
    ((operations name).prepared repository)

variable {operations : Name → TrackerOperation} {race : SideBySide Name OperationAnswer State}

theorem Racing.start {initial : State} (ready : usable initial) (absent : present initial = false) :
    Racing repository usable present operations
      (.start (fun name => (operations name).program repository) initial) where
  ready := ready
  counted := by
    change 0 = (present initial).toNat
    rw [absent]
    rfl
  stages name := .waiting rfl ((operations name).program_eq repository)

theorem Racing.exchange (guards : world.GuardsTable repository usable present)
    {rest : Except Fault request.Answer → Program OperationAnswer}
    (racing : Racing repository usable present operations race)
    (awaits : (race.programs mover).awaiting = .ask request rest) :
    Racing repository usable present operations (race.exchange world mover request rest) := by
  obtain ⟨ready, counted, stages⟩ := racing
  have asks := (stages mover).asks ((operations mover).asksOnly_prepared repository) awaits
  refine ⟨guards.stays _ request ready asks, ?_, fun name => ?_⟩
  · have once : (world.exchange request race.state).Creates repository ↔ _ :=
      guards.creates_iff ready
    have grown : (race.exchange world mover request rest).creations repository =
        race.creations repository +
          if (world.exchange request race.state).Creates repository then 1 else 0 := by
      simp [SideBySide.creations, SideBySide.exchange]
    change _ = (present (world.respond request race.state).state).toNat
    rw [grown, counted, guards.present race.state request ready asks]
    by_cases created : (world.exchange request race.state).Creates repository
    · obtain ⟨rfl, absent⟩ := once.mp created
      simp [created, absent]
    · cases known : present race.state with
      | true => simp [created]
      | false =>
        have other : request ≠ .execute repository.creation := fun same =>
          created (once.mpr ⟨same, known⟩)
        simp [created, other]
  · by_cases same : name = mover
    · subst same
      exact (stages name).own guards ready awaits
        ((operations name).asksOnly_prepared repository)
    · exact (stages name).other guards ready asks same

theorem Racing.interleave (guards : world.GuardsTable repository usable present) {initial : State}
    (ready : usable initial) (absent : present initial = false)
    (operations : Name → TrackerOperation) (schedule : List Name) :
    Racing repository usable present operations
      ((SideBySide.start (fun name => (operations name).program repository) initial).interleave
        world schedule) :=
  SideBySide.interleave_keeps (fun _ _ _ _ racing awaits => racing.exchange guards awaits)
    (.start ready absent) schedule

theorem Racing.creations_le (racing : Racing repository usable present operations race) :
    race.creations repository ≤ 1 := by
  rw [racing.counted]
  exact Bool.toNat_le _

/-- A program that asks for the table while that is missing is to create it next. -/
theorem turn_check (guards : world.GuardsTable repository usable present)
    (ready : usable side.state) (absent : present side.state = false)
    (program : side.programs name =
      .ask (.hasTable repository.tableName) (repository.onCheck next)) :
    ∃ check, check.FindsMissing repository ∧
      (side.turn world name).exchanges = side.exchanges ++ [(name, check)] ∧
      usable (side.turn world name).state ∧ present (side.turn world name).state = false ∧
      (side.turn world name).programs = Function.update side.programs name
        (.ask (.execute repository.creation) (repository.onCreation next)) := by
  have awaits : (side.programs name).awaiting =
      .ask (.hasTable repository.tableName) (repository.onCheck next) := by
    rw [program]
    rfl
  have answered := guards.checks side.state ready
  rw [absent] at answered
  rw [side.turn_eq world name awaits]
  refine ⟨world.exchange (.hasTable repository.tableName) side.state,
    congrArg (Event.asked _) answered, rfl, guards.stays _ _ ready .check, ?_, ?_⟩
  · refine (guards.present side.state _ ready .check).trans ?_
    rw [absent]
    rfl
  · simp only [SideBySide.exchange, answered]
    rfl

/-- If two operations both ask for the table before the first one creates it, the second one asks
for its creation all the same. -/
theorem second_follows (guards : world.GuardsTable repository usable present) {initial : State}
    (ready : usable initial) (absent : present initial = false)
    (operations : Name → TrackerOperation) {first second : Name} (apart : first ≠ second) :
    ∃ check missed created refused,
      ((SideBySide.start (fun name => (operations name).program repository) initial).interleave
        world [first, second, first, second]).exchanges =
          [(first, check), (second, missed), (first, created), (second, refused)] ∧
      missed.FindsMissing repository ∧ created.Creates repository ∧
      refused.request = .execute repository.creation := by
  let side := SideBySide.start (fun name => (operations name).program repository) initial
  let one := side.turn world first
  let two := one.turn world second
  let three := two.turn world first
  have begins (name : Name) : side.programs name = .ask (.hasTable repository.tableName)
      (repository.onCheck ((operations name).prepared repository)) :=
    (operations name).program_eq repository
  obtain ⟨check, -, checked, ready₁, absent₁, programs₁⟩ :=
    turn_check guards ready absent (begins first)
  have waits : one.programs second = .ask (.hasTable repository.tableName)
      (repository.onCheck ((operations second).prepared repository)) := by
    rw [programs₁, Function.update_of_ne apart.symm]
    exact begins second
  obtain ⟨missed, missing, rechecked, ready₂, absent₂, programs₂⟩ :=
    turn_check guards ready₁ absent₁ waits
  -- both have found the table missing, and the first one creates it
  have creates : (two.programs first).awaiting = .ask (.execute repository.creation)
      (repository.onCreation ((operations first).prepared repository)) := by
    rw [programs₂, Function.update_of_ne apart, programs₁, Function.update_self]
    rfl
  let created := world.exchange (.execute repository.creation) two.state
  have creating : three = two.exchange world first _ _ :=
    SideBySide.turn_eq world two first creates
  have made : three.exchanges = two.exchanges ++ [(first, created)] :=
    congrArg SideBySide.exchanges creating
  have follows : (three.programs second).awaiting = .ask (.execute repository.creation)
      (repository.onCreation ((operations second).prepared repository)) := by
    rw [creating, SideBySide.programs_exchange_other apart.symm, programs₂, Function.update_self]
    rfl
  let refused := world.exchange (.execute repository.creation) three.state
  have refusing : (three.turn world second).exchanges = three.exchanges ++ [(second, refused)] :=
    congrArg SideBySide.exchanges (SideBySide.turn_eq world three second follows)
  refine ⟨check, missed, created, refused, ?_, missing,
    (guards.creates_iff ready₂).mpr ⟨rfl, absent₂⟩, rfl⟩
  change (three.turn world second).exchanges = _
  rw [refusing, made, rechecked, checked]
  rfl

/-- Then the second one fails because of the first one, which goes on. -/
theorem second_fails (guards : world.GuardsTable repository usable present) {initial : State}
    (ready : usable initial) (absent : present initial = false)
    (operations : Name → TrackerOperation) {first second : Name} (apart : first ≠ second) :
    let side := (SideBySide.start (fun name => (operations name).program repository)
      initial).interleave world [first, second, first, second]
    side.FailsToCreate repository second ∧ side.Overtaken repository second ∧
      side.GoesOn repository first (present side.state)
        ((operations first).prepared repository) := by
  intro side
  have racing : Racing repository usable present operations side :=
    .interleave guards ready absent operations _
  obtain ⟨check, missed, created, refused, whole, missing, creates, asked⟩ :=
    second_follows guards ready absent operations apart
  have overtaken : side.Overtaken repository second :=
    ⟨[(first, check)], missed, [(first, created)], refused, [], whole, missing, asked,
      (first, created), List.mem_singleton_self _, apart, creates⟩
  refine ⟨?_, overtaken, ?_⟩
  · rcases (racing.stages second).fails_or_goes with ⟨fails, -⟩ | goes
    · exact fails
    · exact absurd overtaken (goes.not_overtaken
        ((operations second).asksOnly_prepared repository) racing.creations_le)
  · rcases (racing.stages first).fails_or_goes with ⟨fails, -⟩ | goes
    · obtain ⟨check', creation, message, statement, own, -, rejected, -⟩ := fails
      have both : side.exchangesOf first = [check, created] := by
        simp only [side, SideBySide.exchangesOf, whole]
        simp [apart.symm]
      obtain ⟨-, rest⟩ := List.cons.inj (both.symm.trans own)
      obtain ⟨rfl, -⟩ := List.cons.inj rest
      rw [Exchange.Creates, rejected] at creates
      cases creates
    · exact goes

/-- Operations started side by side on a database without the tracking table create it at most once,
and exactly once if it is there afterwards. Whatever the order of their requests, exactly those fail
to create it that found it missing and were overtaken by another one; all others go on. -/
theorem overtaken_iff (guards : world.GuardsTable repository usable present) {initial : State}
    (ready : usable initial) (absent : present initial = false)
    (operations : Name → TrackerOperation) (schedule : List Name) :
    let side := (SideBySide.start (fun name => (operations name).program repository)
      initial).interleave world schedule
    side.creations repository = (present side.state).toNat ∧ ∀ name,
      (side.FailsToCreate repository name ↔ side.Overtaken repository name) ∧
        (side.GoesOn repository name (present side.state) ((operations name).prepared repository) ↔
          ¬ side.Overtaken repository name) := by
  intro side
  have racing : Racing repository usable present operations side :=
    .interleave guards ready absent operations schedule
  refine ⟨racing.counted, fun name => ?_⟩
  rcases (racing.stages name).fails_or_goes with ⟨fails, overtaken⟩ | goes
  · exact ⟨iff_of_true fails overtaken,
      iff_of_false (fun goes => goes.not_fails fails) (not_not_intro overtaken)⟩
  · have free := goes.not_overtaken ((operations name).asksOnly_prepared repository)
      racing.creations_le
    exact ⟨iff_of_false goes.not_fails free, iff_of_true goes free⟩

end Steps

/-! ## A database that refuses to create a table again -/

namespace ScriptedWorld

/-- Answers as a world with scripted migrations does, but refuses to create a table that exists. -/
def respondStrictly (request : Request) (world : ScriptedWorld) :
    Reaction request.Answer ScriptedWorld :=
  match request with
  | .execute statement =>
    if (createdTable? statement).any (· ∈ world.database.tables) then
      ⟨.error (.executionFailure "Table already exists" (some statement)), [], world⟩
    else respond (.execute statement) world
  | other => respond other world

/-- The world whose database refuses to create a table again. -/
def strict : World ScriptedWorld :=
  ⟨respondStrictly⟩

/-- Whether no statement is to fail and no migration does anything. -/
structure IsIdle (world : ScriptedWorld) : Prop where
  accepting : world.database.failOn = ""
  unscripted : world.scripts = []

/-- Whether the tracking table is there. -/
def hasTracking (repository : Repository) (world : ScriptedWorld) : Bool :=
  decide (repository.tableName ∈ world.database.tables)

variable {repository : Repository} {world : ScriptedWorld}

theorem IsIdle.apply (idle : world.IsIdle) (migration : Migration) :
    (respond (.apply migration) world).state = world.countAttempt migration := by
  have none : world.upSteps migration = [] := by
    simp [upSteps, idle.unscripted]
  simp only [respond, none]
  rfl

/-- Apart from statements nothing changes which tables there are. -/
theorem IsIdle.keeps (idle : world.IsIdle) {request : Request}
    (other : ∀ statement, request ≠ .execute statement) :
    (respondStrictly request world).state.IsIdle ∧
      (respondStrictly request world).state.database.tables = world.database.tables := by
  obtain ⟨accepting, unscripted⟩ := idle
  cases request with
  | execute statement => exact absurd rfl (other statement)
  | hasTable | queryRows | now => exact ⟨⟨accepting, unscripted⟩, rfl⟩
  | apply migration =>
    have counted := IsIdle.apply ⟨accepting, unscripted⟩ migration
    change IsIdle (respond (.apply migration) world).state ∧
      (respond (.apply migration) world).state.database.tables = _
    rw [counted]
    exact ⟨⟨accepting, unscripted⟩, rfl⟩
  | queryScalar statement parameters =>
    obtain ⟨tables, failing⟩ := world.database.queryScalar_keeps statement parameters
    exact ⟨⟨failing.trans accepting, unscripted⟩, tables⟩
  | insert table values =>
    obtain ⟨tables, failing, -⟩ := world.database.insert_keeps table values
    exact ⟨⟨failing.trans accepting, unscripted⟩, tables⟩

theorem strict_creation_present (plain : IsPlainName repository.tableName)
    (there : world.hasTracking repository = true) :
    strict.respond (.execute repository.creation) world =
      ⟨.error (.executionFailure "Table already exists" (some repository.creation)), [],
        world⟩ := by
  have found : (createdTable? repository.creation).any (· ∈ world.database.tables) = true := by
    simpa [Repository.createdTable?_creation plain, hasTracking] using there
  change respondStrictly (.execute repository.creation) world = _
  rw [respondStrictly, if_pos found]

theorem strict_creation_absent (plain : IsPlainName repository.tableName) (idle : world.IsIdle)
    (absent : world.hasTracking repository = false) :
    strict.respond (.execute repository.creation) world =
      ⟨.ok (), [], world.withDatabase (world.database.createTable repository.tableName)⟩ := by
  have unfound : ¬ (createdTable? repository.creation).any (· ∈ world.database.tables) = true := by
    simpa [Repository.createdTable?_creation plain, hasTracking] using absent
  have accepted : world.database.refuses repository.creation = false := by
    simp [MemoryDatabase.refuses, idle.accepting]
  have created := MemoryDatabase.execute_creation accepted
    (Repository.createdTable?_creation plain)
  change respondStrictly (.execute repository.creation) world = _
  rw [respondStrictly, if_neg unfound]
  change world.reaction (world.database.execute repository.creation) = _
  rw [created]
  rfl

theorem strict_guardsTable (plain : IsPlainName repository.tableName) :
    strict.GuardsTable repository IsIdle (hasTracking repository) where
  stays world request idle asks := by
    cases asks with
    | check => exact (idle.keeps (by rintro _ ⟨⟩)).1
    | tabled asked => exact (idle.keeps asked.no_statement).1
    | create =>
      cases there : world.hasTracking repository with
      | true =>
        rw [strict_creation_present plain there]
        exact idle
      | false =>
        rw [strict_creation_absent plain idle there]
        exact ⟨MemoryDatabase.createTable_failOn.trans idle.accepting, idle.unscripted⟩
  checks world idle := rfl
  creates world idle absent := by rw [strict_creation_absent plain idle absent]
  refuses world idle there := ⟨_, _, by rw [strict_creation_present plain there]⟩
  present world request idle asks := by
    have kept (other : ∀ statement, request ≠ .execute statement) :
        hasTracking repository (strict.respond request world).state =
          (hasTracking repository world || decide (request = .execute repository.creation)) := by
      have same : (strict.respond request world).state.database.tables = world.database.tables :=
        (idle.keeps other).2
      simp [hasTracking, same, other repository.creation]
    cases asks with
    | check => exact kept (by rintro _ ⟨⟩)
    | tabled asked => exact kept asked.no_statement
    | create =>
      cases there : world.hasTracking repository with
      | true =>
        rw [strict_creation_present plain there]
        simpa using there
      | false =>
        rw [strict_creation_absent plain idle there]
        simp [hasTracking, withDatabase, MemoryDatabase.mem_createTable]

/-- A world without tables, in which migrations do nothing. -/
def vacant : ScriptedWorld :=
  { fresh with scripts := [] }

theorem vacant_isIdle : vacant.IsIdle :=
  ⟨rfl, rfl⟩

/-- A run of migrations and a view of what is pending, side by side. -/
def firstOperations : Bool → TrackerOperation
  | true => .run [.migration createUsers]
  | false => .pending [.migration createUsers]

/-- Two first operations on a strict database fail each other under some schedule. -/
theorem vacant_race :
    strict.GuardsTable tracking IsIdle (hasTracking tracking) ∧ vacant.IsIdle ∧
      vacant.hasTracking tracking = false ∧
      ¬ ∀ (schedule : List Bool) (name : Bool),
        ¬ ((SideBySide.start (fun name => (firstOperations name).program tracking)
          vacant).interleave strict schedule).FailsToCreate tracking name := by
  have guards := strict_guardsTable isPlainName_tracking
  refine ⟨guards, vacant_isIdle, rfl, fun none => ?_⟩
  have fails := second_fails guards vacant_isIdle rfl firstOperations (Bool.false_ne_true).symm
  exact none [true, false, true, false] false fails.1

/-- The view is overtaken by the run and fails, the run goes on, and the table is created. -/
theorem vacant_overtaken :
    let side := (SideBySide.start (fun name => (firstOperations name).program tracking)
      vacant).interleave strict [true, false, true, false]
    strict.GuardsTable tracking IsIdle (hasTracking tracking) ∧ vacant.IsIdle ∧
      vacant.hasTracking tracking = false ∧
      side.creations tracking = (hasTracking tracking side.state).toNat ∧
      side.FailsToCreate tracking false ∧ ¬ side.Overtaken tracking true := by
  intro side
  have guards := strict_guardsTable isPlainName_tracking
  have apart : true ≠ false := Bool.false_ne_true.symm
  obtain ⟨-, overtaken, goes⟩ := second_fails guards vacant_isIdle rfl firstOperations apart
  obtain ⟨counted, each⟩ :=
    overtaken_iff guards vacant_isIdle rfl firstOperations [true, false, true, false]
  exact ⟨guards, vacant_isIdle, rfl, counted, (each false).1.mpr overtaken, (each true).2.mp goes⟩

end ScriptedWorld

end Tablewright
