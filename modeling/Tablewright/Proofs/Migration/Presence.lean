import Tablewright.Proofs.Migration.Tracking

/-! # Presence of the tracking table

An operation of a tracker relies on its tracking table, which may have been dropped since the last
operation. On a database in memory that accepts the statements about it, the table is there whenever
rows are read or added: an operation that finds it missing creates it first, and one that finds it
executes nothing. After a drop the next run starts with the first batch again.
-/

namespace Tablewright

open Program

/-! ## Databases in memory -/

/-- Whether a request is for the database. -/
def Request.ForDatabase : Request → Prop
  | .now | .apply _ => False
  | .hasTable _ | .execute _ | .queryScalar .. | .queryRows _ | .insert .. => True

/-- Whether a request reads or adds rows. -/
def Request.UsesRows : Request → Prop
  | .queryScalar .. | .queryRows _ | .insert .. => True
  | .hasTable _ | .execute _ | .now | .apply _ => False

/-- The table that a request names. -/
def Request.table? : Request → Option String
  | .hasTable table | .insert table _ => some table
  | .execute statement => (createdTable? statement).or (droppedTable? statement)
  | .queryScalar statement _ | .queryRows statement => queriedTable? statement
  | .now | .apply _ => none

namespace MemoryDatabase

variable (database : MemoryDatabase)

/-- What a database makes of a request that is for it. -/
def answer? : (request : Request) → Option (Except Fault request.Answer × MemoryDatabase)
  | .hasTable table => some (.ok (decide (table ∈ database.tables)), database)
  | .execute statement => some (database.execute statement)
  | .queryScalar statement parameters => some (database.queryScalar statement parameters)
  | .queryRows statement => some (.ok (database.queryRows statement), database)
  | .insert table values => some (database.insert table values)
  | .now | .apply _ => none

end MemoryDatabase

/-! ## Steps of a session -/

/-- A step of a session: an operation of a tracker, or a drop of its tracking table. -/
inductive TrackerStep where
  | perform (operation : TrackerOperation)
  | drop

namespace TrackerStep

/-- Whether a step is a run of migrations. -/
def IsRun : TrackerStep → Prop
  | .perform (.run _) => True
  | _ => False

/-- The state after a step, whether it fails or not. -/
def stateAfter {State : Type} (world : World State) (repository : Repository) (state : State) :
    TrackerStep → State
  | .perform operation => ((operation.program repository).run world state).state
  | .drop => ((repository.schema.drop repository.table).run world state).state

/-- The state after steps in turn. -/
def stateAfterAll {State : Type} (world : World State) (repository : Repository) (initial : State)
    (steps : List TrackerStep) : State :=
  steps.foldl (stateAfter world repository) initial

/-- Whether the tracking table was dropped in steps, and no run followed. -/
def AwaitRun (steps : List TrackerStep) : Prop :=
  ∃ earlier since, steps = earlier ++ .drop :: since ∧ ∀ step ∈ since, ¬ step.IsRun

end TrackerStep

namespace Repository

variable (repository : Repository)

/-- The statement that drops the tracking table. -/
def removal : String :=
  dropText repository.tableName

/-- What is asked for in a session. -/
inductive AsksSession : Request → Prop
  | tracker {request : Request} (asked : repository.AsksTracker request) : AsksSession request
  | drop : AsksSession (.execute repository.removal)

/-- What is asked for in a session as long as nothing is run. -/
inductive AsksToView : Request → Prop
  | check : AsksToView (.hasTable repository.tableName)
  | create : AsksToView (.execute repository.creation)
  | rows : AsksToView (.queryRows repository.rowsQuery)
  | drop : AsksToView (.execute repository.removal)

end Repository

/-- A world whose database is one in memory, in the usable states. It accepts the statements that
create and drop the tracking table, and no answers are given in advance. Applying a migration may do
anything but drop that table. -/
structure World.RunsInMemory {State : Type} (world : World State) (repository : Repository)
    (usable : State → Prop) (database : State → MemoryDatabase) : Prop where
  stays : ∀ state request, usable state → repository.AsksSession request →
    usable (world.respond request state).state
  answers : ∀ state request outcome, usable state →
    (database state).answer? request = some outcome →
      (world.respond request state).answer = outcome.1 ∧
        database (world.respond request state).state = outcome.2
  ticks : ∀ state, usable state → database (world.respond .now state).state = database state
  spares : ∀ state migration, usable state → repository.tableName ∈ (database state).tables →
    repository.tableName ∈ (database (world.respond (.apply migration) state).state).tables
  accepts : ∀ state statement, usable state →
    statement = repository.creation ∨ statement = repository.removal →
      (database state).refuses statement = false
  unarranged : ∀ state, usable state → (database state).scalars = []

/-! ## Operations on the table -/

section Operations

variable {α State : Type} {world : World State} {repository : Repository} {usable : State → Prop}
  {database : State → MemoryDatabase} {state : State}

namespace Repository

/-- How the exchanges of an operation use the tracking table. -/
structure UsesTable (repository : Repository) (database : State → MemoryDatabase) (before : State)
    (exchanges : List (Exchange State)) : Prop where
  /-- The table is there whenever rows are read or added. -/
  there : ∀ exchange ∈ exchanges, exchange.request.UsesRows →
    repository.tableName ∈ (database exchange.before).tables
  /-- The table is created if it was missing, and nothing else is executed. -/
  executed : exchanges.filterMap (·.event.executed?) =
    if repository.tableName ∈ (database before).tables then [] else [repository.creation]
  /-- Making sure of the table comes before everything else. -/
  first : ∃ first later, exchanges = first ++ later ∧ Exchange.MakeSure repository first ∧
    ∀ exchange ∈ later, repository.AsksTabled exchange.request
  /-- Everything is about one table. -/
  named : ∀ exchange ∈ exchanges, exchange.request.ForDatabase →
    exchange.request.table? = some (repository.schema.tablePrefix ++ repository.table)

/-- Whether exchanges of a run make sure of the tracking table, find no batch in it and go on in the
first one. -/
def StartsAnew (repository : Repository) (exchanges : List (Exchange State)) : Prop :=
  ∃ first query later, exchanges = first ++ query :: later ∧ Exchange.MakeSure repository first ∧
    query.event = .asked repository.batchRequest (.ok .null) ∧
    ∀ exchange ∈ later, repository.AsksToApply 1 exchange.request

/-- Where an operation goes on once it has made sure of the tracking table. -/
structure MadeSure (repository : Repository) (usable : State → Prop)
    (database : State → MemoryDatabase) (before : State) (first : List (Exchange State))
    (next : State) : Prop where
  sure : Exchange.MakeSure repository first
  executed : first.filterMap (·.event.executed?) =
    if repository.tableName ∈ (database before).tables then [] else [repository.creation]
  ready : usable next
  there : repository.tableName ∈ (database next).tables
  rows : (database next).rows repository.tableName = (database before).rows repository.tableName

theorem AsksToView.session {request : Request} (asked : repository.AsksToView request) :
    repository.AsksSession request := by
  cases asked with
  | check => exact .tracker .check
  | create => exact .tracker .create
  | rows => exact .tracker (.tabled .rows)
  | drop => exact .drop

/-- What an operation asks for after it has made sure of the table is about that table. -/
theorem AsksTabled.table? {request : Request} (plain : IsPlainName repository.tableName)
    (asked : repository.AsksTabled request) (database : request.ForDatabase) :
    request.table? = some repository.tableName := by
  cases asked with
  | rows => exact queriedTable?_rowsQuery repository plain
  | batch => exact queriedTable?_batchQuery repository plain
  | applying batch asked =>
    cases asked with
    | count identifier => exact queriedTable?_countQuery repository plain
    | record identifier moment => rfl
    | now => exact database.elim
    | apply migration => exact database.elim

end Repository

namespace Exchange.MakeSure

variable {first : List (Exchange State)}

/-- Making sure of the table asks for it and may create it. -/
theorem request (sure : Exchange.MakeSure repository first) :
    ∀ exchange ∈ first, exchange.request = .hasTable repository.tableName ∨
      exchange.request = .execute repository.creation := by
  have asks {exchange : Exchange State} {request : Request} {answer : Except Fault request.Answer}
      (same : exchange.event = .asked request answer) : exchange.request = request :=
    (Event.asked.inj same).1
  intro exchange member
  cases sure with
  | found found =>
    obtain rfl := List.mem_singleton.mp member
    exact .inl (asks found)
  | created missing created =>
    rcases List.mem_pair.mp member with rfl | rfl
    · exact .inl (asks missing)
    · exact .inr (asks (Event.executed?_eq_some.mp created))

theorem unused (sure : Exchange.MakeSure repository first) :
    ∀ exchange ∈ first, ¬ exchange.request.UsesRows := by
  intro exchange member
  rcases sure.request exchange member with same | same <;> rw [same] <;> exact id

theorem table? (sure : Exchange.MakeSure repository first)
    (plain : IsPlainName repository.tableName) :
    ∀ exchange ∈ first, exchange.request.table? = some repository.tableName := by
  intro exchange member
  rcases sure.request exchange member with same | same
  · rw [same]
    rfl
  · rw [same, Request.table?, Repository.createdTable?_creation plain]
    rfl

end Exchange.MakeSure

namespace World.RunsInMemory

/-- The table that is there stays there while an operation goes on. -/
theorem stays_there (memory : world.RunsInMemory repository usable database) {request : Request}
    (asked : repository.AsksTabled request) (ready : usable state)
    (there : repository.tableName ∈ (database state).tables) :
    usable (world.respond request state).state ∧
      repository.tableName ∈ (database (world.respond request state).state).tables := by
  refine ⟨memory.stays state request ready (.tracker (.tabled asked)), ?_⟩
  have counted (statement : String) (parameters : Option Row) :
      repository.tableName ∈
        (database (world.respond (.queryScalar statement parameters) state).state).tables := by
    rw [(memory.answers state (.queryScalar statement parameters) _ ready rfl).2,
      (MemoryDatabase.queryScalar_keeps _ _ _).1]
    exact there
  cases asked with
  | rows =>
    rw [(memory.answers state (.queryRows repository.rowsQuery) _ ready rfl).2]
    exact there
  | batch => exact counted _ _
  | applying batch asked =>
    cases asked with
    | count identifier => exact counted _ _
    | now =>
      rw [memory.ticks state ready]
      exact there
    | apply migration => exact memory.spares state migration ready there
    | record identifier moment =>
      rw [(memory.answers state (repository.recordRequest identifier batch moment) _ ready rfl).2,
        (MemoryDatabase.insert_keeps _ _ _).1]
      exact there

/-- Before a program goes on, it makes sure of the table. -/
theorem makesSure (memory : world.RunsInMemory repository usable database)
    (plain : IsPlainName repository.tableName) (ready : usable state) (program : Program α) :
    ∃ first next, repository.MadeSure usable database state first next ∧
      (Program.ask (.hasTable repository.tableName)
        (repository.onCheck program)).exchanges world state =
          first ++ program.exchanges world next := by
  let check := world.exchange (.hasTable repository.tableName) state
  obtain ⟨answered, unchanged⟩ :=
    memory.answers state (.hasTable repository.tableName) _ ready rfl
  have checked : usable check.after := memory.stays state _ ready (.tracker .check)
  have same : database check.after = database state := unchanged
  by_cases present : repository.tableName ∈ (database state).tables
  · have found : check.event = .asked (.hasTable repository.tableName) (.ok true) :=
      congrArg (Event.asked _) (answered.trans (by simp [present]))
    refine ⟨[check], check.after, ⟨.found found, ?_, checked, ?_, ?_⟩, ?_⟩
    · simp [found, Event.executed?, present]
    · rwa [same]
    · rw [same]
    · simp only [Program.exchanges, answered, present, decide_true, Repository.onCheck]
      rfl
  · have missing : check.event = .asked (.hasTable repository.tableName) (.ok false) :=
      congrArg (Event.asked _) (answered.trans (by simp [present]))
    let creation := world.exchange (.execute repository.creation) check.after
    have created := MemoryDatabase.execute_creation
      (memory.accepts check.after _ checked (.inl rfl)) (Repository.createdTable?_creation plain)
    obtain ⟨accepted, changed⟩ :=
      memory.answers check.after (.execute repository.creation) _ checked rfl
    have executed : creation.event = .asked (.execute repository.creation) (.ok ()) :=
      congrArg (Event.asked _) (accepted.trans (congrArg Prod.fst created))
    have made : database creation.after =
        (database state).createTable repository.tableName := by
      rw [← same]
      exact changed.trans (congrArg Prod.snd created)
    refine ⟨[check, creation], creation.after, ⟨.created missing ?_, ?_, ?_, ?_, ?_⟩, ?_⟩
    · exact Event.executed?_eq_some.mpr executed
    · simp [missing, executed, Event.executed?, present]
    · exact memory.stays check.after _ checked (.tracker .create)
    · rw [made]
      exact MemoryDatabase.mem_createTable.mpr (.inr rfl)
    · rw [made, MemoryDatabase.rows_createTable]
    · simp only [Program.exchanges, answered, present, decide_false, Repository.onCheck]
      change check :: creation :: (repository.onCreation program (world.respond (.execute
        repository.creation) check.after).answer).exchanges world creation.after = _
      rw [accepted.trans (congrArg Prod.fst created)]
      rfl

/-- A table that was dropped is empty. -/
theorem empties (memory : world.RunsInMemory repository usable database)
    (plain : IsPlainName repository.tableName) (ready : usable state) :
    (database (world.respond (.execute repository.removal) state).state).rows
      repository.tableName = [] := by
  obtain ⟨created, dropped⟩ := (begins_dropText repository.tableName).dropped plain
  rw [(memory.answers state (.execute repository.removal) _ ready rfl).2,
    MemoryDatabase.execute_drop (memory.accepts state _ ready (.inr rfl)) created dropped]
  exact MemoryDatabase.rows_dropTable_self

/-- Every operation finds the table there when it uses it. -/
theorem usesTable (memory : world.RunsInMemory repository usable database)
    (plain : IsPlainName repository.tableName) (ready : usable state)
    (operation : TrackerOperation) :
    repository.UsesTable database state
      ((operation.program repository).exchanges world state) := by
  obtain ⟨first, next, made, whole⟩ := memory.makesSure plain ready (operation.prepared repository)
  have only := operation.asksOnly_prepared repository
  have asked := only.requests world next
  have leaves (request : Request) (state : State) (asked : repository.AsksTabled request)
      (holds : usable state ∧ repository.tableName ∈ (database state).tables) :=
    memory.stays_there asked holds.1 holds.2
  have later := only.exchanges leaves ⟨made.ready, made.there⟩
  have silent : ((operation.prepared repository).exchanges world next).filterMap
      (·.event.executed?) = [] := by
    refine List.filterMap_eq_nil_iff.mpr fun exchange member => ?_
    exact exchange.executed?_eq_none (asked exchange member).no_statement
  rw [operation.program_eq, whole]
  constructor
  · intro exchange member uses
    rcases List.mem_append.mp member with early | late
    · exact absurd uses (made.sure.unused exchange early)
    · exact (later exchange late).2
  · rw [List.filterMap_append, made.executed, silent, List.append_nil]
  · exact ⟨first, _, rfl, made.sure, asked⟩
  · intro exchange member database
    rcases List.mem_append.mp member with early | late
    · exact made.sure.table? plain exchange early
    · exact (asked exchange late).table? plain database

/-- A run on an empty table starts with the first batch. -/
theorem startsAnew (memory : world.RunsInMemory repository usable database)
    (plain : IsPlainName repository.tableName) (ready : usable state)
    (empty : (database state).rows repository.tableName = []) (candidates : List Candidate) :
    repository.StartsAnew
      (((TrackerOperation.run candidates).program repository).exchanges world state) := by
  obtain ⟨first, next, made, whole⟩ :=
    memory.makesSure plain ready ((TrackerOperation.run candidates).prepared repository)
  have answered : (world.respond repository.batchRequest next).answer = .ok .null := by
    rw [(memory.answers next repository.batchRequest _ made.ready rfl).1,
      repository.queryScalar_batchQuery plain (memory.unarranged next made.ready), made.rows, empty]
    rfl
  have computed : (repository.currentBatch.run world next).result = .ok 0 := by
    refine (result_request_bind world repository.batchRequest _ next).trans ?_
    rw [answered]
    rfl
  have asked : repository.currentBatch.exchanges world next =
      [world.exchange repository.batchRequest next] := by
    change world.exchange repository.batchRequest next ::
      ((Program.done (world.respond repository.batchRequest next).answer).bind _).exchanges
        world _ = _
    rw [answered]
    rfl
  have onward : ((TrackerOperation.run candidates).prepared repository).exchanges world next =
      world.exchange repository.batchRequest next ::
        (OperationAnswer.records <$> repository.runIn candidates 1).exchanges world
          (repository.currentBatch.run world next).state := by
    rw [TrackerOperation.prepared, Repository.runPrepared_eq, map_bind]
    refine (exchanges_bind world _ _ next).trans ?_
    rw [computed, asked]
    rfl
  have only : (OperationAnswer.records <$> repository.runIn candidates 1).AsksOnly
      (repository.AsksToApply 1) :=
    (repository.asksOnly_runIn candidates 1).bind fun _ => trivial
  rw [TrackerOperation.program_eq, whole, onward]
  exact ⟨first, _, _, rfl, made.sure, congrArg (Event.asked _) answered, only.requests world _⟩

/-- As long as nothing is run, an empty table stays empty. -/
theorem stays_empty (memory : world.RunsInMemory repository usable database)
    (plain : IsPlainName repository.tableName) {request : Request}
    (asked : repository.AsksToView request) (ready : usable state)
    (empty : (database state).rows repository.tableName = []) :
    usable (world.respond request state).state ∧
      (database (world.respond request state).state).rows repository.tableName = [] := by
  refine ⟨memory.stays state request ready asked.session, ?_⟩
  cases asked with
  | check =>
    rw [(memory.answers state (.hasTable repository.tableName) _ ready rfl).2]
    exact empty
  | rows =>
    rw [(memory.answers state (.queryRows repository.rowsQuery) _ ready rfl).2]
    exact empty
  | create =>
    rw [(memory.answers state (.execute repository.creation) _ ready rfl).2,
      MemoryDatabase.rows_execute (by simp [repository.droppedTable?_creation])]
    exact empty
  | drop => exact memory.empties plain ready

end World.RunsInMemory

end Operations

/-! ## Sessions -/

section Sessions

variable {State : Type} {world : World State} {repository : Repository} {usable : State → Prop}
  {database : State → MemoryDatabase} {state : State}

namespace TrackerStep

theorem stateAfter_drop :
    TrackerStep.drop.stateAfter world repository state =
      (world.respond (.execute repository.removal) state).state := by
  have dropped : (History.start state).after world (repository.schema.drop repository.table) =
      (History.start state).exchange world (.execute repository.removal) := Schema.after_drop
  exact congrArg History.state dropped

theorem stateAfter_ready (memory : world.RunsInMemory repository usable database)
    (ready : usable state) (step : TrackerStep) :
    usable (step.stateAfter world repository state) := by
  have leaves (request : Request) (state : State) (asked : repository.AsksTracker request)
      (ready : usable state) := memory.stays state request ready (.tracker asked)
  cases step with
  | drop =>
    rw [stateAfter_drop]
    exact memory.stays state _ ready .drop
  | perform operation =>
    have only := (operation.asksOnly_prepared repository).imp
      fun request asked => Repository.AsksTracker.tabled asked
    exact (operation.asksOnly_program repository only .check .create).run_state leaves ready

theorem stateAfterAll_ready (memory : world.RunsInMemory repository usable database)
    (ready : usable state) (steps : List TrackerStep) :
    usable (stateAfterAll world repository state steps) := by
  induction steps generalizing state with
  | nil => exact ready
  | cons step steps ih => exact ih (stateAfter_ready memory ready step)

theorem stateAfter_empty (memory : world.RunsInMemory repository usable database)
    (plain : IsPlainName repository.tableName) (ready : usable state)
    (empty : (database state).rows repository.tableName = []) {step : TrackerStep}
    (view : ¬ step.IsRun) :
    (database (step.stateAfter world repository state)).rows repository.tableName = [] := by
  have leaves (request : Request) (state : State) (asked : repository.AsksToView request)
      (holds : usable state ∧ (database state).rows repository.tableName = []) :=
    memory.stays_empty plain asked holds.1 holds.2
  cases step with
  | drop =>
    rw [stateAfter_drop]
    exact memory.empties plain ready
  | perform operation =>
    have only : (operation.prepared repository).AsksOnly repository.AsksToView := by
      cases operation with
      | run candidates => exact absurd trivial view
      | pending candidates | status candidates | applied | lastBatch =>
        refine (TrackerOperation.asksOnly_telling repository _).imp ?_
        rintro _ rfl
        exact .rows
    exact ((operation.asksOnly_program repository only .check .create).run_state leaves
      ⟨ready, empty⟩).2

theorem stateAfterAll_empty (memory : world.RunsInMemory repository usable database)
    (plain : IsPlainName repository.tableName) (ready : usable state)
    (empty : (database state).rows repository.tableName = []) {steps : List TrackerStep}
    (views : ∀ step ∈ steps, ¬ step.IsRun) :
    (database (stateAfterAll world repository state steps)).rows repository.tableName = [] := by
  induction steps generalizing state with
  | nil => exact empty
  | cons step steps ih =>
    obtain ⟨view, others⟩ := List.forall_mem_cons.mp views
    exact ih (stateAfter_ready memory ready step)
      (stateAfter_empty memory plain ready empty view) others

/-- After a drop the table is empty until something is run. -/
theorem AwaitRun.empty {steps : List TrackerStep} (awaits : AwaitRun steps)
    (memory : world.RunsInMemory repository usable database)
    (plain : IsPlainName repository.tableName) (ready : usable state) :
    (database (stateAfterAll world repository state steps)).rows repository.tableName = [] := by
  obtain ⟨earlier, since, rfl, views⟩ := awaits
  have reached := stateAfterAll_ready memory ready earlier
  have whole : stateAfterAll world repository state (earlier ++ .drop :: since) =
      stateAfterAll world repository (TrackerStep.drop.stateAfter world repository
        (stateAfterAll world repository state earlier)) since := by
    simp [stateAfterAll]
  rw [whole]
  refine stateAfterAll_empty memory plain (stateAfter_ready memory reached .drop) ?_ views
  rw [stateAfter_drop]
  exact memory.empties plain reached

end TrackerStep

/-- Whatever was done before, drops of the tracking table included, every operation has the table
there whenever it uses it, and the first run after a drop starts with the first batch. -/
theorem steps_useTable (memory : world.RunsInMemory repository usable database)
    (plain : IsPlainName repository.tableName) {initial : State} (ready : usable initial)
    (steps : List TrackerStep) :
    let reached := TrackerStep.stateAfterAll world repository initial steps
    (∀ operation : TrackerOperation, repository.UsesTable database reached
      ((operation.program repository).exchanges world reached)) ∧
    (TrackerStep.AwaitRun steps → ∀ candidates, repository.StartsAnew
      (((TrackerOperation.run candidates).program repository).exchanges world reached)) := by
  intro reached
  have usableThen := TrackerStep.stateAfterAll_ready memory ready steps
  exact ⟨memory.usesTable plain usableThen, fun awaits candidates =>
    memory.startsAnew plain usableThen (awaits.empty memory plain ready) candidates⟩

end Sessions

/-! ## Scripted migrations -/

namespace ScriptedWorld

/-- Whether the database accepts the statements about the tracking table and answers from its rows,
and no migration drops that table. -/
structure KeepsTable (repository : Repository) (world : ScriptedWorld) : Prop where
  accepts : ∀ statement, statement = repository.creation ∨ statement = repository.removal →
    world.database.refuses statement = false
  scalars : world.database.scalars = []
  spared : ∀ migration earlier,
    (SchemaStep.programAll world.schema earlier (world.upSteps migration)).AsksOnly
      (Request.Spares repository.tableName)

/-- Whether two worlds have the same arrangements. -/
structure SameArrangements (before next : ScriptedWorld) : Prop where
  failOn : next.database.failOn = before.database.failOn
  scalars : next.database.scalars = before.database.scalars
  schema : next.schema = before.schema
  scripts : next.scripts = before.scripts

variable {repository : Repository} {world next last : ScriptedWorld} {table : String}

theorem SameArrangements.trans (first : SameArrangements world next)
    (second : SameArrangements next last) : SameArrangements world last where
  failOn := second.failOn.trans first.failOn
  scalars := second.scalars.trans first.scalars
  schema := second.schema.trans first.schema
  scripts := second.scripts.trans first.scripts

theorem SameArrangements.keepsTable (same : SameArrangements world next)
    (keeps : world.KeepsTable repository) : next.KeepsTable repository where
  accepts statement about := by
    have accepted := keeps.accepts statement about
    unfold MemoryDatabase.refuses at accepted ⊢
    rwa [same.failOn]
  scalars := same.scalars.trans keeps.scalars
  spared migration earlier := by
    unfold upSteps
    rw [same.schema, same.scripts]
    exact keeps.spared migration earlier

/-- A request of the database leaves the arrangements as they are, unless an answer was given in
advance. -/
theorem respondDatabase_sameArrangements (request : Request)
    (unarranged : world.database.scalars = []) :
    SameArrangements world (respondDatabase request world).state := by
  cases request with
  | hasTable | queryRows | now | apply => exact ⟨rfl, rfl, rfl, rfl⟩
  | execute statement =>
    obtain ⟨failOn, scalars, -, -⟩ := world.database.execute_arranged statement
    exact ⟨failOn, scalars, rfl, rfl⟩
  | queryScalar statement parameters =>
    have same : (world.database.queryScalar statement parameters).2 = world.database := by
      simp only [MemoryDatabase.queryScalar, unarranged]
      split <;> rfl
    exact ⟨congrArg _ same, congrArg _ same, rfl, rfl⟩
  | insert name values =>
    obtain ⟨-, failOn, scalars⟩ := world.database.insert_keeps name values
    exact ⟨failOn, scalars, rfl, rfl⟩

/-- What spares a table leaves it there. -/
theorem respondDatabase_there {request : Request} (spares : request.Spares table)
    (there : table ∈ world.database.tables) :
    table ∈ (respondDatabase request world).state.database.tables := by
  cases request with
  | hasTable other => exact there
  | execute statement => exact MemoryDatabase.mem_execute spares there
  | queryScalar | queryRows | insert | now | apply => exact spares.elim

/-- Applying a migration leaves the arrangements and the table as they are. -/
theorem respond_apply_keeps (keeps : world.KeepsTable repository) (migration : Migration) :
    SameArrangements world (respond (.apply migration) world).state ∧
      (repository.tableName ∈ world.database.tables →
        repository.tableName ∈ (respond (.apply migration) world).state.database.tables) := by
  let kept (next : ScriptedWorld) : Prop := SameArrangements world next ∧
    (repository.tableName ∈ world.database.tables →
      repository.tableName ∈ next.database.tables)
  have leaves (request : Request) (next : ScriptedWorld)
      (spares : request.Spares repository.tableName) (holds : kept next) :
      kept (respondDatabase request next).state := by
    obtain ⟨same, there⟩ := holds
    have step := respondDatabase_sameArrangements request (same.scalars.trans keeps.scalars)
    exact ⟨same.trans step, fun before => respondDatabase_there spares (there before)⟩
  have initially : kept (world.countAttempt migration) := ⟨⟨rfl, rfl, rfl, rfl⟩, id⟩
  exact (keeps.spared migration _).run_state leaves initially

theorem respond_keepsTable (keeps : world.KeepsTable repository) (request : Request) :
    (respond request world).state.KeepsTable repository := by
  cases request with
  | apply migration => exact (respond_apply_keeps keeps migration).1.keepsTable keeps
  | hasTable | execute | queryScalar | queryRows | insert | now =>
    exact (respondDatabase_sameArrangements _ keeps.scalars).keepsTable keeps

/-- A world with scripted migrations has its database in memory. -/
theorem runsInMemory (repository : Repository) :
    full.RunsInMemory repository (KeepsTable repository) database where
  stays world request keeps _ := respond_keepsTable keeps request
  answers world request outcome keeps answered := by
    cases request with
    | now | apply => cases answered
    | hasTable | execute | queryScalar | queryRows | insert =>
      obtain rfl := Option.some.inj answered
      exact ⟨rfl, rfl⟩
  ticks world keeps := rfl
  spares world migration keeps there := (respond_apply_keeps keeps migration).2 there
  accepts world statement keeps := keeps.accepts statement
  unarranged world keeps := keeps.scalars

theorem fresh_keepsTable : fresh.KeepsTable tracking where
  accepts _ _ := rfl
  scalars := rfl
  spared := fresh_isStore.spared

/-- The database in memory, after a run that failed and one that succeeded, a drop of the tracking
table, and a view that created it again. -/
theorem fresh_useTable :
    let steps : List TrackerStep :=
      [.perform (.run [.migration createUsers]), .perform (.run [.migration createUsers]), .drop,
        .perform (.pending [.migration createUsers])]
    let reached := TrackerStep.stateAfterAll full tracking fresh steps
    (∀ operation : TrackerOperation, tracking.UsesTable database reached
      ((operation.program tracking).exchanges full reached)) ∧
    ∀ candidates, tracking.StartsAnew
      (((TrackerOperation.run candidates).program tracking).exchanges full reached) := by
  intro steps reached
  have awaits : TrackerStep.AwaitRun steps := by
    refine ⟨steps.take 2, [.perform (.pending [.migration createUsers])], rfl, ?_⟩
    intro step member
    obtain rfl := List.mem_singleton.mp member
    exact id
  obtain ⟨uses, anew⟩ :=
    steps_useTable (runsInMemory tracking) isPlainName_tracking fresh_keepsTable steps
  exact ⟨uses, anew awaits⟩

end ScriptedWorld

end Tablewright
