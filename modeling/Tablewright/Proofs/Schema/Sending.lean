import Tablewright.Proofs.Schema.Steps

/-! # What a step of a schema sends

A step that goes ahead declares, finalizes and renders everything before it sends the first
statement. A fault in any of these stages is therefore the answer of the step, and the question
whether the table exists is all that the database has heard of it. Otherwise the statements are sent
in turn, and the first that is rejected is the last.
-/

namespace Tablewright

open Program

/-- The texts that alter a table fail with the first clause that cannot be rendered. -/
theorem Blueprint.alterTexts_eq_error {blueprint : Blueprint} {specs : List Spec} {fault : Fault} :
    (blueprint.alterTexts specs).2 = .error fault ↔
      FirstFault blueprint.alterClause specs fault := by
  induction specs with
  | nil => exact iff_of_false (by simp [alterTexts]) not_firstFault_nil
  | cons spec specs ih =>
    rw [firstFault_cons, ← ih, alterTexts]
    cases blueprint.alterClause spec with
    | error first => simp
    | ok clause? =>
      cases clause? with
      | none => simp
      | some clause => simp [map_eq_error]

/-- Calls in turn are stopped by a call with a fault: those before it succeed, and it fails on what
they declare. -/
inductive Declaration.StoppedBy (calls : List Call) (blueprint : Blueprint) (fault : Fault) : Prop
  | intro {before after : List Call} {call : Call} (split : calls = before ++ call :: after)
    (declared : (ofCalls before blueprint).result = .ok ())
    (failed : ((ofCalls before blueprint).blueprint.perform call).result = .error fault)

/-- A declaration by calls fails with the call that stops it. -/
theorem Declaration.ofCalls_eq_error {calls : List Call} {blueprint : Blueprint} {fault : Fault} :
    (ofCalls calls blueprint).result = .error fault ↔ StoppedBy calls blueprint fault := by
  induction calls generalizing blueprint with
  | nil =>
    refine iff_of_false (by simp [ofCalls]) ?_
    rintro ⟨split, -, -⟩
    simp at split
  | cons call calls ih =>
    cases performed : (blueprint.perform call).result with
    | error stopped =>
      simp only [ofCalls, performed, Except.error.injEq]
      constructor
      · rintro rfl
        exact ⟨(List.nil_append (call :: calls)).symm, rfl, performed⟩
      · rintro ⟨split, declared, failed⟩
        obtain ⟨rfl, whole⟩ | ⟨rest, rfl, -⟩ := List.cons_eq_append_iff.mp split
        · obtain ⟨rfl, -⟩ := List.cons.inj whole
          exact Except.error.inj (performed.symm.trans failed)
        · simp [ofCalls, performed] at declared
    | ok value =>
      simp only [ofCalls, performed, ih]
      constructor
      · rintro ⟨rfl, declared, failed⟩
        refine ⟨List.cons_append.symm, ?_, ?_⟩
        · simpa only [ofCalls, performed] using declared
        · simpa only [ofCalls, performed] using failed
      · rintro ⟨split, declared, failed⟩
        obtain ⟨rfl, whole⟩ | ⟨rest, rfl, rfl⟩ := List.cons_eq_append_iff.mp split
        · obtain ⟨rfl, -⟩ := List.cons.inj whole
          exact absurd (performed.symm.trans failed) (by simp)
        · simp only [ofCalls, performed] at declared failed
          exact ⟨rfl, declared, failed⟩

namespace Schema

section Planned

variable (schema : Schema) (table : String) (declaration : Declaration)

/-- What creating a table comes to before anything is sent: the statements, or a fault. -/
def plannedCreate : Except Fault (List String) :=
  (declaration (schema.blueprint table)).result.bind fun _ =>
    ((schema.declared table declaration).toCreate schema.options).result.map Option.toList

/-- What altering a table comes to before anything is sent: the statements, or a fault. -/
def plannedAlter : Except Fault (List String) :=
  (declaration (schema.blueprint table)).result.bind fun _ =>
    (schema.declared table declaration).toAlter.result

/-- Which fault keeps a step from its statements: that of the declaration, or else that of
finalizing what is declared, or else that of the first spec that cannot be rendered. -/
inductive Stumbles {β : Type} (declared : Compiled Unit) (specs : Blueprint → List Spec)
    (render : Blueprint → Spec → Except Fault β) (fault : Fault) : Prop
  | declaring (failed : declared.result = .error fault)
  | finalizing (declares : declared.result = .ok ())
      (failed : declared.blueprint.finalize.result = .error fault)
  | rendering (declares : declared.result = .ok ())
      (finalizes : declared.blueprint.finalize.result = .ok ())
      (failed : FirstFault (render declared.blueprint.finalize.blueprint)
        (specs declared.blueprint.finalize.blueprint) fault)

variable {schema table declaration} {fault : Fault} {β : Type} {declared : Compiled Unit}
  {specs : Blueprint → List Spec} {render : Blueprint → Spec → Except Fault β}

theorem stumbles_iff :
    Stumbles declared specs render fault ↔
      declared.result = .error fault ∨ ∃ value, declared.result = .ok value ∧
        (declared.blueprint.finalize.result = .error fault ∨
          ∃ value, declared.blueprint.finalize.result = .ok value ∧
            FirstFault (render declared.blueprint.finalize.blueprint)
              (specs declared.blueprint.finalize.blueprint) fault) := by
  constructor
  · rintro (failed | ⟨declares, failed⟩ | ⟨declares, finalizes, failed⟩)
    · exact .inl failed
    · exact .inr ⟨(), declares, .inl failed⟩
    · exact .inr ⟨(), declares, .inr ⟨(), finalizes, failed⟩⟩
  · rintro (failed | ⟨_, declares, failed | ⟨_, finalizes, failed⟩⟩)
    · exact .declaring failed
    · exact .finalizing declares failed
    · exact .rendering declares finalizes failed

theorem plannedCreate_eq_error :
    schema.plannedCreate table declaration = .error fault ↔
      Stumbles (declaration (schema.blueprint table)) Blueprint.addSpecs Blueprint.specSql
        fault := by
  have creates (blueprint : Blueprint) (options : String) :
      blueprint.createStatement options = .error fault ↔
        FirstFault blueprint.specSql blueprint.addSpecs fault := by
    unfold Blueprint.createStatement
    split
    · rename_i nothing
      rw [nothing]
      exact iff_of_false (by simp) not_firstFault_nil
    · rw [← mapM_eq_error]
      change Except.bind _ _ = _ ↔ _
      simp [except_bind_eq_error, pure, Except.pure]
  simp only [plannedCreate, except_bind_eq_error, map_eq_error, Blueprint.toCreate, creates,
    stumbles_iff, Schema.declared]

theorem plannedAlter_eq_error :
    schema.plannedAlter table declaration = .error fault ↔
      Stumbles (declaration (schema.blueprint table)) Blueprint.specs Blueprint.alterClause
        fault := by
  have alters (blueprint : Blueprint) :
      blueprint.toAlter.result = .error fault ↔
        blueprint.finalize.result = .error fault ∨
          ∃ value, blueprint.finalize.result = .ok value ∧
            FirstFault blueprint.finalize.blueprint.alterClause blueprint.finalize.blueprint.specs
              fault := by
    unfold Blueprint.toAlter
    cases finalizes : blueprint.finalize.result with
    | error stopped => simp [finalizes]
    | ok value => simp [finalizes, Blueprint.alterTexts_eq_error]
  simp only [plannedAlter, except_bind_eq_error, alters, stumbles_iff, Schema.declared]

/-- A creation sends no more than one statement. -/
theorem plannedCreate_length {statements : List String}
    (planned : schema.plannedCreate table declaration = .ok statements) :
    statements.length ≤ 1 := by
  simp only [plannedCreate, except_bind_eq_ok, map_eq_ok] at planned
  obtain ⟨_, _, statement?, _, rfl⟩ := planned
  cases statement? <;> simp

end Planned

section World

variable {State : Type}

/-- Statements are sent in turn. Either every one of them is accepted, or one is rejected with a
fault: then exactly those up to it are sent, and the fault is what comes of it. -/
inductive Sent : List String → List (Exchange State) → Except Fault Unit → Prop
  | whole {statements : List String} {sent : List (Exchange State)}
      (asked : sent.map Exchange.request = statements.map Request.execute)
      (accepted : ∀ exchange ∈ sent, ∃ answer, exchange.answer = .ok answer) :
      Sent statements sent (.ok ())
  | upTo {before after : List String} {statement : String} {earlier : List (Exchange State)}
      {last : Exchange State} {fault : Fault}
      (asked : (earlier ++ [last]).map Exchange.request =
        (before ++ [statement]).map Request.execute)
      (accepted : ∀ exchange ∈ earlier, ∃ answer, exchange.answer = .ok answer)
      (rejected : last.answer = .error fault) :
      Sent (before ++ statement :: after) (earlier ++ [last]) (.error fault)

/-- An accepted statement goes before those that are sent after it. -/
theorem Sent.cons {statement : String} {statements : List String} {first : Exchange State}
    {sent : List (Exchange State)} {outcome : Except Fault Unit}
    (asks : first.request = .execute statement) (accepts : ∃ answer, first.answer = .ok answer)
    (others : Sent statements sent outcome) :
    Sent (statement :: statements) (first :: sent) outcome := by
  cases others with
  | whole asked accepted =>
    exact .whole (by simp [asks, asked]) (List.forall_mem_cons.mpr ⟨accepts, accepted⟩)
  | @upTo before after rejectedOne earlier last fault asked accepted rejected =>
    have askedAll : (first :: earlier ++ [last]).map Exchange.request =
        (statement :: before ++ [rejectedOne]).map Request.execute := by
      rw [List.cons_append, List.map_cons, asked, asks]
      rfl
    exact .upTo askedAll (List.forall_mem_cons.mpr ⟨accepts, accepted⟩) rejected

/-- How a step goes that asks whether its table exists and goes on only if the answer is the one
needed: what it exchanges and what comes of it, by what is planned. -/
structure Goes {α : Type} (world : World State) (state : State) (table : String) (needed : Bool)
    (planned : Except Fault (List String)) (passed : α) (answer : List String → α)
    (step : Program α) : Prop where
  /-- A fault in the question ends the step. -/
  unanswered : ∀ fault, (world.respond (.hasTable table) state).answer = .error fault →
    step.exchanges world state = [world.exchange (.hasTable table) state] ∧
      (step.run world state).result = .error fault
  /-- Another answer ends it as well, and nothing is declared. -/
  passedOver : (world.respond (.hasTable table) state).answer = .ok !needed →
    step.exchanges world state = [world.exchange (.hasTable table) state] ∧
      (step.run world state).result = .ok passed
  /-- A fault in what is planned comes of the step, and nothing but the question is exchanged. -/
  stopped : ∀ fault, (world.respond (.hasTable table) state).answer = .ok needed →
    planned = .error fault →
      step.exchanges world state = [world.exchange (.hasTable table) state] ∧
        (step.run world state).result = .error fault
  /-- Otherwise the question is followed by the statements that are planned. -/
  sends : ∀ statements, (world.respond (.hasTable table) state).answer = .ok needed →
    planned = .ok statements →
      ∃ sent outcome,
        step.exchanges world state = world.exchange (.hasTable table) state :: sent ∧
          Sent statements sent outcome ∧
          (step.run world state).result = outcome.map fun _ => answer statements

variable {α β : Type} (world : World State)

theorem exchanges_compiled_bind (state : State) (outcome : Compiled α) (next : α → Program β) :
    (compiled outcome >>= next).exchanges world state =
      match outcome.result with
      | .ok value => (next value).exchanges world state
      | .error _ => [] := by
  obtain ⟨result, _, notices⟩ := outcome
  induction notices with
  | nil => cases result <;> rfl
  | cons notice notices ih => exact ih

/-- Statements that are executed in turn are sent up to the first that is rejected. -/
theorem executeAll_sent (statements : List String) (state : State) :
    Sent statements ((executeAll statements).exchanges world state)
      ((executeAll statements).run world state).result := by
  induction statements generalizing state with
  | nil => exact .whole rfl (by simp [executeAll, exchanges, pure])
  | cons statement statements ih =>
    rw [executeAll, exchanges_request_bind, result_request_bind]
    cases answered : (world.respond (.execute statement) state).answer with
    | ok answer => exact (ih _).cons rfl ⟨answer, answered⟩
    | error fault =>
      have only : [world.exchange (.execute statement) state] =
          [] ++ [world.exchange (.execute statement) state] := rfl
      have first : statement :: statements = [] ++ statement :: statements := rfl
      rw [only, first]
      exact .upTo rfl (by simp) answered

/-- A step goes as planned if what it goes on with exchanges nothing where it passes its table over
or its plan fails, and executes what is planned otherwise. -/
theorem goes_of_branches {table : String} {needed : Bool} {state : State}
    {planned : Except Fault (List String)} {passed : α} {answer : List String → α}
    {branches : Bool → Program α}
    (passes : ∀ later, (branches !needed).exchanges world later = [] ∧
      ((branches !needed).run world later).result = .ok passed)
    (fails : ∀ later fault, planned = .error fault →
      (branches needed).exchanges world later = [] ∧
        ((branches needed).run world later).result = .error fault)
    (executes : ∀ later statements, planned = .ok statements →
      (branches needed).exchanges world later = (executeAll statements).exchanges world later ∧
        ((branches needed).run world later).result =
          ((executeAll statements).run world later).result.map fun _ => answer statements) :
    Goes world state table needed planned passed answer
      (Program.request (.hasTable table) >>= branches) where
  unanswered fault answered := by
    rw [exchanges_request_bind, result_request_bind, answered]
    exact ⟨rfl, rfl⟩
  passedOver answered := by
    rw [exchanges_request_bind, result_request_bind, answered]
    exact ⟨congrArg _ (passes _).1, (passes _).2⟩
  stopped fault answered failed := by
    rw [exchanges_request_bind, result_request_bind, answered]
    exact ⟨congrArg _ (fails _ fault failed).1, (fails _ fault failed).2⟩
  sends statements answered given := by
    rw [exchanges_request_bind, result_request_bind, answered]
    exact ⟨_, _, congrArg _ (executes _ statements given).1, executeAll_sent world statements _,
      (executes _ statements given).2⟩

theorem goes_create (schema : Schema) (table : String) (declaration : Declaration) (state : State) :
    Goes world state (schema.tableName table) false (schema.plannedCreate table declaration) false
      (fun statements => !statements.isEmpty) (schema.create table declaration) := by
  refine goes_of_branches world (fun later => ⟨rfl, rfl⟩) (fun later fault failed => ?_)
    fun later statements planned => ?_
  · simp only [plannedCreate, declared, except_bind_eq_error, map_eq_error] at failed
    simp only [Bool.false_eq_true, ↓reduceIte, exchanges_compiled_bind, result_compiled_bind]
    obtain failed | ⟨made, declares, failed⟩ := failed
    · simp only [failed, and_self]
    · simp only [declares, failed, and_self]
  · simp only [plannedCreate, declared, except_bind_eq_ok, map_eq_ok] at planned
    obtain ⟨made, declares, statement?, compiles, rfl⟩ := planned
    simp only [Bool.false_eq_true, ↓reduceIte, exchanges_compiled_bind, result_compiled_bind,
      declares, compiles]
    cases statement? with
    | none => exact ⟨rfl, rfl⟩
    | some statement =>
      dsimp only [Option.toList, executeAll]
      rw [exchanges_request_bind, exchanges_request_bind, result_request_bind, result_request_bind]
      cases (world.respond (.execute statement) later).answer <;> exact ⟨rfl, rfl⟩

theorem goes_alter (schema : Schema) (table : String) (declaration : Declaration) (state : State) :
    Goes world state (schema.tableName table) true (schema.plannedAlter table declaration) 0
      List.length (schema.alter table declaration) := by
  refine goes_of_branches world (fun later => ⟨rfl, rfl⟩) (fun later fault failed => ?_)
    fun later statements planned => ?_
  · simp only [plannedAlter, declared, except_bind_eq_error] at failed
    simp only [↓reduceIte, exchanges_compiled_bind, result_compiled_bind]
    obtain failed | ⟨made, declares, failed⟩ := failed
    · simp only [failed, and_self]
    · simp only [declares, failed, and_self]
  · simp only [plannedAlter, declared, except_bind_eq_ok] at planned
    obtain ⟨made, declares, compiles⟩ := planned
    simp only [↓reduceIte, exchanges_compiled_bind, result_compiled_bind, declares, compiles]
    change ((executeAll statements).bind _).exchanges world later = _ ∧
      (((executeAll statements).bind _).run world later).result = _
    rw [exchanges_bind, run_bind_result]
    cases ((executeAll statements).run world later).result with
    | error fault => exact ⟨List.append_nil _, rfl⟩
    | ok value =>
      -- What is noted at the end depends on the statements; the answer is their number either way.
      cases statements <;> exact ⟨List.append_nil _, rfl⟩

/-- For every world, table and declaration, a step asks whether its table exists before anything
else. Where it goes ahead, a fault in declaring, finalizing or rendering comes of it and nothing
else is exchanged; otherwise what is rendered is sent in turn up to the first statement that is
rejected, whose fault comes of it. Creating sends at most one statement and answers whether it did;
altering answers how many it sent. A declaration that makes calls in turn fails with the call that
stops it, wherever that stands. -/
theorem steps_send (schema : Schema) (table : String) (declaration : Declaration) (state : State) :
    (Goes world state (schema.tableName table) false (schema.plannedCreate table declaration) false
        (fun statements => !statements.isEmpty) (schema.create table declaration) ∧
      (∀ statements, schema.plannedCreate table declaration = .ok statements →
        statements.length ≤ 1) ∧
      ∀ fault, schema.plannedCreate table declaration = .error fault ↔
        Stumbles (declaration (schema.blueprint table)) Blueprint.addSpecs Blueprint.specSql
          fault) ∧
    (Goes world state (schema.tableName table) true (schema.plannedAlter table declaration) 0
        List.length (schema.alter table declaration) ∧
      ∀ fault, schema.plannedAlter table declaration = .error fault ↔
        Stumbles (declaration (schema.blueprint table)) Blueprint.specs Blueprint.alterClause
          fault) ∧
    ∀ calls blueprint fault, (Declaration.ofCalls calls blueprint).result = .error fault ↔
      Declaration.StoppedBy calls blueprint fault :=
  ⟨⟨goes_create world schema table declaration state, fun _ => plannedCreate_length,
    fun _ => plannedCreate_eq_error⟩,
    ⟨goes_alter world schema table declaration state, fun _ => plannedAlter_eq_error⟩,
    fun _ _ _ => Declaration.ofCalls_eq_error⟩

end World

end Schema

end Tablewright
