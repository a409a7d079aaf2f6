import Tablewright.Proofs.Schema

/-! # What the steps of a schema exchange

A step asks first whether its table exists. If that answer stops it, nothing is declared. Otherwise
everything is compiled before the first statement is executed, so what a step exchanges is one
question and then the statements that its declaration comes to, up to the first that is rejected.
-/

namespace Tablewright

open Program

namespace Schema

section Declared

variable (schema : Schema) (table : String) (declaration : Declaration)

/-- The blueprint that a declaration leaves. -/
def declared (schema : Schema) (table : String) (declaration : Declaration) : Blueprint :=
  (declaration (schema.blueprint table)).blueprint

/-- The statement that a creation comes to, none if the declaration or its compilation fails or
nothing is added. -/
def creation? (schema : Schema) (table : String) (declaration : Declaration) : Option String :=
  match (declaration (schema.blueprint table)).result,
    ((schema.declared table declaration).toCreate schema.options).result with
  | .ok (), .ok statement? => statement?
  | _, _ => none

/-- The statements that an alteration comes to, none if the declaration or its compilation fails. -/
def alterations (schema : Schema) (table : String) (declaration : Declaration) : List String :=
  match (declaration (schema.blueprint table)).result,
    (schema.declared table declaration).toAlter.result with
  | .ok (), .ok statements => statements
  | _, _ => []

theorem creation?_eq_some {statement : String} :
    schema.creation? table declaration = some statement ↔
      (declaration (schema.blueprint table)).result = .ok () ∧
        ((schema.declared table declaration).toCreate schema.options).result =
          .ok (some statement) := by
  unfold creation?
  split
  · rename_i statement? made compiled
    simp [made, compiled]
  · rename_i other
    simp only [reduceCtorEq, false_iff, not_and]
    intro made compiled
    exact other _ made compiled

theorem mem_alterations {statement : String}
    (member : statement ∈ schema.alterations table declaration) :
    ∃ statements, (schema.declared table declaration).toAlter.result = .ok statements ∧
      statement ∈ statements := by
  unfold alterations at member
  split at member
  · exact ⟨_, ‹_›, member⟩
  · cases member

end Declared

section World

variable {State : Type} {world : World State} {past : History State} {schema : Schema}
  {table : String} {declaration : Declaration}

/-- Creating a table that exists exchanges the question only. -/
theorem after_create_present
    (present : (world.respond (.hasTable (schema.tableName table)) past.state).answer = .ok true) :
    past.after world (schema.create table declaration) =
      past.exchange world (.hasTable (schema.tableName table)) := by
  unfold create
  rw [past.after_request_bind, present]
  exact History.after_done _ world (.ok false)

/-- Creating a table that does not exist executes the statement that its declaration comes to. -/
theorem after_create_absent
    (absent : (world.respond (.hasTable (schema.tableName table)) past.state).answer = .ok false) :
    past.after world (schema.create table declaration) =
      match schema.creation? table declaration with
      | some statement =>
        (past.exchange world (.hasTable (schema.tableName table))).exchange world
          (.execute statement)
      | none => past.exchange world (.hasTable (schema.tableName table)) := by
  unfold create
  rw [past.after_request_bind, absent]
  simp only [Bool.false_eq_true, ↓reduceIte, after_compiled_bind, creation?, declared]
  cases (declaration (schema.blueprint table)).result with
  | error fault => rfl
  | ok made =>
    cases ((declaration (schema.blueprint table)).blueprint.toCreate schema.options).result with
    | error fault => rfl
    | ok statement? =>
      cases statement? with
      | none => exact History.after_done _ world (.ok false)
      | some statement =>
        dsimp only
        rw [History.after_request_bind]
        split
        · exact History.after_done _ world (.ok true)
        · rfl

/-- Creating a table that exists goes the same way whatever is declared. -/
theorem run_create_present {state : State}
    (present : (world.respond (.hasTable (schema.tableName table)) state).answer = .ok true) :
    (schema.create table declaration).run world state =
      ⟨.ok false, (world.respond (.hasTable (schema.tableName table)) state).events ++
        [.asked (.hasTable (schema.tableName table)) (.ok true)] ++
          [.noted (.tableExists (schema.tableName table))],
        (world.respond (.hasTable (schema.tableName table)) state).state⟩ := by
  unfold create
  rw [run_request_bind, present]
  rfl

/-- Creating a table that does not exist answers that a statement was executed exactly if there is
one and it is accepted. -/
theorem result_create_absent {state : State}
    (absent : (world.respond (.hasTable (schema.tableName table)) state).answer = .ok false) :
    ((schema.create table declaration).run world state).result = .ok true ↔
      ∃ statement, schema.creation? table declaration = some statement ∧
        (world.respond (.execute statement)
          (world.respond (.hasTable (schema.tableName table)) state).state).answer = .ok () := by
  unfold create
  rw [result_request_bind, absent]
  simp only [Bool.false_eq_true, ↓reduceIte, result_compiled_bind, creation?, declared]
  cases (declaration (schema.blueprint table)).result with
  | error fault => simp
  | ok made =>
    cases ((declaration (schema.blueprint table)).blueprint.toCreate schema.options).result with
    | error fault => simp
    | ok statement? =>
      cases statement? with
      | none =>
        change (Except.ok false : Except Fault Bool) = .ok true ↔ _
        simp
      | some statement =>
        simp only [Option.some.injEq, exists_eq_left']
        rw [result_request_bind]
        split
        · rename_i accepted
          rw [accepted]
          exact iff_of_true rfl rfl
        · rename_i refused
          simp [refused]

/-- Altering a table that does not exist exchanges the question only. -/
theorem after_alter_absent
    (absent : (world.respond (.hasTable (schema.tableName table)) past.state).answer = .ok false) :
    past.after world (schema.alter table declaration) =
      past.exchange world (.hasTable (schema.tableName table)) := by
  unfold alter
  rw [past.after_request_bind, absent]
  exact History.after_done _ world (.ok 0)

/-- Altering a table that does not exist goes the same way whatever is declared. -/
theorem run_alter_absent {state : State}
    (absent : (world.respond (.hasTable (schema.tableName table)) state).answer = .ok false) :
    (schema.alter table declaration).run world state =
      ⟨.ok 0, (world.respond (.hasTable (schema.tableName table)) state).events ++
        [.asked (.hasTable (schema.tableName table)) (.ok false)] ++
          [.noted (.tableMissing (schema.tableName table))],
        (world.respond (.hasTable (schema.tableName table)) state).state⟩ := by
  unfold alter
  rw [run_request_bind, absent]
  rfl

/-- What is done after the statements exchanges nothing. -/
theorem after_executeAll_bind (statements : List String) (next : Unit → Program Nat)
    (quiet : ∀ history : History State, history.after world (next ()) = history) :
    past.after world (executeAll statements >>= next) =
      past.after world (executeAll statements) := by
  change past.after world ((executeAll statements).bind next) = _
  rw [past.after_bind]
  split
  · exact quiet _
  · rfl

/-- Altering a table that exists executes the statements that its declaration comes to. -/
theorem after_alter_present
    (present : (world.respond (.hasTable (schema.tableName table)) past.state).answer = .ok true) :
    past.after world (schema.alter table declaration) =
      (past.exchange world (.hasTable (schema.tableName table))).after world
        (executeAll (schema.alterations table declaration)) := by
  have nothing (history : History State) : history.after world (executeAll []) = history :=
    history.after_done world (.ok ())
  unfold alter
  rw [past.after_request_bind, present]
  simp only [↓reduceIte, after_compiled_bind, alterations, declared]
  cases (declaration (schema.blueprint table)).result with
  | error fault => exact (nothing _).symm
  | ok made =>
    cases (declaration (schema.blueprint table)).blueprint.toAlter.result with
    | error fault => exact (nothing _).symm
    | ok statements =>
      refine after_executeAll_bind statements _ fun history => ?_
      split
      · exact history.after_done world (.ok 0)
      · exact history.after_done world (.ok statements.length)

/-- Statements that leave the state as it is are exchanged up to the first that is rejected. -/
theorem after_executeAll (past : History State) {statements : List String}
    (inert : ∀ statement ∈ statements,
      (world.respond (.execute statement) past.state).state = past.state) :
    ∃ executed, executed <+: statements ∧
      past.after world (executeAll statements) =
        ⟨past.exchanges ++ executed.map fun statement =>
          world.exchange (.execute statement) past.state, past.state⟩ := by
  induction statements generalizing past with
  | nil =>
    refine ⟨[], List.prefix_rfl, (past.after_done world (.ok ())).trans ?_⟩
    simp
  | cons statement statements ih =>
    obtain ⟨first, others⟩ := List.forall_mem_cons.mp inert
    have reached : past.exchange world (.execute statement) =
        ⟨past.exchanges ++ [world.exchange (.execute statement) past.state], past.state⟩ := by
      rw [History.exchange, first]
    unfold executeAll
    rw [past.after_request_bind, reached]
    split
    · obtain ⟨executed, begun, whole⟩ := @ih
        ⟨past.exchanges ++ [world.exchange (.execute statement) past.state], past.state⟩ others
      refine ⟨statement :: executed, List.cons_prefix_cons.mpr ⟨rfl, begun⟩, ?_⟩
      rw [whole]
      simp
    · exact ⟨[statement], List.prefix_append [statement] statements, rfl⟩

/-- Dropping a table executes one statement. -/
theorem after_drop :
    past.after world (schema.drop table) =
      past.exchange world
        (.execute ("DROP TABLE IF EXISTS " ++ quoteName (schema.tableName table))) := by
  unfold drop
  rw [past.after_request_bind]
  split
  · exact History.after_done _ world (.ok ())
  · rfl

end World

end Schema

end Tablewright
