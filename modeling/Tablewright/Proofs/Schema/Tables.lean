import Mathlib.Data.Set.Insert
import Tablewright.Proofs.Blueprint.Drafts
import Tablewright.Proofs.Migration.Memory
import Tablewright.Proofs.Schema.Steps

/-! # Schemas as sets of tables

A database in memory learns which tables there are from the texts of statements. As long as the
names are plain, what it finds in a statement is the name that the schema asked about, so the steps
of a schema work on a set of names: a creation adds a name that was missing, a drop removes one, and
nothing else changes the set. The blueprint of a step may be filled in any way that leaves it the
blueprint of its table.
-/

namespace Tablewright

open Program

/-! ## Names in statements -/

/-- What a statement about a table does with it. -/
inductive Heading where
  | create
  | alter
  | drop
deriving DecidableEq

namespace Heading

/-- The words before the name of the table. -/
def words : Heading → String
  | .create => "CREATE TABLE "
  | .alter => "ALTER TABLE "
  | .drop => "DROP TABLE IF EXISTS "

/-- The table that a statement with the heading is about. -/
def table? (heading : Heading) (statement : String) : Option String :=
  nameAfter? (heading.words.toList ++ [nameMark]) statement.toList

/-- Whether a statement has the heading and is about the table. -/
def Begins (heading : Heading) (name statement : String) : Prop :=
  ∃ rest, statement = heading.words ++ quoteName name ++ rest

variable {name statement : String}

theorem createdTable?_eq (statement : String) :
    createdTable? statement = Heading.create.table? statement := by
  have opening : "CREATE TABLE `".toList = "CREATE TABLE ".toList ++ [nameMark] := by decide
  rw [createdTable?, opening]
  rfl

theorem droppedTable?_eq (statement : String) :
    droppedTable? statement = Heading.drop.table? statement := by
  have opening : "DROP TABLE IF EXISTS `".toList =
      "DROP TABLE IF EXISTS ".toList ++ [nameMark] := by decide
  rw [droppedTable?, opening]
  rfl

/-- A statement about a table has its own heading and no other. -/
theorem Begins.table? {heading : Heading} (plain : IsPlainName name)
    (begins : heading.Begins name statement) (other : Heading) :
    other.table? statement = if other = heading then some name else none := by
  obtain ⟨rest, rfl⟩ := begins
  split
  · rename_i same
    subst same
    exact nameAfter?_quoteName plain _ _
  · rename_i different
    have missed {first char : Char} {others chars : List Char}
        (opening : other.words.toList = first :: others)
        (start : heading.words.toList = char :: chars) (apart : first ≠ char) :
        other.table? (heading.words ++ quoteName name ++ rest) = none := by
      rw [Heading.table?, String.append_assoc, String.toList_append, opening, start]
      exact nameAfter?_other apart _ _
    cases other <;> cases heading
    all_goals first
      | exact absurd rfl different
      | exact missed rfl rfl (by decide)

/-- The database finds the table that a statement creates. -/
theorem Begins.created (begins : Heading.create.Begins name statement)
    (plain : IsPlainName name) : createdTable? statement = some name := by
  rw [createdTable?_eq, begins.table? plain, if_pos rfl]

/-- The database finds the table that a statement drops, and none that it creates. -/
theorem Begins.dropped (begins : Heading.drop.Begins name statement) (plain : IsPlainName name) :
    createdTable? statement = none ∧ droppedTable? statement = some name := by
  rw [createdTable?_eq, droppedTable?_eq, begins.table? plain, begins.table? plain, if_pos rfl]
  exact ⟨rfl, rfl⟩

theorem begins_createText (name options : String) (fragments : List String) :
    Heading.create.Begins name (createText name options fragments) := by
  refine ⟨" (\n" ++ ",\n".intercalate fragments ++ "\n) " ++ options, ?_⟩
  unfold createText
  simp only [String.append_assoc]
  rfl

theorem begins_alterText (name clause : String) :
    Heading.alter.Begins name (alterText name clause) := by
  refine ⟨" " ++ clause, ?_⟩
  unfold alterText
  rw [String.append_assoc]
  rfl

end Heading

/-- The statement that drops a table. -/
def dropText (table : String) : String :=
  "DROP TABLE IF EXISTS " ++ quoteName table

theorem begins_dropText (name : String) : Heading.drop.Begins name (dropText name) :=
  ⟨"", String.append_empty.symm⟩

/-! ## What statements change -/

/-- Whether a statement is rejected when statements with a text are to fail. -/
def Rejects (failOn statement : String) : Bool :=
  failOn != "" && Text.contains statement failOn

namespace ScriptedWorld

/-- The tables of the database. -/
def tableSet (world : ScriptedWorld) : Set String :=
  {name | name ∈ world.database.tables}

variable {world : ScriptedWorld} {name statement : String}

/-- A statement is accepted exactly if it is not to fail. -/
theorem execute_accepted_iff :
    (databaseOnly.respond (.execute statement) world).answer = .ok () ↔
      Rejects world.database.failOn statement = false := by
  change (world.database.execute statement).1 = .ok () ↔ world.database.refuses statement = false
  unfold MemoryDatabase.execute
  cases world.database.refuses statement with
  | true => simp
  | false =>
    simp only [Bool.false_eq_true, ↓reduceIte]
    split <;> simp

/-- A rejected statement changes nothing. -/
theorem execute_rejected (rejected : Rejects world.database.failOn statement = true) :
    (databaseOnly.respond (.execute statement) world).state = world := by
  have refused : world.database.refuses statement = true := rejected
  change world.withDatabase (world.database.execute statement).2 = world
  rw [MemoryDatabase.execute, if_pos refused]
  rfl

/-- A statement that creates a table adds it. -/
theorem execute_create (plain : IsPlainName name) (begins : Heading.create.Begins name statement)
    (accepted : Rejects world.database.failOn statement = false) :
    (databaseOnly.respond (.execute statement) world).state.tableSet =
      insert name world.tableSet := by
  change {other | other ∈ (world.database.execute statement).2.tables} = _
  rw [MemoryDatabase.execute_creation accepted (begins.created plain)]
  ext other
  simp [MemoryDatabase.mem_createTable, tableSet, or_comm]

/-- A statement that drops a table removes it. -/
theorem execute_drop (plain : IsPlainName name) (begins : Heading.drop.Begins name statement)
    (accepted : Rejects world.database.failOn statement = false) :
    (databaseOnly.respond (.execute statement) world).state.tableSet =
      world.tableSet \ {name} := by
  obtain ⟨created, dropped⟩ := begins.dropped plain
  change {other | other ∈ (world.database.execute statement).2.tables} = _
  rw [MemoryDatabase.execute_drop accepted created dropped]
  ext other
  simp [MemoryDatabase.dropTable, tableSet]

/-- A statement that alters a table changes nothing. -/
theorem execute_alter (plain : IsPlainName name) (begins : Heading.alter.Begins name statement) :
    (databaseOnly.respond (.execute statement) world).state = world := by
  have created : createdTable? statement = none := by
    rw [Heading.createdTable?_eq, begins.table? plain, if_neg (by decide)]
  have dropped : droppedTable? statement = none := by
    rw [Heading.droppedTable?_eq, begins.table? plain, if_neg (by decide)]
  change world.withDatabase (world.database.execute statement).2 = world
  rw [MemoryDatabase.execute, created, dropped]
  split <;> rfl

end ScriptedWorld

/-! ## Runs -/

/-- A callback: it fills the blueprint of a table in any way, and leaves it the blueprint of that
table. -/
structure Callback where
  declare : Declaration
  table : ∀ blueprint, (declare blueprint).blueprint.table = blueprint.table

/-- The callback that makes the calls of a script. -/
def Callback.ofScript (options : String) (calls : List ScriptCall) : Callback where
  declare := Script.declaration options calls
  table blueprint := by
    have comes : Script.Comes blueprint (Script.run options blueprint [] calls).blueprint :=
      Script.comes_run options [] calls
    obtain ⟨moves, reached⟩ := comes
    obtain ⟨named, prefixed⟩ := blueprint.movedAll_table moves
    change (Script.run options blueprint [] calls).blueprint.table = blueprint.table
    rw [reached, Blueprint.table, named, prefixed]
    rfl

/-- A step on a table of a schema. -/
inductive TableStep where
  | create (table : String) (callback : Callback)
  | alter (table : String) (callback : Callback)
  | drop (table : String)
  | hasTable (table : String)

namespace TableStep

/-- The table of a step, without the prefix. -/
def table : TableStep → String
  | .create table _ | .alter table _ | .drop table | .hasTable table => table

/-- The program of a step. -/
def program (schema : Schema) : TableStep → Program Value
  | .create table callback => do return .bool (← schema.create table callback.declare)
  | .alter table callback => do return .int (← schema.alter table callback.declare)
  | .drop table => do
    schema.drop table
    return .null
  | .hasTable table => do return .bool (← schema.hasTable table)

/-- The heading of the statements of a step. -/
def heading? : TableStep → Option Heading
  | .create .. => some .create
  | .alter .. => some .alter
  | .drop _ => some .drop
  | .hasTable _ => none

/-- The step that a scripted step is, if it is on a table. -/
def ofScripted? (schema : Schema) : SchemaStep → Option TableStep
  | .create table calls => some (.create table (.ofScript schema.options calls))
  | .alter table calls => some (.alter table (.ofScript schema.options calls))
  | .drop table => some (.drop table)
  | .hasTable table => some (.hasTable table)
  | .tableName _ | .raise .. => none

/-- Scripted steps on tables are among these steps. -/
theorem program_ofScripted? {schema : Schema} {scripted : SchemaStep} {step : TableStep}
    (same : ofScripted? schema scripted = some step) (earlier : Option Nat) :
    scripted.program (.ok schema) earlier = step.program schema := by
  cases scripted with
  | tableName | raise => cases same
  | _ => cases same; rfl

end TableStep

/-- A step, and the text whose statements fail in it; none fail if it is empty. -/
structure Turn where
  failOn : String
  step : TableStep

/-- When a creation adds its table: nothing is raised by the callback or the compilation, the
finalized blueprint adds something, and the statement is accepted. -/
structure Schema.Adds (schema : Schema) (table : String) (callback : Callback) (failOn : String) :
    Prop where
  declared : (callback.declare (schema.blueprint table)).result = .ok ()
  compiled : ∃ statement?,
    ((schema.declared table callback.declare).toCreate schema.options).result = .ok statement?
  something : (schema.declared table callback.declare).finalize.blueprint.addSpecs ≠ []
  accepted : ∀ statement,
    ((schema.declared table callback.declare).toCreate schema.options).result =
      .ok (some statement) → Rejects failOn statement = false

/-- What a turn makes of the set of tables. -/
def Turn.tables (schema : Schema) (turn : Turn) (tables : Set String) : Set String :=
  match turn.step with
  | .create table callback =>
    {name | name ∈ tables ∨
      name = schema.tableName table ∧ name ∉ tables ∧ schema.Adds table callback turn.failOn}
  | .drop table =>
    {name | name ∈ tables ∧ (name = schema.tableName table →
      Rejects turn.failOn (dropText (schema.tableName table)) = true)}
  | .alter .. | .hasTable _ => tables

namespace ScriptedWorld

/-- The world in which statements with a text fail. -/
def failing (world : ScriptedWorld) (failOn : String) : ScriptedWorld :=
  world.withDatabase { world.database with failOn }

/-- The run of a turn. -/
def runOf (world : ScriptedWorld) (schema : Schema) (turn : Turn) : Run Value ScriptedWorld :=
  (turn.step.program schema).run databaseOnly (world.failing turn.failOn)

/-- What a turn exchanges, and the world that it leaves. -/
def take (world : ScriptedWorld) (schema : Schema) (turn : Turn) : History ScriptedWorld :=
  (History.start (world.failing turn.failOn)).after databaseOnly (turn.step.program schema)

/-- The world after turns. -/
def takeAll (world : ScriptedWorld) (schema : Schema) (turns : List Turn) : ScriptedWorld :=
  turns.foldl (fun world turn => (world.take schema turn).state) world

end ScriptedWorld

/-- What is executed in a turn is about the table of its step, which is missing when it is created
and there when it is altered. -/
structure Turn.Orders (schema : Schema) (turn : Turn) (tables : Set String) (statement : String) :
    Prop where
  begins : ∃ heading, turn.step.heading? = some heading ∧
    heading.Begins (schema.tableName turn.step.table) statement
  created : ∀ name, createdTable? statement = some name → name ∉ tables
  altered : ∀ name, Heading.alter.table? statement = some name → name ∈ tables

/-- A turn does to the tables of a world what it does to their set. It passes over the creation of a
table that exists and the alteration of one that does not, whatever the callback, and a creation
answers whether it added the table. -/
structure Turn.Refines (schema : Schema) (world : ScriptedWorld) (turn : Turn) : Prop where
  tables : (world.take schema turn).state.tableSet = turn.tables schema world.tableSet
  orders : ∀ exchange ∈ (world.take schema turn).exchanges, ∀ statement,
    exchange.request = .execute statement →
      turn.Orders schema exchange.before.tableSet statement
  existing : ∀ table callback, turn.step = .create table callback →
    schema.tableName table ∈ world.tableSet →
      world.runOf schema turn =
        ⟨.ok (.bool false), [.asked (.hasTable (schema.tableName table)) (.ok true),
          .noted (.tableExists (schema.tableName table))], world.failing turn.failOn⟩
  missing : ∀ table callback, turn.step = .alter table callback →
    schema.tableName table ∉ world.tableSet →
      world.runOf schema turn =
        ⟨.ok (.int 0), [.asked (.hasTable (schema.tableName table)) (.ok false),
          .noted (.tableMissing (schema.tableName table))], world.failing turn.failOn⟩
  answers : ∀ table callback, turn.step = .create table callback →
    ((world.runOf schema turn).result = .ok (.bool true) ↔
      schema.tableName table ∉ world.tableSet ∧
        schema.tableName table ∈ (world.take schema turn).state.tableSet)

section Turns

variable {schema : Schema} {world : ScriptedWorld} {failOn table statement : String}
  {callback : Callback}

theorem Schema.adds_iff :
    schema.Adds table callback failOn ↔ ∃ statement,
      schema.creation? table callback.declare = some statement ∧
        Rejects failOn statement = false := by
  constructor
  · intro adds
    obtain ⟨statement?, compiled⟩ := adds.compiled
    cases statement? with
    | none =>
      obtain ⟨-, nothing⟩ := Blueprint.toCreate_eq_none_iff.mp compiled
      exact absurd nothing adds.something
    | some statement =>
      exact ⟨statement, (schema.creation?_eq_some table callback.declare).mpr
        ⟨adds.declared, compiled⟩, adds.accepted statement compiled⟩
  · rintro ⟨statement, creation, accepted⟩
    obtain ⟨declared, compiled⟩ := (schema.creation?_eq_some table callback.declare).mp creation
    refine ⟨declared, ⟨_, compiled⟩, ?_, ?_⟩
    · intro nothing
      obtain ⟨_, finalized, -⟩ := except_bind_eq_ok.mp compiled
      rw [Blueprint.toCreate_eq_none_iff.mpr ⟨finalized, nothing⟩] at compiled
      cases compiled
    · intro other same
      rw [compiled] at same
      cases same
      exact accepted

/-- What a callback leaves is a blueprint of its table. -/
theorem Callback.declared_table :
    (schema.declared table callback.declare).table = schema.tableName table :=
  callback.table _

theorem creation_begins (creation : schema.creation? table callback.declare = some statement) :
    Heading.create.Begins (schema.tableName table) statement := by
  obtain ⟨-, compiled⟩ := (schema.creation?_eq_some table callback.declare).mp creation
  obtain ⟨fragments, rfl⟩ := Blueprint.toCreate_text compiled
  rw [callback.declared_table]
  exact Heading.begins_createText _ _ _

theorem alteration_begins (member : statement ∈ schema.alterations table callback.declare) :
    Heading.alter.Begins (schema.tableName table) statement := by
  obtain ⟨statements, compiled, member⟩ := schema.mem_alterations table callback.declare member
  obtain ⟨clause, rfl⟩ := Blueprint.toAlter_texts compiled statement member
  rw [callback.declared_table]
  exact Heading.begins_alterText _ _

/-- What has been exchanged when a step has asked whether its table exists. -/
def asked (schema : Schema) (world : ScriptedWorld) (table : String) : History ScriptedWorld :=
  ⟨[ScriptedWorld.databaseOnly.exchange (.hasTable (schema.tableName table)) world], world⟩

theorem request_of_mem_asked (world : ScriptedWorld) {exchange : Exchange ScriptedWorld}
    (member : exchange ∈ (asked schema world table).exchanges) :
    exchange.request = .hasTable (schema.tableName table) := by
  rw [List.mem_singleton.mp member]
  rfl

theorem hasTable_present (world : ScriptedWorld)
    (present : schema.tableName table ∈ world.tableSet) :
    (ScriptedWorld.databaseOnly.respond (.hasTable (schema.tableName table)) world).answer =
      .ok true :=
  congrArg Except.ok (decide_eq_true present)

theorem hasTable_absent (world : ScriptedWorld)
    (absent : schema.tableName table ∉ world.tableSet) :
    (ScriptedWorld.databaseOnly.respond (.hasTable (schema.tableName table)) world).answer =
      .ok false :=
  congrArg Except.ok (decide_eq_false absent)

/-- A statement of the step of a turn is about its table. -/
theorem Turn.orders_of_begins {turn : Turn} {tables : Set String} {heading : Heading}
    (plain : IsPlainName (schema.tableName turn.step.table))
    (own : turn.step.heading? = some heading)
    (begins : heading.Begins (schema.tableName turn.step.table) statement)
    (absent : heading = .create → schema.tableName turn.step.table ∉ tables)
    (present : heading = .alter → schema.tableName turn.step.table ∈ tables) :
    turn.Orders schema tables statement := by
  refine ⟨⟨heading, own, begins⟩, fun name found => ?_, fun name found => ?_⟩
  · rw [Heading.createdTable?_eq, begins.table? plain] at found
    split at found
    · rename_i same
      cases found
      exact absent same.symm
    · cases found
  · rw [begins.table? plain] at found
    split at found
    · rename_i same
      cases found
      exact present same.symm
    · cases found

/-- Nothing is executed in a turn that only asks. -/
theorem orders_of_asked {turn : Turn} {asking : ScriptedWorld}
    (only : world.take schema turn = asked schema asking table) :
    ∀ exchange ∈ (world.take schema turn).exchanges, ∀ statement,
      exchange.request = .execute statement →
        turn.Orders schema exchange.before.tableSet statement := by
  intro exchange member statement executed
  rw [only] at member
  rw [request_of_mem_asked _ member] at executed
  cases executed

theorem take_create (schema : Schema) (world : ScriptedWorld) (failOn table : String)
    (callback : Callback) :
    world.take schema ⟨failOn, .create table callback⟩ =
      (History.start (world.failing failOn)).after ScriptedWorld.databaseOnly
        (schema.create table callback.declare) :=
  History.after_bind_pure _ _ _ _

theorem runOf_create :
    world.runOf schema ⟨failOn, .create table callback⟩ =
      let run := (schema.create table callback.declare).run ScriptedWorld.databaseOnly
        (world.failing failOn)
      ⟨run.result.map .bool, run.events, run.state⟩ :=
  Program.run_bind_pure _ _ _ _

theorem create_refines_present (present : schema.tableName table ∈ world.tableSet) :
    Turn.Refines schema world ⟨failOn, .create table callback⟩ := by
  have answered := hasTable_present (world.failing failOn) present
  have only : world.take schema ⟨failOn, .create table callback⟩ =
      asked schema (world.failing failOn) table :=
    (take_create ..).trans (Schema.after_create_present answered)
  have run : world.runOf schema ⟨failOn, .create table callback⟩ =
      ⟨.ok (.bool false), [.asked (.hasTable (schema.tableName table)) (.ok true),
        .noted (.tableExists (schema.tableName table))], world.failing failOn⟩ := by
    rw [runOf_create, Schema.run_create_present answered]
    rfl
  constructor
  · rw [only]
    ext name
    change name ∈ world.tableSet ↔ name ∈ world.tableSet ∨ _
    constructor
    · exact Or.inl
    · rintro (member | ⟨rfl, absent, -⟩)
      · exact member
      · exact absurd present absent
  · exact orders_of_asked only
  · rintro _ _ ⟨⟩ -
    exact run
  · rintro _ _ ⟨⟩
  · rintro _ _ ⟨⟩
    rw [run]
    exact iff_of_false (by rintro ⟨⟩) fun added => added.1 present

/-- Whether a creation of a table that does not exist executed a statement. -/
theorem create_answers (absent : schema.tableName table ∉ world.tableSet) :
    (world.runOf schema ⟨failOn, .create table callback⟩).result = .ok (.bool true) ↔
      schema.Adds table callback failOn := by
  have answered := hasTable_absent (world.failing failOn) absent
  rw [runOf_create, Schema.adds_iff]
  simp only [map_eq_ok, Value.bool.injEq, exists_eq_right]
  rw [Schema.result_create_absent answered]
  exact exists_congr fun statement => and_congr_right' ScriptedWorld.execute_accepted_iff

/-- What a creation of a table that does not exist makes of the tables. -/
theorem tableSet_create (failOn : String) (callback : Callback)
    (plain : IsPlainName (schema.tableName table))
    (absent : schema.tableName table ∉ world.tableSet) :
    (world.take schema ⟨failOn, .create table callback⟩).state.tableSet =
      {name | name ∈ world.tableSet ∨
        name = schema.tableName table ∧ schema.Adds table callback failOn} := by
  rw [take_create,
    Schema.after_create_absent (hasTable_absent (world.failing failOn) absent)]
  ext name
  rw [Schema.adds_iff]
  cases creation : schema.creation? table callback.declare with
  | none =>
    change name ∈ world.tableSet ↔ name ∈ world.tableSet ∨ _
    simp
  | some statement =>
    change name ∈ (ScriptedWorld.databaseOnly.respond (.execute statement)
      (world.failing failOn)).state.tableSet ↔ name ∈ world.tableSet ∨ _
    cases rejected : Rejects failOn statement with
    | true =>
      rw [ScriptedWorld.execute_rejected rejected]
      change name ∈ world.tableSet ↔ _
      simp [rejected]
    | false =>
      rw [ScriptedWorld.execute_create plain (creation_begins creation) rejected]
      change name = _ ∨ name ∈ world.tableSet ↔ _
      simp [rejected, or_comm]

theorem create_refines_absent (plain : IsPlainName (schema.tableName table))
    (absent : schema.tableName table ∉ world.tableSet) :
    Turn.Refines schema world ⟨failOn, .create table callback⟩ := by
  have taken := (take_create schema world failOn table callback).trans
    (Schema.after_create_absent (hasTable_absent (world.failing failOn) absent))
  have added := tableSet_create failOn callback plain absent
  constructor
  · rw [added]
    ext name
    change name ∈ world.tableSet ∨ _ ↔ name ∈ world.tableSet ∨ _
    refine or_congr_right (and_congr_right fun same => ?_)
    exact (and_iff_right (same ▸ absent)).symm
  · intro exchange member statement executed
    cases creation : schema.creation? table callback.declare with
    | none =>
      rw [creation] at taken
      have only : world.take schema ⟨failOn, .create table callback⟩ =
          asked schema (world.failing failOn) table := taken
      exact orders_of_asked only exchange member statement executed
    | some own =>
      rw [taken, creation] at member
      rcases List.mem_append.mp member with first | second
      · rw [request_of_mem_asked _ first] at executed
        cases executed
      · cases List.mem_singleton.mp second
        cases executed
        exact Turn.orders_of_begins plain rfl (creation_begins creation) (fun _ => absent)
          (by rintro ⟨⟩)
  · rintro _ _ ⟨⟩ present
    exact absurd present absent
  · rintro _ _ ⟨⟩
  · rintro _ _ ⟨⟩
    rw [create_answers absent, added]
    constructor
    · exact fun adds => ⟨absent, .inr ⟨rfl, adds⟩⟩
    · rintro ⟨-, member | ⟨-, adds⟩⟩
      · exact absurd member absent
      · exact adds

theorem take_alter (schema : Schema) (world : ScriptedWorld) (failOn table : String)
    (callback : Callback) :
    world.take schema ⟨failOn, .alter table callback⟩ =
      (History.start (world.failing failOn)).after ScriptedWorld.databaseOnly
        (schema.alter table callback.declare) :=
  History.after_bind_pure _ _ _ fun count : Nat => Value.int count

theorem alter_refines_absent (absent : schema.tableName table ∉ world.tableSet) :
    Turn.Refines schema world ⟨failOn, .alter table callback⟩ := by
  have answered := hasTable_absent (world.failing failOn) absent
  have only : world.take schema ⟨failOn, .alter table callback⟩ =
      asked schema (world.failing failOn) table :=
    (take_alter ..).trans (Schema.after_alter_absent answered)
  constructor
  · rw [only]
    rfl
  · exact orders_of_asked only
  · rintro _ _ ⟨⟩
  · rintro _ _ ⟨⟩ -
    refine (Program.run_bind_pure _ _ (fun count : Nat => Value.int count) _).trans ?_
    rw [Schema.run_alter_absent answered]
    rfl
  · rintro _ _ ⟨⟩

theorem alter_refines_present (plain : IsPlainName (schema.tableName table))
    (present : schema.tableName table ∈ world.tableSet) :
    Turn.Refines schema world ⟨failOn, .alter table callback⟩ := by
  have inert : ∀ statement ∈ schema.alterations table callback.declare,
      (ScriptedWorld.databaseOnly.respond (.execute statement) (world.failing failOn)).state =
        world.failing failOn :=
    fun statement member => ScriptedWorld.execute_alter plain (alteration_begins member)
  obtain ⟨executed, begun, ordered⟩ :=
    Schema.after_executeAll (asked schema (world.failing failOn) table) inert
  have taken := (take_alter schema world failOn table callback).trans
    ((Schema.after_alter_present (hasTable_present (world.failing failOn) present)).trans
      ordered)
  constructor
  · rw [taken]
    rfl
  · rw [taken]
    intro exchange member statement request
    rcases List.mem_append.mp member with first | later
    · rw [request_of_mem_asked _ first] at request
      cases request
    · obtain ⟨own, listed, rfl⟩ := List.mem_map.mp later
      cases request
      exact Turn.orders_of_begins plain rfl (alteration_begins (begun.subset listed))
        (by rintro ⟨⟩) fun _ => present
  · rintro _ _ ⟨⟩
  · rintro _ _ ⟨⟩ absent
    exact absurd present absent
  · rintro _ _ ⟨⟩

theorem drop_refines (plain : IsPlainName (schema.tableName table)) :
    Turn.Refines schema world ⟨failOn, .drop table⟩ := by
  have taken : world.take schema ⟨failOn, .drop table⟩ =
      (History.start (world.failing failOn)).exchange ScriptedWorld.databaseOnly
        (.execute (dropText (schema.tableName table))) :=
    (History.after_bind_pure _ _ _ fun _ : Unit => Value.null).trans Schema.after_drop
  have begins := begins_dropText (schema.tableName table)
  constructor
  · rw [taken]
    ext name
    change name ∈ (ScriptedWorld.databaseOnly.respond (.execute (dropText (schema.tableName table)))
      (world.failing failOn)).state.tableSet ↔ name ∈ world.tableSet ∧ (_ → _ = true)
    cases rejected : Rejects failOn (dropText (schema.tableName table)) with
    | true =>
      rw [ScriptedWorld.execute_rejected rejected]
      exact (and_iff_left fun _ => rfl).symm
    | false =>
      rw [ScriptedWorld.execute_drop plain begins rejected]
      simp only [Bool.false_eq_true, imp_false]
      exact Iff.rfl
  · rw [taken]
    intro exchange member statement request
    cases List.mem_singleton.mp member
    cases request
    exact Turn.orders_of_begins plain rfl begins (by rintro ⟨⟩) (by rintro ⟨⟩)
  · rintro _ _ ⟨⟩
  · rintro _ _ ⟨⟩
  · rintro _ _ ⟨⟩

theorem hasTable_refines : Turn.Refines schema world ⟨failOn, .hasTable table⟩ := by
  have only : world.take schema ⟨failOn, .hasTable table⟩ =
      asked schema (world.failing failOn) table :=
    (History.after_bind_pure _ _ _ Value.bool).trans
      ((History.after_ask _ _ _ _).trans (History.after_done _ _ _))
  constructor
  · rw [only]
    rfl
  · exact orders_of_asked only
  · rintro _ _ ⟨⟩
  · rintro _ _ ⟨⟩
  · rintro _ _ ⟨⟩

/-- A turn on a table of a plain name does what it does to the set of tables. -/
theorem turn_refines (world : ScriptedWorld) (turn : Turn)
    (plain : IsPlainName (schema.tableName turn.step.table)) :
    Turn.Refines schema world turn := by
  obtain ⟨failOn, step⟩ := turn
  cases step with
  | create table callback =>
    by_cases present : schema.tableName table ∈ world.tableSet
    · exact create_refines_present present
    · exact create_refines_absent plain present
  | alter table callback =>
    by_cases present : schema.tableName table ∈ world.tableSet
    · exact alter_refines_present plain present
    · exact alter_refines_absent present
  | drop table => exact drop_refines plain
  | hasTable table => exact hasTable_refines

/-- Runs of a schema on tables of plain names are runs on the set of the tables, and every turn
refines its counterpart there. -/
theorem runs_refine (schema : Schema) (world : ScriptedWorld) (earlier : List Turn) (turn : Turn)
    (plain : ∀ taken ∈ earlier ++ [turn], IsPlainName (schema.tableName taken.step.table)) :
    (world.takeAll schema earlier).tableSet =
        earlier.foldl (fun tables taken => taken.tables schema tables) world.tableSet ∧
      turn.Refines schema (world.takeAll schema earlier) := by
  have follows (turns : List Turn) (named : ∀ taken ∈ turns,
      IsPlainName (schema.tableName taken.step.table)) (start : ScriptedWorld) :
      (start.takeAll schema turns).tableSet =
        turns.foldl (fun tables taken => taken.tables schema tables) start.tableSet := by
    induction turns generalizing start with
    | nil => rfl
    | cons taken turns ih =>
      obtain ⟨first, others⟩ := List.forall_mem_cons.mp named
      have step := (turn_refines start taken first).tables
      rw [List.foldl_cons, ← step]
      exact ih others _
  refine ⟨follows earlier (fun taken member => plain taken (List.mem_append_left _ member)) world,
    turn_refines _ turn (plain turn ?_)⟩
  exact List.mem_append_right _ (List.mem_singleton_self turn)

end Turns

/-- A callback that declares a column and opens a foreign key. -/
def titleCallback : Callback :=
  .ofScript "ENGINE=InnoDB" [⟨none, .invoke "string" [.value (.text "title")] []⟩,
    ⟨none, .invoke "foreign_id" [.value (.text "author_id")] []⟩]

/-- Turns on one table: its creation is rejected and then succeeds, nothing of an alteration is
executed, and it is dropped. -/
def postsTurns : List Turn :=
  [⟨"CREATE", .create "posts" titleCallback⟩, ⟨"CREATE INDEX", .create "posts" titleCallback⟩,
    ⟨"", .create "posts" titleCallback⟩, ⟨"ADD", .alter "posts" titleCallback⟩,
    ⟨"", .alter "authors" titleCallback⟩, ⟨"`", .hasTable "posts"⟩, ⟨"", .drop "posts"⟩]

/-- These turns on the first world, and a creation after them. -/
theorem postsTurns_refine :
    let schema := ScriptedWorld.tracking.schema
    let again : Turn := ⟨"", .create "posts" titleCallback⟩
    (∀ taken ∈ postsTurns ++ [again], IsPlainName (schema.tableName taken.step.table)) ∧
      ((ScriptedWorld.fresh.takeAll schema postsTurns).tableSet =
          postsTurns.foldl (fun tables taken => taken.tables schema tables)
            ScriptedWorld.fresh.tableSet ∧
        again.Refines schema (ScriptedWorld.fresh.takeAll schema postsTurns)) := by
  intro schema again
  have posts : IsPlainName (schema.tableName "posts") := ⟨by decide, by decide⟩
  have authors : IsPlainName (schema.tableName "authors") := ⟨by decide, by decide⟩
  have plain : ∀ taken ∈ postsTurns ++ [again],
      IsPlainName (schema.tableName taken.step.table) := by
    simp only [postsTurns, again, List.cons_append, List.nil_append, List.forall_mem_cons]
    exact ⟨posts, posts, posts, posts, authors, posts, posts, posts, by simp⟩
  exact ⟨plain, runs_refine schema ScriptedWorld.fresh postsTurns again plain⟩

end Tablewright
