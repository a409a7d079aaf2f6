import Mathlib.Data.List.Forall2
import Mathlib.Data.List.Induction
import Tablewright.Proofs.Blueprint.Growth

/-! # The column defined last and the specs

Modifiers on a blueprint change the column defined last, and an index without columns is on it. At
any time that column is the last one among the specs, whatever indexes, constraints and alterations
have been added behind it, and there is none exactly as long as no column has been defined. The
specs themselves only grow, and what they become in a statement that creates the table says the type
of every column.
-/

namespace Tablewright

/-! ## The last column -/

/-- There is a last column unless there is none at all. -/
theorem lastColumn_or_none (specs : List Spec) :
    (∃ index column, LastColumn specs index ∧ specs[index]? = some (.column column) ∧
      (specs.filterMap Spec.column?).getLast? = some column) ∨
    ∀ spec ∈ specs, spec.column? = none := by
  induction specs using List.reverseRecOn with
  | nil => exact .inr (by simp)
  | append_singleton specs spec ih =>
    cases spec with
    | column column =>
      refine .inl ⟨specs.length, column, ?_, List.getElem?_concat_length, ?_⟩
      · exact (lastColumn_column specs column specs.length).mpr rfl
      · simp [List.filterMap_append, Spec.column?]
    | plain spec =>
      rcases ih with ⟨index, column, last, found, latest⟩ | none
      · refine .inl ⟨index, column, ?_, ?_, ?_⟩
        · simpa only [LastColumn, hasColumn_plain] using last
        · rw [List.getElem?_append_left last.1.lt]
          exact found
        · simpa [List.filterMap_append, Spec.column?] using latest
      · exact .inr (Blueprint.forall_mem_append_single none _ rfl)

namespace Blueprint

variable {blueprint : Blueprint}

/-- Whether the column defined last is the last column among the specs, so that there is none
exactly if no spec is a column. -/
structure CurrentIsLast (blueprint : Blueprint) : Prop where
  position : ∀ index, blueprint.current = some index ↔ LastColumn blueprint.specs index
  column : blueprint.currentColumn? = (blueprint.specs.filterMap Spec.column?).getLast?
  none : blueprint.current = none ↔ ∀ spec ∈ blueprint.specs, spec.column? = none

theorem RemembersLast.currentIsLast (remembers : blueprint.RemembersLast) :
    blueprint.CurrentIsLast := by
  rcases lastColumn_or_none blueprint.specs with ⟨index, column, last, found, latest⟩ | none
  · have current := (remembers index).mpr last
    refine ⟨remembers, ?_, ?_⟩
    · rw [currentColumn?, current, Option.bind_some, latest]
      exact column?_attached.mpr found
    · have there := List.mem_of_getElem? found
      constructor
      · intro unset
        cases unset.symm.trans current
      · intro none
        cases none _ there
  · have unset : blueprint.current = .none := by
      refine Option.eq_none_iff_forall_ne_some.mpr fun index current => ?_
      obtain ⟨column, found⟩ := ((remembers index).mp current).1
      cases none _ (List.mem_of_getElem? found)
    have nothing : blueprint.specs.filterMap Spec.column? = [] := by
      rw [List.filterMap_eq_nil_iff]
      exact none
    refine ⟨remembers, ?_, ⟨fun _ => none, fun _ => unset⟩⟩
    rw [currentColumn?, unset, nothing]
    rfl

/-! ## Statements that create a table -/

/-- Whether a fragment says right behind the name of a column what the column holds: with its
definition or, without one, with its type. -/
def SaysType (blueprint : Blueprint) (column : Column) (fragment : String) : Prop :=
  ∃ name held clauses, fragment = " ".intercalate (quoteName name :: held :: clauses) ∧
    (column.definition = .text held ∨ column.definition = .null ∧
      ∃ type, column.type = some type ∧ (blueprint.viewedType type).sql = .ok held)

theorem columnSql_saysType {column : Column} {fragment : String} (typed : column.isTyped = true)
    (rendered : blueprint.columnSql column = .ok fragment) :
    blueprint.SaysType column fragment := by
  obtain ⟨worded, read, rendered⟩ := bind_eq_ok.mp rendered
  obtain ⟨name, -, read⟩ := bind_eq_ok.mp read
  obtain ⟨default, -, read⟩ := bind_eq_ok.mp read
  obtain rfl := Except.ok.inj read
  obtain ⟨clauses, listed, rendered⟩ := bind_eq_ok.mp rendered
  obtain rfl := Except.ok.inj rendered
  obtain ⟨label, -, listed⟩ := bind_eq_ok.mp listed
  obtain ⟨sized, known, listed⟩ := bind_eq_ok.mp listed
  obtain ⟨clause, -, listed⟩ := bind_eq_ok.mp listed
  obtain ⟨comment, -, listed⟩ := bind_eq_ok.mp listed
  obtain ⟨definition, defined, listed⟩ := bind_eq_ok.mp listed
  obtain rfl := Except.ok.inj listed
  simp only [Column.typeClause] at known
  simp only [Column.definitionClause] at defined
  cases given : column.definition with
  | null =>
    rw [given] at known defined
    obtain rfl := Except.ok.inj defined
    obtain ⟨type, found⟩ : ∃ type, column.type = some type := by
      simpa [Column.isTyped, given, Option.isSome_iff_exists] using typed
    rw [found] at known
    obtain ⟨held, declared, rfl⟩ := map_eq_ok.mp known
    exact ⟨_, _, _, rfl, .inr ⟨given, type, found, declared⟩⟩
  | text definition =>
    rw [given] at known defined
    obtain rfl := Except.ok.inj known
    obtain rfl := Except.ok.inj defined
    exact ⟨_, _, _, rfl, .inl given⟩
  | _ =>
    rw [given] at defined
    cases defined

/-- Whether in every statement that creates the table the fragment of each column says its type. -/
def StatesTypes (blueprint : Blueprint) : Prop :=
  ∀ options statement, (blueprint.toCreate options).result = .ok (some statement) →
    ∃ fragments, statement = createText blueprint.table options fragments ∧
      List.Forall₂ (fun spec fragment => ∀ column ∈ spec.column?,
          blueprint.finalize.blueprint.SaysType column fragment)
        blueprint.finalize.blueprint.addSpecs fragments

theorem IsDeclared.statesTypes (declared : blueprint.IsDeclared) : blueprint.StatesTypes := by
  intro options statement compiled
  have kept : blueprint.finalize.blueprint.IsDeclared :=
    (finalize_grows blueprint).isDeclared not_false declared
  obtain ⟨⟨⟩, -, created⟩ := except_bind_eq_ok.mp compiled
  rw [createStatement_eq] at created
  split at created
  · cases created
  · obtain ⟨fragments, rendered, same⟩ := map_eq_ok.mp created
    refine ⟨fragments, ?_, ?_⟩
    · rw [← finalize_table]
      exact (Option.some.inj same).symm
    · have each := (List.forall₂_and_left _ _).mpr
        ⟨fun spec (member : spec ∈ Spec.added _) => member, mapM_eq_ok.mp rendered⟩
      refine each.imp fun spec fragment ⟨member, shown⟩ => ?_
      obtain ⟨present, add⟩ := List.mem_filter.mp member
      intro column found
      cases spec with
      | plain spec => cases found
      | column other =>
        obtain rfl := Option.some.inj found
        exact columnSql_saysType (kept _ present _ rfl (of_decide_eq_true add)) shown

/-! ## Histories -/

/-- Whether a blueprint that another has come to be is coherent with it: the column defined last is
the last one, the specs are the earlier ones with others behind them, and one more move changes one
spec at most. -/
structure CoherentWith (reached earlier : Blueprint) : Prop where
  current : reached.CurrentIsLast
  continues : reached.Continues earlier
  next : ∀ move, reached.Grows move.LacksDefinition (reached.moved move)

theorem empty_isDeclared (tablePrefix name : String) : (empty tablePrefix name).IsDeclared := by
  simp [IsDeclared, empty]

/-- After any two histories, the second on what the first leaves, the blueprint is coherent with
what it was in between. If no column was added with null for its definition then every column has a
type or a definition, and says so when the table is created. -/
theorem movedAll_coherent (tablePrefix name : String) (earlier later : List Move) :
    let reached := (empty tablePrefix name).movedAll earlier
    let after := reached.movedAll later
    after.CoherentWith reached ∧ ((∀ move ∈ earlier ++ later, ¬ move.LacksDefinition) →
      after.IsDeclared ∧ after.StatesTypes) := by
  intro reached after
  have whole : after = (empty tablePrefix name).movedAll (earlier ++ later) :=
    (movedAll_append _ earlier later).symm
  have remembers : after.RemembersLast := by
    rw [whole]
    exact movedAll_remembersLast tablePrefix name (earlier ++ later)
  refine ⟨⟨remembers.currentIsLast, movedAll_continues reached later, moved_grows after⟩, ?_⟩
  intro complete
  have declared : after.IsDeclared := by
    rw [whole]
    exact (empty_isDeclared tablePrefix name).movedAll complete
  exact ⟨declared, declared.statesTypes⟩

/-- A definition of a table with an index, a foreign key on a column that is not defined, and an
enumeration whose default is refused after the column was added. -/
def postsDefined : List Move :=
  [.call (.table (.define .increments (.text "id") .null)),
    .call (.table (.foreign (.text "author"))),
    .call (.table (.define (.enum (.list [.text "draft"])) (.text "state") (.text "gone"))),
    .call (.table (.addIndex .plain .null .null)),
    .call (.table (.append ⟨.drop, .text "old", "", .null, false⟩))]

/-- What is done to the table afterwards: a change that is completed, a column with a definition of
its own, a modifier of that column and the other specs. -/
def postsContinued : List Move :=
  [.call (.table (.modifyColumn (.text "body"))),
    .call (.table (.define .longText (.text "body") .null)),
    .call (.table (.addColumn (.text "score") (.text "INT NOT NULL"))),
    .call (.table (.comment (.text "likes"))),
    .call (.key 0 (.references (.text "id"))),
    .call (.table (.renameColumn (.text "a") (.text "b"))),
    .call (.table .finalize)]

/-- The enumeration stays although its definition failed, and is the column defined last until the
next one, while specs of every other kind are added. -/
theorem postsDefined_coherent :
    let reached := (empty "" "posts").movedAll postsDefined
    let after := reached.movedAll postsContinued
    (∀ move ∈ postsDefined ++ postsContinued, ¬ move.LacksDefinition) ∧
      after.CoherentWith reached ∧ after.IsDeclared ∧ after.StatesTypes ∧
      reached.current = some 1 ∧ reached.specs.length = 4 ∧ reached.detached.length = 1 ∧
      after.current = some 5 ∧ after.specs.length = 7 := by
  intro reached after
  have complete : ∀ move ∈ postsDefined ++ postsContinued, ¬ move.LacksDefinition := by
    simp [postsDefined, postsContinued, Move.LacksDefinition, TableCall.LacksDefinition]
  obtain ⟨coherent, typed⟩ := movedAll_coherent "" "posts" postsDefined postsContinued
  have columns : reached.current = some 1 ∧ reached.specs.length = 4 ∧
      reached.detached.length = 1 ∧ after.current = some 5 ∧ after.specs.length = 7 := by
    decide +kernel
  exact ⟨complete, coherent, (typed complete).1, (typed complete).2, columns⟩

end Blueprint

end Tablewright
