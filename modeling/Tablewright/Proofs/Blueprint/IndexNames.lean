import Tablewright.Proofs.Blueprint.Drafts
import Tablewright.Proofs.Blueprint.Growth

/-! # Default names of indexes

An index without a name of its own is named after its table, its columns and its kind, with
underscores between them. The columns may have underscores in their names as well, so two indexes
of one kind go by one name exactly if their columns, cut at underscores, are the same words in the
same order. Whatever else happens to the blueprint, the definition that such a call adds stays where
it was added, and stays as it is.
-/

namespace Tablewright

/-! ## Indexes with default names -/

/-- An index that goes by its default name, and the columns that it covers. -/
structure DefaultIndex where
  kind : IndexKind
  columns : List String
deriving DecidableEq

namespace DefaultIndex

/-- The name of the index for a table. -/
def name (table : String) (index : DefaultIndex) : String :=
  table ++ "_" ++ "_".intercalate index.columns ++ "_" ++ index.kind.suffix

/-- The definition of the index for a table: it carries the name and covers the columns. -/
def fragment (table : String) (index : DefaultIndex) : String :=
  index.kind.sql (index.name table) (", ".intercalate (index.columns.map quoteName))

/-- The words that the columns are made of, which underscores separate. -/
def words (index : DefaultIndex) : List (List Char) :=
  index.columns.flatMap fun column => column.toList.splitOn '_'

end DefaultIndex

/-- Texts with underscores between them have the words of the texts, one after the other. -/
theorem splitOn_intercalate_underscore {texts : List String} (some : texts ≠ []) :
    ("_".intercalate texts).toList.splitOn '_' =
      texts.flatMap fun text => text.toList.splitOn '_' := by
  induction texts with
  | nil => exact absurd rfl some
  | cons text texts ih =>
    cases texts with
    | nil => simp
    | cons next texts =>
      rw [String.intercalate_cons_cons, List.flatMap_cons, ← ih (List.cons_ne_nil _ _),
        String.toList_append, String.toList_append]
      change (text.toList ++ ['_'] ++ _).splitOn '_' = _
      rw [List.append_assoc, List.singleton_append, List.splitOn_append_cons_self]

/-- A text is known from its words. -/
theorem splitOn_underscore_inj {text other : String} :
    other.toList.splitOn '_' = text.toList.splitOn '_' ↔ other = text := by
  refine ⟨fun same => String.toList_inj.mp ?_, fun same => same ▸ rfl⟩
  have joined (characters : List Char) : ['_'].intercalate (characters.splitOn '_') = characters :=
    List.intercalate_splitOn '_'
  rw [← joined other.toList, same, joined]

namespace DefaultIndex

variable {index other : DefaultIndex}

/-- Two indexes of one kind have one name exactly if their columns are made of the same words. -/
theorem name_eq_iff (table : String) (alike : other.kind = index.kind) (some : index.columns ≠ [])
    (some' : other.columns ≠ []) :
    other.name table = index.name table ↔ other.words = index.words := by
  rw [words, words, ← splitOn_intercalate_underscore some, ← splitOn_intercalate_underscore some',
    splitOn_underscore_inj, name, name, alike]
  simp [String.append_assoc]

end DefaultIndex

/-! ## Calls without a name -/

/-- The kind of an index that a call asks for without a name, and what is given for its columns. A
name that counts as false is none. -/
def Call.unnamedIndex? (blueprint : Blueprint) : Call → Option (IndexKind × Value)
  | .table (.addIndex kind columns name) =>
    if blueprint.isTruthy name then none else some (kind, columns)
  | .column ref (.addIndex kind name) =>
    if blueprint.isTruthy name then none else some (kind, blueprint.columnName ref)
  | _ => none

/-- The index with a default name that is added for what is given for its columns: there has to be
a column, and all columns have to be texts. -/
def Blueprint.defaultIndex? (blueprint : Blueprint) (kind : IndexKind) (given : Value) :
    Option DefaultIndex :=
  match (blueprint.indexColumns given).bind (Value.asTexts 0) with
  | .ok (name :: names) => some ⟨kind, name :: names⟩
  | _ => none

/-- The index with a default name that a call adds. -/
def Call.defaultIndex? (blueprint : Blueprint) (call : Call) : Option DefaultIndex :=
  (call.unnamedIndex? blueprint).bind fun asked => blueprint.defaultIndex? asked.1 asked.2

theorem Value.eq_map_of_asTexts {values : List Value} {position : Nat} {texts : List String}
    (listed : asTexts position values = .ok texts) : values = texts.map .text := by
  induction values generalizing position texts with
  | nil =>
    cases listed
    rfl
  | cons value values ih =>
    cases value with
    | text content =>
      obtain ⟨rest, others, same⟩ := bind_eq_ok.mp listed
      obtain rfl := Except.ok.inj same
      rw [List.map_cons, ← ih others]
    | _ => cases listed

namespace Blueprint

variable {blueprint : Blueprint}

theorem mapM_shown_texts (blueprint : Blueprint) (texts : List String) :
    (texts.map Value.text).mapM blueprint.shown = .ok texts := by
  rw [mapM_eq_ok]
  induction texts with
  | nil => exact .nil
  | cons text texts ih => exact .cons (blueprint.shown_text text) ih

theorem defaultIndex?_kind {kind : IndexKind} {given : Value} {index : DefaultIndex}
    (found : blueprint.defaultIndex? kind given = some index) :
    index.kind = kind ∧ index.columns ≠ [] := by
  unfold defaultIndex? at found
  split at found
  · obtain rfl := Option.some.inj found
    exact ⟨rfl, List.cons_ne_nil _ _⟩
  · cases found

/-- An index without a name is added with its default name if there are columns and all of them are
texts. Otherwise nothing is added. -/
theorem addIndex_unnamed {name : Value} (unnamed : blueprint.isTruthy name = false)
    (kind : IndexKind) (given : Value) (target : Target) :
    (blueprint.attempt (blueprint.addIndex kind given name) target).blueprint =
      (blueprint.defaultIndex? kind given).elim blueprint fun index =>
        blueprint.appendConstraint (index.fragment blueprint.table) := by
  have named (columns : List Value) : blueprint.indexName kind columns name =
      (Value.asTexts 0 columns).map fun names =>
        blueprint.table ++ "_" ++ "_".intercalate names ++ "_" ++ kind.suffix := by
    rw [indexName, unnamed]
    cases Value.asTexts 0 columns <;> rfl
  unfold addIndex defaultIndex?
  cases blueprint.indexColumns given with
  | error fault => rfl
  | ok columns =>
    cases columns with
    | nil => rfl
    | cons column columns =>
      change (blueprint.attempt (blueprint.indexName kind (column :: columns) name >>= _)
        _).blueprint = _
      rw [named, Except.bind]
      cases listed : Value.asTexts 0 (column :: columns) with
      | error fault => rfl
      | ok names =>
        have texts := Value.eq_map_of_asTexts listed
        rw [texts]
        cases names with
        | nil => cases texts
        | cons first names =>
          change (blueprint.attempt (((first :: names).map Value.text).mapM blueprint.shown >>= _)
            _).blueprint = _
          rw [blueprint.mapM_shown_texts]
          rfl

/-- A call that gives no name for an index adds the one with the default name, if there is one, and
nothing else. -/
theorem perform_unnamedIndex {call : Call} (asked : (call.unnamedIndex? blueprint).isSome) :
    (blueprint.perform call).blueprint =
      (call.defaultIndex? blueprint).elim blueprint fun index =>
        blueprint.appendConstraint (index.fragment blueprint.table) := by
  have each (kind : IndexKind) (given name : Value) (target : Target)
      (unnamed : (if blueprint.isTruthy name then none else some (kind, given)).isSome) :
      (blueprint.attempt (blueprint.addIndex kind given name) target).blueprint =
        ((if blueprint.isTruthy name then none else some (kind, given)).bind fun asked =>
          blueprint.defaultIndex? asked.1 asked.2).elim blueprint fun index =>
            blueprint.appendConstraint (index.fragment blueprint.table) := by
    cases truthy : blueprint.isTruthy name with
    | true => simp [truthy] at unnamed
    | false => exact addIndex_unnamed truthy kind given target
  cases call with
  | table call =>
    cases call with
    | addIndex kind columns name => exact each kind columns name _ asked
    | _ => cases asked
  | column ref call =>
    cases call with
    | addIndex kind name => exact each kind (blueprint.columnName ref) name _ asked
    | _ => cases asked
  | key index call => cases asked

/-! ## Histories -/

/-- The index with a default name that a move adds. -/
def Move.defaultIndex? (blueprint : Blueprint) : Move → Option DefaultIndex
  | .call made => made.defaultIndex? blueprint
  | .keep _ => none

/-- The indexes with default names that a history adds, each with the position of its definition
among the specs. -/
def defaultIndexes : Blueprint → List Move → List (Nat × DefaultIndex)
  | _, [] => []
  | blueprint, move :: moves =>
    ((move.defaultIndex? blueprint).map fun index => (blueprint.specs.length, index)).toList ++
      defaultIndexes (blueprint.moved move) moves

theorem moved_defaultIndex {move : Move} {index : DefaultIndex}
    (found : move.defaultIndex? blueprint = some index) :
    index.columns ≠ [] ∧
      blueprint.moved move = blueprint.appendConstraint (index.fragment blueprint.table) := by
  cases move with
  | keep values => cases found
  | call made =>
    obtain ⟨⟨kind, given⟩, asked, added⟩ := Option.bind_eq_some_iff.mp found
    refine ⟨(defaultIndex?_kind added).2, ?_⟩
    have effect := perform_unnamedIndex (Option.isSome_iff_exists.mpr ⟨_, asked⟩)
    rwa [show made.defaultIndex? blueprint = some index from found] at effect

theorem table_movedAll (blueprint : Blueprint) (moves : List Move) :
    (blueprint.movedAll moves).table = blueprint.table := by
  obtain ⟨named, prefixed⟩ := blueprint.movedAll_table moves
  rw [table, table, named, prefixed]

/-- The definition of an index with a default name stays where it was added. -/
theorem specs_of_defaultIndexes {moves : List Move} {position : Nat} {index : DefaultIndex}
    (added : (position, index) ∈ blueprint.defaultIndexes moves) :
    index.columns ≠ [] ∧ (blueprint.movedAll moves).specs[position]? =
      some (.constraint (index.fragment blueprint.table)) := by
  induction moves generalizing blueprint with
  | nil => cases added
  | cons move moves ih =>
    rw [movedAll_cons]
    rcases List.mem_append.mp added with here | later
    · obtain ⟨found, asked, same⟩ := Option.map_eq_some_iff.mp (Option.mem_toList.mp here)
      obtain ⟨rfl, rfl⟩ := Prod.mk.inj same
      obtain ⟨some, moved⟩ := moved_defaultIndex asked
      refine ⟨some, ?_⟩
      have there : (blueprint.moved move).specs[blueprint.specs.length]? =
          .some (.constraint (found.fragment blueprint.table)) := by
        rw [moved]
        exact List.getElem?_concat_length
      obtain ⟨edited, present, persists⟩ :=
        ((blueprint.moved move).movedAll_continues moves).specs _ _ there
      cases persists
      exact present
    · rw [← blueprint.table_movedAll [move]]
      exact ih later

/-- Default names of indexes. Through any history of calls, on the blueprint or on its columns, the
index that a call without a name adds keeps its definition, with its default name and its columns.
Two of them of one kind go by one name exactly if their columns are made of the same words between
underscores, in the same order. -/
theorem defaultNames_eq_iff {moves : List Move} {position place : Nat} {index other : DefaultIndex}
    (added : (position, index) ∈ blueprint.defaultIndexes moves)
    (added' : (place, other) ∈ blueprint.defaultIndexes moves) (alike : other.kind = index.kind) :
    (blueprint.movedAll moves).specs[position]? =
        some (.constraint (index.fragment blueprint.table)) ∧
      (blueprint.movedAll moves).specs[place]? =
        some (.constraint (other.fragment blueprint.table)) ∧
      (other.name blueprint.table = index.name blueprint.table ↔ other.words = index.words) := by
  obtain ⟨some, present⟩ := specs_of_defaultIndexes added
  obtain ⟨some', present'⟩ := specs_of_defaultIndexes added'
  exact ⟨present, present', DefaultIndex.name_eq_iff _ alike some some'⟩

/-- A column with a unique index of its own, and a unique index on two columns. -/
def uniqueMoves : List Move :=
  [.call (.table (.define (.string (.int 191)) (.text "email") .null)),
    .call (.column (.attached 0) (.addIndex .unique .null)),
    .call (.table (.addIndex .unique (.list [.text "author_id", .text "slug"]) .null))]

theorem uniqueMoves_named :
    (1, ⟨.unique, ["email"]⟩) ∈ (empty "wp_" "posts").defaultIndexes uniqueMoves ∧
      (2, ⟨.unique, ["author_id", "slug"]⟩) ∈ (empty "wp_" "posts").defaultIndexes uniqueMoves ∧
      (DefaultIndex.mk .unique ["author_id", "slug"]).name "wp_posts" ≠
        (DefaultIndex.mk .unique ["email"]).name "wp_posts" := by
  have added : (1, ⟨.unique, ["email"]⟩) ∈ (empty "wp_" "posts").defaultIndexes uniqueMoves := by
    decide
  have added' : (2, ⟨.unique, ["author_id", "slug"]⟩) ∈
      (empty "wp_" "posts").defaultIndexes uniqueMoves := by
    decide
  refine ⟨added, added', fun same => ?_⟩
  have words := (defaultNames_eq_iff added added' rfl).2.2.mp same
  revert words
  decide +kernel

/-- Two indexes on different columns that are made of the same words. -/
def collidingMoves : List Move :=
  [.call (.table (.addIndex .plain (.list [.text "a_b", .text "c"]) .null)),
    .call (.table (.addIndex .plain (.list [.text "a", .text "b_c"]) .null))]

theorem collidingMoves_share_name :
    (empty "" "posts").defaultIndexes collidingMoves =
        [(0, ⟨.plain, ["a_b", "c"]⟩), (1, ⟨.plain, ["a", "b_c"]⟩)] ∧
      ((empty "" "posts").movedAll collidingMoves).specs =
        [.constraint "KEY `posts_a_b_c_index` (`a_b`, `c`)",
          .constraint "KEY `posts_a_b_c_index` (`a`, `b_c`)"] := by
  decide +kernel

end Blueprint

end Tablewright
