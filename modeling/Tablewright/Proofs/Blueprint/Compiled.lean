import Tablewright.Proofs.Blueprint.Drafts
import Tablewright.Proofs.Blueprint.Modifiers
import Tablewright.Proofs.Blueprint.Worded

/-! # The two compilers

The statement that creates a table and the statements that alter it are made of the same specs, by
two walks with different filters. Both render a spec in the finalized blueprint. So they agree on
everything that is added: the fragments of the one statement are, in their order, what the
others add. Each spec of a known kind has one statement among those that alter the table, and each
spec of an unknown kind has one warning.
-/

namespace Tablewright

/-- Whether statements can be made of specs of the kind. -/
def SpecKind.isKnown : SpecKind → Bool
  | .other _ => false
  | _ => true

namespace Spec

/-- The specs that belong to a new table. -/
def added (specs : List Spec) : List Spec :=
  specs.filter fun spec => spec.kind = .add

/-- The specs of which statements can be made. -/
def known (specs : List Spec) : List Spec :=
  specs.filter fun spec => spec.kind.isKnown

/-- The warnings about the others. -/
def warnings (table : String) (specs : List Spec) : List Notice :=
  (specs.filter fun spec => !spec.kind.isKnown).map fun spec =>
    .unsupportedKind (Text.quoted spec.kind.name) table

/-- What stands before the fragment of a spec where it is added to a table. -/
def addHead (spec : Spec) : String :=
  if spec.isConstraint then "ADD " else "ADD COLUMN "

/-- The clause of a spec of a known kind. Only what is added or changed shows its fragment. -/
def clause (spec : Spec) (fragment : String) : String :=
  match spec.kind with
  | .add => spec.addHead ++ fragment
  | .modify => "MODIFY COLUMN " ++ fragment
  | .drop => "DROP COLUMN " ++ quoteName spec.columnName.plainForm
  | .rename => "RENAME COLUMN " ++ quoteName spec.columnName.plainForm ++ " TO " ++
      quoteName spec.newName.plainForm
  | .dropIndex => "DROP INDEX " ++ quoteName spec.columnName.plainForm
  | .other _ => ""

theorem clause_add {spec : Spec} (add : spec.kind = .add) (fragment : String) :
    spec.clause fragment = spec.addHead ++ fragment := by
  rw [clause, add]

theorem mem_of_added {spec : Spec} {specs : List Spec} (member : spec ∈ added specs) :
    spec ∈ specs :=
  List.mem_of_mem_filter member

theorem mem_of_known {spec : Spec} {specs : List Spec} (member : spec ∈ known specs) :
    spec ∈ specs :=
  List.mem_of_mem_filter member

/-- Warnings are warnings. -/
theorem warnings_severity (table : String) (specs : List Spec) :
    ∀ notice ∈ warnings table specs, notice.severity = .warning := by
  intro notice member
  obtain ⟨spec, -, rfl⟩ := List.mem_map.mp member
  rfl

/-- Whatever is added is known. -/
theorem added_known (specs : List Spec) : added (known specs) = added specs := by
  rw [added, known, List.filter_filter]
  refine List.filter_congr fun spec _ => ?_
  by_cases add : spec.kind = .add
  · simp [add, SpecKind.isKnown]
  · simp [add]

end Spec

namespace Blueprint

/-! ## Statements of specs -/

/-- The statement of a spec of a known kind. -/
def statementOf (table : String) (spec : Spec) (fragment : String) : String :=
  alterText table (spec.clause fragment)

/-- A worded spec of a known kind has a clause if it has a fragment, and fails as this does. -/
theorem alterClause_known (blueprint : Blueprint) {spec : Spec} (worded : spec.IsWorded)
    (known : spec.kind.isKnown) :
    blueprint.alterClause spec =
      (blueprint.specSql spec).map fun fragment => some (spec.clause fragment) := by
  have mapped {result : Except Fault String} {change : String → Option String} :
      (do return change (← result)) = result.map change := by
    cases result <;> rfl
  cases spec with
  | column column =>
    rcases worded.kind with kind | kind
    · have add : (Spec.column column).kind = .add := kind
      simp only [alterClause, add, Spec.clause, Spec.addHead, mapped]
    · have modify : (Spec.column column).kind = .modify := kind
      simp only [alterClause, modify, Spec.clause, mapped]
  | plain spec =>
    have column := blueprint.shown_note worded.1
    have newName := blueprint.shown_note worded.2
    cases kind : spec.kind with
    | other name => simp [Spec.kind, kind, SpecKind.isKnown] at known
    | _ =>
      have same : (Spec.plain spec).kind = _ := kind
      simp only [alterClause, same, Spec.clause, Spec.columnName, Spec.newName, column, newName]
      rfl

theorem alterClause_unknown (blueprint : Blueprint) {spec : Spec}
    (unknown : spec.kind.isKnown = false) : blueprint.alterClause spec = .ok none := by
  unfold alterClause
  cases kind : spec.kind with
  | other name => rfl
  | _ => simp [kind, SpecKind.isKnown] at unknown

/-- The statements that alter a table are those of the specs of known kinds, in order, if all of
them can be rendered. The first that cannot is the one at fault. -/
theorem alterTexts_statements (blueprint : Blueprint) {specs : List Spec}
    (worded : ∀ spec ∈ specs, spec.IsWorded) :
    (blueprint.alterTexts specs).2 =
      ((Spec.known specs).mapM blueprint.specSql).map
        (List.zipWith (statementOf blueprint.table) (Spec.known specs)) := by
  induction specs with
  | nil => rfl
  | cons spec specs ih =>
    obtain ⟨here, others⟩ := List.forall_mem_cons.mp worded
    rw [alterTexts]
    cases known : spec.kind.isKnown with
    | true =>
      have kept : Spec.known (spec :: specs) = spec :: Spec.known specs :=
        List.filter_cons_of_pos known
      rw [blueprint.alterClause_known here known, kept, List.mapM_cons]
      cases blueprint.specSql spec with
      | error fault => rfl
      | ok fragment =>
        simp only [Except.map, ih others]
        cases (Spec.known specs).mapM blueprint.specSql <;> rfl
    | false =>
      have left : Spec.known (spec :: specs) = Spec.known specs :=
        List.filter_cons_of_neg (by simp [known])
      rw [blueprint.alterClause_unknown known, left]
      exact ih others

/-- If the statements can all be rendered, then there is a warning for each spec of an unknown
kind. -/
theorem alterTexts_warnings (blueprint : Blueprint) {specs : List Spec}
    (worded : ∀ spec ∈ specs, spec.IsWorded) {statements : List String}
    (rendered : (blueprint.alterTexts specs).2 = .ok statements) :
    (blueprint.alterTexts specs).1 = Spec.warnings blueprint.table specs := by
  induction specs generalizing statements with
  | nil => rfl
  | cons spec specs ih =>
    obtain ⟨here, others⟩ := List.forall_mem_cons.mp worded
    rw [alterTexts] at rendered ⊢
    cases known : spec.kind.isKnown with
    | true =>
      have left : Spec.warnings blueprint.table (spec :: specs) =
          Spec.warnings blueprint.table specs := by
        simp [Spec.warnings, known]
      rw [blueprint.alterClause_known here known] at rendered ⊢
      rw [left]
      cases drawn : blueprint.specSql spec with
      | error fault =>
        rw [drawn] at rendered
        cases rendered
      | ok fragment =>
        rw [drawn] at rendered
        obtain ⟨rest, later, -⟩ := map_eq_ok.mp rendered
        exact ih others later
    | false =>
      have kept : Spec.warnings blueprint.table (spec :: specs) =
          .unsupportedKind (Text.quoted spec.kind.name) blueprint.table ::
            Spec.warnings blueprint.table specs := by
        simp [Spec.warnings, known]
      rw [blueprint.alterClause_unknown known] at rendered ⊢
      rw [kept]
      exact congrArg _ (ih others rendered)

/-- Among the statements of specs, those of the specs that are added show just their fragments. -/
theorem added_statements {render : Spec → Except Fault String} (table : String)
    {specs : List Spec} {fragments : List String} (rendered : specs.mapM render = .ok fragments) :
    ∃ parts, (Spec.added specs).mapM render = .ok parts ∧
      (specs.zip (List.zipWith (statementOf table) specs fragments)).filter
          (fun pair => pair.1.kind = .add) =
        (Spec.added specs).zip
          (List.zipWith (fun spec part => alterText table (spec.addHead ++ part))
            (Spec.added specs) parts) := by
  have each := mapM_eq_ok.mp rendered
  clear rendered
  induction each with
  | nil => exact ⟨[], rfl, rfl⟩
  | @cons spec fragment specs fragments drawn rest ih =>
    obtain ⟨parts, others, same⟩ := ih
    by_cases add : spec.kind = .add
    · have kept : Spec.added (spec :: specs) = spec :: Spec.added specs :=
        List.filter_cons_of_pos (by simpa using add)
      refine ⟨fragment :: parts, ?_, ?_⟩
      · rw [kept, List.mapM_cons, drawn, others]
        rfl
      · simp only [List.zipWith_cons_cons, List.zip_cons_cons, kept, add, List.filter_cons, same,
          decide_true, if_true, statementOf, Spec.clause_add add]
    · have left : Spec.added (spec :: specs) = Spec.added specs :=
        List.filter_cons_of_neg (by simpa using add)
      refine ⟨parts, left ▸ others, ?_⟩
      simp only [List.zipWith_cons_cons, List.zip_cons_cons, left, add, List.filter_cons, same,
        decide_false, Bool.false_eq_true, if_false]

/-! ## Both compilers -/

/-- Worded specs can all be rendered exactly if all their defaults can be put into words, and these
and their numbers can be written out. -/
theorem rendered_iff (blueprint : Blueprint) {specs : List Spec}
    (worded : ∀ spec ∈ specs, spec.IsWorded) :
    (∃ fragments, specs.mapM blueprint.specSql = .ok fragments) ↔
      ∀ spec ∈ specs, spec.Reads blueprint := by
  rw [exists_mapM_iff]
  exact forall₂_congr fun spec member => blueprint.specSql_ok_iff (worded spec member)

/-- A default that mentions nothing is its own wording, so a spec with short numbers can be
rendered. -/
theorem reads_of_plain (blueprint : Blueprint) {spec : Spec} (written : spec.isWritten)
    (plain : ∀ value ∈ spec.default?, value.MentionsNothing) : spec.Reads blueprint := by
  intro column member
  cases spec with
  | plain spec => cases member
  | column definition =>
    obtain rfl := Option.some.inj member
    obtain ⟨type, default⟩ := Bool.and_eq_true_iff.mp written
    refine ⟨type, fun value given => ⟨value, blueprint.words_eq_self (plain value given), ?_⟩⟩
    cases found : definition.defaultClause with
    | value other =>
      rw [found] at given default
      exact Option.some.inj given ▸ default
    | _ =>
      rw [found] at given
      cases given

/-- The statement that creates a table is made of the fragments of what is added. -/
theorem createStatement_eq (blueprint : Blueprint) (options : String) :
    blueprint.createStatement options =
      if Spec.added blueprint.specs = [] then .ok none
      else ((Spec.added blueprint.specs).mapM blueprint.specSql).map fun fragments =>
        some (createText blueprint.table options fragments) := by
  have same : Spec.added blueprint.specs = blueprint.addSpecs := rfl
  rw [createStatement, same]
  split
  · rename_i nothing
    rw [if_pos nothing]
  · rename_i several
    rw [if_neg several]
    cases blueprint.addSpecs.mapM blueprint.specSql <;> rfl

/-- What the two compilers make of a blueprint, when the given specs are in it after its foreign
keys were settled with the given notices. Both render a spec as it stands then. There is no statement
that creates the table if nothing is added, and otherwise it is made of the fragments of what is
added. There is one statement that alters the table for each spec of a known kind, and one warning
for each other spec. What the latter statements add is, behind their heads, what the former shows.
Nothing but a default that has no words, and a number that is too long to be written, keeps either
compiler from an answer. -/
structure CompilesTo (reached : Blueprint) (table options : String) (specs : List Spec)
    (omissions : List Notice) : Prop where
  finalized : reached.finalize.result = .ok () ∧ reached.finalize.blueprint.specs = specs
  created : (reached.toCreate options).result =
    if Spec.added specs = [] then .ok none
    else ((Spec.added specs).mapM reached.finalize.blueprint.specSql).map fun fragments =>
      some (createText table options fragments)
  altered : reached.toAlter.result =
    ((Spec.known specs).mapM reached.finalize.blueprint.specSql).map
      (List.zipWith (statementOf table) (Spec.known specs))
  counted : ∀ statements, reached.toAlter.result = .ok statements →
    statements.length = (Spec.known specs).length
  noted : ∀ statements, reached.toAlter.result = .ok statements →
    reached.toAlter.notices = omissions ++ Spec.warnings table specs ∧
      reached.toAlter.notices.filter (·.severity = .warning) = Spec.warnings table specs
  agree : ∀ statements, reached.toAlter.result = .ok statements →
    ∃ fragments, (Spec.added specs).mapM reached.finalize.blueprint.specSql = .ok fragments ∧
      ((Spec.known specs).zip statements).filter (fun pair => pair.1.kind = .add) =
        (Spec.added specs).zip
          (List.zipWith (fun spec fragment => alterText table (spec.addHead ++ fragment))
            (Spec.added specs) fragments)
  creates : (∃ statement?, (reached.toCreate options).result = .ok statement?) ↔
    ∀ spec ∈ Spec.added specs, spec.Reads reached.finalize.blueprint
  alters : (∃ statements, reached.toAlter.result = .ok statements) ↔
    ∀ spec ∈ Spec.known specs, spec.Reads reached.finalize.blueprint
  returns : (∀ spec ∈ specs, spec.isWritten ∧ ∀ value ∈ spec.default?, value.MentionsNothing) →
    (∃ statement?, (reached.toCreate options).result = .ok statement?) ∧
      ∃ statements, reached.toAlter.result = .ok statements

section Finalized

variable {reached : Blueprint} (settled : reached.finalize.result = .ok ())
include settled

theorem toCreate_result (options : String) :
    (reached.toCreate options).result = reached.finalize.blueprint.createStatement options := by
  rw [toCreate, settled]
  rfl

theorem toAlter_result : reached.toAlter.result =
    (reached.finalize.blueprint.alterTexts reached.finalize.blueprint.specs).2 := by
  simp only [toAlter, settled]

theorem toAlter_notices : reached.toAlter.notices = reached.finalize.notices ++
    (reached.finalize.blueprint.alterTexts reached.finalize.blueprint.specs).1 := by
  simp only [toAlter, settled]

/-- A worded blueprint compiles in both ways once its foreign keys can be settled. -/
theorem compilesTo_of_finalized (worded : reached.IsWorded)
    (debug : ∀ notice ∈ reached.finalize.notices, notice.severity = .debug) (options : String) :
    reached.CompilesTo reached.finalize.blueprint.table options reached.finalize.blueprint.specs
      reached.finalize.notices := by
  let after := reached.finalize.blueprint
  have each : ∀ spec ∈ after.specs, spec.IsWorded := worded.finalize
  have created := (toCreate_result settled options).trans (after.createStatement_eq options)
  have altered := (toAlter_result settled).trans (after.alterTexts_statements each)
  have creates : (∃ statement?, (reached.toCreate options).result = .ok statement?) ↔
      ∀ spec ∈ Spec.added after.specs, spec.Reads after := by
    rw [← after.rendered_iff fun spec member => each spec (Spec.mem_of_added member), created]
    split
    · rename_i nothing
      simp [after, nothing]
    · simp [after]
  have alters : (∃ statements, reached.toAlter.result = .ok statements) ↔
      ∀ spec ∈ Spec.known after.specs, spec.Reads after := by
    rw [← after.rendered_iff fun spec member => each spec (Spec.mem_of_known member), altered]
    simp [after]
  constructor
  case finalized => exact ⟨settled, rfl⟩
  case created => exact created
  case altered => exact altered
  case creates => exact creates
  case alters => exact alters
  case counted =>
    intro statements found
    obtain ⟨fragments, rendered, rfl⟩ := map_eq_ok.mp (altered.symm.trans found)
    have long := (mapM_eq_ok.mp rendered).length_eq
    rw [List.length_zipWith, ← long, Nat.min_self]
  case noted =>
    intro statements found
    have warned := after.alterTexts_warnings each ((toAlter_result settled).symm.trans found)
    rw [toAlter_notices settled, warned]
    have quiet : reached.finalize.notices.filter (·.severity = .warning) = [] := by
      refine List.filter_eq_nil_iff.mpr fun notice member => ?_
      rw [debug notice member]
      decide
    have loud := Spec.warnings_severity after.table after.specs
    refine ⟨rfl, ?_⟩
    rw [List.filter_append, quiet, List.nil_append]
    exact List.filter_eq_self.mpr fun notice member => decide_eq_true (loud notice member)
  case agree =>
    intro statements found
    obtain ⟨fragments, rendered, rfl⟩ := map_eq_ok.mp (altered.symm.trans found)
    have shown := added_statements after.table rendered
    rwa [Spec.added_known] at shown
  case returns =>
    intro plain
    have reads : ∀ spec ∈ after.specs, spec.Reads after := fun spec member =>
      let ⟨written, mentions⟩ := plain spec member
      after.reads_of_plain written mentions
    exact ⟨creates.mpr fun spec member => reads spec (Spec.mem_of_added member),
      alters.mpr fun spec member => reads spec (Spec.mem_of_known member)⟩

end Finalized

/-- The two compilers agree. For every history in which nothing is finalized and every argument is
of its documented type: they compile the same specs, those declared and behind them the constraints
of the complete drafts in the order in which these were opened. -/
theorem compilers_agree (tablePrefix name options : String) {moves : List Move}
    (admitted : (empty tablePrefix name).admitsAll moves)
    (documented : ∀ move ∈ moves, move.IsWorded) :
    let reached := (empty tablePrefix name).movedAll moves
    let drafts := (empty tablePrefix name).draftedAll [] moves
    reached.CompilesTo (tablePrefix ++ name) options
      (reached.specs ++ Draft.constraints tablePrefix name drafts)
      (Draft.omissions tablePrefix name drafts) := by
  intro reached drafts
  have initially : (empty tablePrefix name).Tracks [] := ⟨.nil, rfl⟩
  have settles := (initially.movedAll admitted).settles
  obtain ⟨named, prefixed⟩ := (empty tablePrefix name).movedAll_table moves
  rw [named, prefixed] at settles
  have table : reached.finalize.blueprint.table = tablePrefix ++ name := by
    rw [finalize_table, Blueprint.table, named, prefixed]
    rfl
  have worded : reached.IsWorded := (empty_isWorded tablePrefix name).movedAll documented
  have compiles := compilesTo_of_finalized settles.result worded settles.debug options
  rw [table, settles.specs, settles.notices] at compiles
  exact compiles

/-- Moves that leave specs of every kind, between them constraints and a kind that is unknown, a
draft that is complete and one that is not. -/
def mixedMoves : List Move :=
  [.call (.table (.define .increments (.text "id") .null)),
    .call (.table (.foreignId (.text "author_id"))),
    .call (.table (.dropColumn [.text "old", .text "older"])),
    .call (.table (.modifyColumn (.text "state"))),
    .call (.table (.define .date (.text "state") .null)),
    .call (.key 0 (.on (.text "users"))),
    .call (.table (.append ⟨.other "MERGE", .text "state", "", .null, false⟩)),
    .call (.table (.addIndex .unique (.text "id") .null)),
    .call (.table (.renameColumn (.text "body") (.text "content"))),
    .call (.table (.foreign (.text "site_id"))),
    .call (.table (.define (.string (.int 80)) (.text "title") (.text "it's"))),
    .call (.table (.dropIndex (.text "by_title"))),
    .call (.column (.attached 8) (.comment (.text "ADD COLUMN"))),
    .call (.key 0 (.references (.text "id"))),
    .call (.table (.append ⟨.add, .null, "CHECK (`id` > 0)", .null, true⟩))]

/-- What these moves add. -/
def mixedFragments : List String :=
  ["`id` INT UNSIGNED NOT NULL AUTO_INCREMENT PRIMARY KEY",
    "`author_id` INT UNSIGNED NOT NULL",
    "UNIQUE KEY `app_posts_id_unique` (`id`)",
    "`title` VARCHAR(80) NOT NULL DEFAULT 'it''s' COMMENT 'ADD COLUMN'",
    "CHECK (`id` > 0)",
    "CONSTRAINT `app_posts_author_id_fk` FOREIGN KEY (`author_id`) REFERENCES `app_users` (`id`)"]

/-- How these moves alter their table. -/
def mixedClauses : List String :=
  ["ADD COLUMN `id` INT UNSIGNED NOT NULL AUTO_INCREMENT PRIMARY KEY",
    "ADD COLUMN `author_id` INT UNSIGNED NOT NULL",
    "DROP COLUMN `old`",
    "DROP COLUMN `older`",
    "MODIFY COLUMN `state` DATE NOT NULL",
    "ADD UNIQUE KEY `app_posts_id_unique` (`id`)",
    "RENAME COLUMN `body` TO `content`",
    "ADD COLUMN `title` VARCHAR(80) NOT NULL DEFAULT 'it''s' COMMENT 'ADD COLUMN'",
    "DROP INDEX `by_title`",
    "ADD CHECK (`id` > 0)",
    "ADD CONSTRAINT `app_posts_author_id_fk` FOREIGN KEY (`author_id`) REFERENCES `app_users` " ++
      "(`id`)"]

theorem mixedMoves_compiled :
    (empty "app_" "posts").admitsAll mixedMoves ∧ (∀ move ∈ mixedMoves, move.IsWorded) ∧
      let reached := (empty "app_" "posts").movedAll mixedMoves
      (reached.toCreate "ENGINE=InnoDB").result =
          .ok (some (createText "app_posts" "ENGINE=InnoDB" mixedFragments)) ∧
        reached.toAlter.result = .ok (mixedClauses.map (alterText "app_posts")) ∧
        reached.toAlter.notices =
          [.incompleteKey "app_posts" "site_id", .unsupportedKind "'MERGE'" "app_posts"] := by
  have admitted : (empty "app_" "posts").admitsAll mixedMoves := by decide +kernel
  have documented : ∀ move ∈ mixedMoves, move.IsWorded := by
    simp [mixedMoves, Move.IsWorded, TableCall.IsWorded, ColumnCall.IsWorded, Value.IsNote]
  have compiles := compilers_agree "app_" "posts" "ENGINE=InnoDB" admitted documented
  let reached := (empty "app_" "posts").movedAll mixedMoves
  have altered : reached.toAlter.result = .ok (mixedClauses.map (alterText "app_posts")) :=
    compiles.altered.trans (by decide +kernel)
  refine ⟨admitted, documented, ?_, altered, ?_⟩
  · exact compiles.created.trans (by decide +kernel)
  · exact (compiles.noted _ altered).1.trans (by decide +kernel)

/-- Whether neither compiler answers after documented calls that add one spec: both give a fault. -/
structure Uncompiled (moves : List Move) (fault : Fault) : Prop where
  admitted : (empty "" "posts").admitsAll moves
  documented : ∀ move ∈ moves, move.IsWorded
  added : (Spec.added ((empty "" "posts").movedAll moves).specs).length = 1
  created : (((empty "" "posts").movedAll moves).toCreate "").result = .error fault
  altered : ((empty "" "posts").movedAll moves).toAlter.result = .error fault

/-- A column that is its own default. -/
def ownDefault : List Move :=
  [.call (.table (.define (.integer (.bool true)) (.text "n") .null)),
    .call (.column (.attached 0) (.setDefault (.ofColumn (.attached 0))))]

/-- A column with a number for its default that is too long to be written. -/
def longDefault : List Move :=
  [.call (.table (.define (.integer (.bool true)) (.text "n") Value.longNumber))]

/-- A default without a text keeps both compilers from an answer, although there is something to
add. -/
theorem unwritableDefaults_uncompiled :
    Uncompiled ownDefault .endlessWording ∧ Uncompiled longDefault .badValue := by
  constructor
  · refine ⟨by decide +kernel, ?_, by decide +kernel, by decide +kernel, by decide +kernel⟩
    simp [ownDefault, Move.IsWorded, TableCall.IsWorded, ColumnCall.IsWorded, Value.IsNote]
  · refine ⟨by decide +kernel, ?_, by decide +kernel, by decide +kernel, by decide +kernel⟩
    simp [longDefault, Move.IsWorded, TableCall.IsWorded, Value.IsNote]

end Blueprint

end Tablewright
