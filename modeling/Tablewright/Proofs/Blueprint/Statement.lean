import Tablewright.Blueprint.Statement
import Tablewright.Proofs.Success

/-! # The table of a statement

Compiling turns foreign keys into constraints and leaves the name of the table alone, so whatever
statement a blueprint compiles to creates its own table.
-/

namespace Tablewright.Blueprint

theorem settleKeys_table (blueprint : Blueprint) (keys : List ForeignKey) :
    (blueprint.settleKeys keys).blueprint.table = blueprint.table := by
  induction keys generalizing blueprint with
  | nil => rfl
  | cons key keys ih =>
    simp only [settleKeys]
    split
    · split
      · rw [ih]
        rfl
      · rfl
    · split
      · exact ih blueprint
      · rfl

theorem finalize_table (blueprint : Blueprint) :
    blueprint.finalize.blueprint.table = blueprint.table := by
  rw [← settleKeys_table blueprint blueprint.pendingKeys]
  simp only [finalize]
  split <;> rfl

/-- Compiling the changes of a table leaves the blueprint as finalizing does. -/
theorem toAlter_blueprint (blueprint : Blueprint) :
    blueprint.toAlter.blueprint = blueprint.finalize.blueprint := by
  unfold toAlter
  dsimp only
  split <;> rfl

/-- A blueprint compiles to a statement that creates its table from fragments. -/
theorem toCreate_text {blueprint : Blueprint} {options statement : String}
    (compiled : (blueprint.toCreate options).result = .ok (some statement)) :
    ∃ fragments, statement = createText blueprint.table options fragments := by
  obtain ⟨_, _, compiled⟩ := except_bind_eq_ok.mp compiled
  simp only [createStatement] at compiled
  split at compiled
  · simp at compiled
  · obtain ⟨fragments, _, rendered⟩ := bind_eq_ok.mp compiled
    refine ⟨fragments, ?_⟩
    rw [← finalize_table]
    exact Option.some.inj (Except.ok.inj rendered.symm)

/-- There is no statement exactly if the finalized blueprint adds nothing. -/
theorem toCreate_eq_none_iff {blueprint : Blueprint} {options : String} :
    (blueprint.toCreate options).result = .ok none ↔
      blueprint.finalize.result = .ok () ∧ blueprint.finalize.blueprint.addSpecs = [] := by
  simp only [toCreate, except_bind_eq_ok, createStatement]
  constructor
  · rintro ⟨⟨⟩, finalized, created⟩
    refine ⟨finalized, ?_⟩
    split at created
    · assumption
    · simp at created
  · rintro ⟨finalized, nothing⟩
    exact ⟨(), finalized, by rw [nothing]⟩

/-- All statements that change a table name it. -/
theorem toAlter_texts {blueprint : Blueprint} {statements : List String}
    (compiled : blueprint.toAlter.result = .ok statements) :
    ∀ statement ∈ statements, ∃ clause, statement = alterText blueprint.table clause := by
  have texts (finalized : Blueprint) (specs : List Spec) {statements : List String}
      (rendered : (finalized.alterTexts specs).2 = .ok statements) :
      ∀ statement ∈ statements, ∃ clause, statement = alterText finalized.table clause := by
    induction specs generalizing statements with
    | nil =>
      obtain rfl : [] = statements := Except.ok.inj rendered
      simp
    | cons spec specs ih =>
      simp only [alterTexts] at rendered
      split at rendered
      · cases rendered
      · split at rendered
        · obtain ⟨others, later, rfl⟩ := map_eq_ok.mp rendered
          exact List.forall_mem_cons.mpr ⟨⟨_, rfl⟩, ih later⟩
        · exact ih rendered
  simp only [toAlter] at compiled
  split at compiled
  · cases compiled
  · rw [← finalize_table]
    exact texts _ _ compiled

/-- A blueprint without pending keys that only adds specs compiles to the statement of their
fragments, if they can be rendered. -/
theorem toCreate_of_rendered {blueprint : Blueprint} {fragments : List String}
    (settled : blueprint.pendingKeys = []) (added : blueprint.addSpecs = blueprint.specs)
    (several : blueprint.specs ≠ [])
    (rendered : blueprint.specs.mapM blueprint.closeRound.specSql = .ok fragments)
    (options : String) :
    blueprint.toCreate options =
      ⟨.ok (some (createText blueprint.table options fragments)), blueprint.closeRound, []⟩ := by
  have finalized : blueprint.finalize = ⟨.ok (), blueprint.closeRound, []⟩ := by
    rw [finalize, settled]
    rfl
  have created : blueprint.closeRound.createStatement options =
      .ok (some (createText blueprint.table options fragments)) := by
    have kept : blueprint.closeRound.addSpecs = blueprint.specs := added
    rw [createStatement, kept]
    split
    · exact absurd ‹_› several
    · rw [rendered]
      rfl
  simp only [toCreate, finalized, Except.bind, created]

end Tablewright.Blueprint
