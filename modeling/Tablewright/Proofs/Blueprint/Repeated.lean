import Tablewright.Proofs.Blueprint.Constrained
import Tablewright.Proofs.Blueprint.Statement

/-! # Compiling again

Compiling finalizes the foreign keys before it looks at the specs. Once that has succeeded, no key
is left, and a further round changes neither the specs nor what anything reads like. If it fails, it
fails again as long as it left nothing behind. The one thing in the way is a key that has no words
behind one that has become a constraint: the constraint is then added with every attempt.
-/

namespace Tablewright

/-- Whether a call on the blueprint compiles it, as far as its foreign keys or altogether. -/
def TableCall.Compiles : TableCall → Prop
  | .finalize | .toCreate _ | .toAlter => True
  | _ => False

namespace Blueprint

variable {blueprint other : Blueprint}

/-! ## Looking alike -/

namespace LooksAlike

theorem refl (blueprint : Blueprint) : blueprint.LooksAlike blueprint :=
  ⟨⟨blueprint.finalizations, rfl⟩, fun _ => rfl⟩

theorem trans {third : Blueprint} (first : blueprint.LooksAlike other)
    (second : other.LooksAlike third) : blueprint.LooksAlike third := by
  obtain ⟨⟨_, rfl⟩, listed⟩ := first
  obtain ⟨⟨finalizations, rfl⟩, again⟩ := second
  exact ⟨⟨finalizations, rfl⟩, fun something => (again something).trans (listed something)⟩

section Statements

variable (alike : blueprint.LooksAlike other)
include alike

theorem specs : other.specs = blueprint.specs := by
  obtain ⟨⟨_, rfl⟩, -⟩ := alike
  rfl

theorem table : other.table = blueprint.table := by
  obtain ⟨⟨_, rfl⟩, -⟩ := alike
  rfl

theorem createStatement (options : String) :
    other.createStatement options = blueprint.createStatement options := by
  have each : other.specSql = blueprint.specSql := funext alike.specSql
  simp only [Blueprint.createStatement, addSpecs, alike.specs, alike.table, each]

theorem alterClause (spec : Spec) : other.alterClause spec = blueprint.alterClause spec := by
  simp only [Blueprint.alterClause, alike.specSql, alike.shown]

theorem alterTexts (specs : List Spec) : other.alterTexts specs = blueprint.alterTexts specs := by
  induction specs with
  | nil => rfl
  | cons spec specs ih =>
    simp only [Blueprint.alterTexts, alike.alterClause, alike.table, ih]

end Statements

end LooksAlike

/-- The end of a round that is still open is the end of all keys, so closing it changes no list. -/
theorem looksAlike_closeRound (blueprint : Blueprint) :
    blueprint.LooksAlike blueprint.closeRound := by
  refine ⟨⟨_, rfl⟩, fun something => ?_⟩
  cases something with
  | keys round =>
    have ends (index : Nat) :
        (0 :: (blueprint.finalizations ++ [blueprint.foreignKeys.length]))[index]?.getD
            blueprint.foreignKeys.length =
          (0 :: blueprint.finalizations)[index]?.getD blueprint.foreignKeys.length := by
      rw [← List.cons_append, List.getElem?_append]
      split
      · rfl
      · rename_i late
        rw [List.getElem?_eq_none (Nat.le_of_not_lt late), List.getElem?_singleton]
        split <;> rfl
    simp only [listed?, keyValues, closeRound, ends]
  | _ => rfl

/-! ## Finalizing -/

/-- A finalization that settles the pending keys closes their round. Any other leaves what it came
to. -/
theorem finalize_cases (blueprint : Blueprint) :
    let settled := blueprint.settleKeys blueprint.pendingKeys
    (settled.result = .ok () ∧
        blueprint.finalize = { settled with blueprint := settled.blueprint.closeRound }) ∨
      ∃ fault, settled.result = .error fault ∧ blueprint.finalize = settled := by
  intro settled
  cases outcome : settled.result with
  | ok =>
    refine .inl ⟨rfl, ?_⟩
    simp only [finalize, settled] at outcome ⊢
    rw [outcome]
  | error fault =>
    refine .inr ⟨fault, rfl, ?_⟩
    simp only [finalize, settled] at outcome ⊢
    rw [outcome]

theorem finalize_result (blueprint : Blueprint) :
    blueprint.finalize.result = (blueprint.settleKeys blueprint.pendingKeys).result := by
  obtain ⟨-, same⟩ | ⟨_, -, same⟩ := blueprint.finalize_cases <;> rw [same]

theorem finalize_specs (blueprint : Blueprint) :
    blueprint.finalize.blueprint.specs =
      (blueprint.settleKeys blueprint.pendingKeys).blueprint.specs := by
  obtain ⟨-, same⟩ | ⟨_, -, same⟩ := blueprint.finalize_cases <;> rw [same]
  rfl

/-- A finalization that fails changes nothing but the specs. -/
theorem finalize_of_failed {fault : Fault} (failed : blueprint.finalize.result = .error fault) :
    blueprint.finalize = blueprint.settleKeys blueprint.pendingKeys := by
  obtain ⟨settled, -⟩ | ⟨_, -, same⟩ := blueprint.finalize_cases
  · rw [finalize_result, settled] at failed
    cases failed
  · exact same

/-- A finalization that succeeds leaves no key pending. -/
theorem pendingKeys_finalize (settled : blueprint.finalize.result = .ok ()) :
    blueprint.finalize.blueprint.pendingKeys = [] := by
  obtain ⟨-, same⟩ | ⟨_, failed, -⟩ := blueprint.finalize_cases
  · rw [same]
    exact pendingKeys_closeRound _
  · rw [finalize_result, failed] at settled
    cases settled

/-! ## Compiling again -/

/-- Compiling leaves what finalizing leaves. -/
theorem moved_compiles {call : TableCall} (compiles : call.Compiles) :
    blueprint.moved (.call (.table call)) = blueprint.finalize.blueprint := by
  cases call with
  | finalize | toCreate options => rfl
  | toAlter => exact blueprint.toAlter_blueprint
  | _ => cases compiles

/-- What has become of a blueprint that was finalized successfully, any number of times. -/
structure FinalizedFrom (before after : Blueprint) : Prop where
  settled : before.finalize.result = .ok ()
  alike : before.finalize.blueprint.LooksAlike after
  pending : after.pendingKeys = []

theorem finalizedFrom_finalize (settled : blueprint.finalize.result = .ok ()) :
    FinalizedFrom blueprint blueprint.finalize.blueprint :=
  ⟨settled, .refl _, pendingKeys_finalize settled⟩

namespace FinalizedFrom

variable {after : Blueprint}

/-- Another finalization finds nothing to do. -/
theorem again (finalized : FinalizedFrom blueprint after) :
    FinalizedFrom blueprint after.finalize.blueprint := by
  rw [finalize_of_none finalized.pending]
  exact ⟨finalized.settled, finalized.alike.trans (looksAlike_closeRound after),
    pendingKeys_closeRound after⟩

/-- Compiling gives what it gave at first. -/
theorem result (finalized : FinalizedFrom blueprint after) {call : TableCall}
    (compiles : call.Compiles) :
    (after.callTable call).result = (blueprint.callTable call).result := by
  have settled := finalized.settled
  have still : after.finalize.result = .ok () := by
    rw [finalize_of_none finalized.pending]
  have alike := finalized.again.alike
  cases call with
  | finalize => simp only [callTable, settled, still]
  | toCreate options =>
    simp only [callTable, toCreate, settled, still, alike.createStatement]
  | toAlter =>
    simp only [callTable, toAlter, settled, still, alike.specs, alike.alterTexts]
  | _ => cases compiles

end FinalizedFrom

/-- The moves that make calls on the blueprint. -/
def tableMoves (calls : List TableCall) : List Move :=
  calls.map fun call => .call (.table call)

/-- Whether compiling can be repeated: after any calls that compile, each such call gives, also if
it fails, what it gives as the first one, and the specs are those after one finalization. -/
structure IsRepeatable (blueprint : Blueprint) : Prop where
  results : ∀ calls : List TableCall, (∀ call ∈ calls, call.Compiles) →
    ∀ call : TableCall, call.Compiles →
      ((blueprint.movedAll (tableMoves calls)).callTable call).result =
        (blueprint.callTable call).result
  specs : ∀ calls : List TableCall, calls ≠ [] → (∀ call ∈ calls, call.Compiles) →
    (blueprint.movedAll (tableMoves calls)).specs = blueprint.finalize.blueprint.specs

/-- What a finalization brings about stays through calls that compile. -/
theorem movedAll_compiles {reached : Blueprint → Prop}
    (step : ∀ blueprint, reached blueprint → reached blueprint.finalize.blueprint)
    {calls : List TableCall} (compile : ∀ call ∈ calls, call.Compiles)
    (start : reached blueprint) : reached (blueprint.movedAll (tableMoves calls)) := by
  induction calls generalizing blueprint with
  | nil => exact start
  | cons call calls ih =>
    obtain ⟨first, rest⟩ := List.forall_mem_cons.mp compile
    rw [tableMoves, List.map_cons, movedAll_cons, moved_compiles first]
    exact ih rest (step _ start)

theorem isRepeatable_of_settled (settled : blueprint.finalize.result = .ok ()) :
    blueprint.IsRepeatable := by
  have reached {calls : List TableCall} (several : calls ≠ [])
      (compile : ∀ call ∈ calls, call.Compiles) :
      FinalizedFrom blueprint (blueprint.movedAll (tableMoves calls)) := by
    obtain ⟨call, calls, rfl⟩ := List.exists_cons_of_ne_nil several
    obtain ⟨first, rest⟩ := List.forall_mem_cons.mp compile
    rw [tableMoves, List.map_cons, movedAll_cons, moved_compiles first]
    exact movedAll_compiles (fun _ => FinalizedFrom.again) rest (finalizedFrom_finalize settled)
  constructor
  case results =>
    intro calls compile call compiles
    by_cases several : calls = []
    · rw [several]
      rfl
    · exact (reached several compile).result compiles
  case specs =>
    intro calls several compile
    exact (reached several compile).alike.specs

theorem isRepeatable_of_unchanged {fault : Fault}
    (failed : blueprint.finalize.result = .error fault)
    (unchanged : blueprint.finalize.blueprint.specs = blueprint.specs) :
    blueprint.IsRepeatable := by
  have same : blueprint.finalize.blueprint = blueprint := by
    obtain ⟨texts, settled⟩ := blueprint.settleKeys_specs blueprint.pendingKeys
    rw [finalize_of_failed failed, settled] at unchanged ⊢
    exact congrArg (fun specs => { blueprint with specs }) unchanged
  let untouched (reached : Blueprint) : Prop := reached = blueprint
  have still {calls : List TableCall} (compile : ∀ call ∈ calls, call.Compiles) :
      untouched (blueprint.movedAll (tableMoves calls)) := by
    refine movedAll_compiles (fun reached stays => ?_) compile rfl
    rw [show reached = blueprint from stays]
    exact same
  constructor
  case results =>
    intro calls compile call _
    rw [still compile]
  case specs =>
    intro calls _ compile
    rw [still compile, same]

/-! ## Keys that have no words -/

/-- Settling keys leaves at least the specs that there were. -/
theorem settleKeys_length (blueprint : Blueprint) (keys : List ForeignKey) :
    blueprint.specs.length ≤ (blueprint.settleKeys keys).blueprint.specs.length := by
  obtain ⟨texts, settled⟩ := blueprint.settleKeys_specs keys
  simp [settled]

/-- Keys of which some become constraints do so again when there are constraints already. -/
theorem settleKeys_adds {keys : List ForeignKey}
    (adds : blueprint.specs.length < (blueprint.settleKeys keys).blueprint.specs.length)
    (texts : List String) :
    (blueprint.withConstraints texts).specs.length <
      ((blueprint.withConstraints texts).settleKeys keys).blueprint.specs.length := by
  induction keys with
  | nil => exact absurd adds (Nat.lt_irrefl _)
  | cons key keys ih =>
    have becomes (complete : (blueprint.withConstraints texts).isComplete key = true)
        (written : ∃ text, (blueprint.withConstraints texts).keySql key = .ok text) :
        (blueprint.withConstraints texts).specs.length <
          ((blueprint.withConstraints texts).settleKeys (key :: keys)).blueprint.specs.length := by
      obtain ⟨text, written⟩ := written
      rw [settleKeys, if_pos complete, written]
      have more := settleKeys_length ((blueprint.withConstraints texts).appendConstraint text) keys
      rw [appendConstraint, List.length_append, List.length_singleton] at more
      exact more
    rw [settleKeys] at adds
    by_cases complete : blueprint.isComplete key
    · rw [if_pos complete] at adds
      have still : (blueprint.withConstraints texts).isComplete key = true :=
        (isComplete_withConstraints texts blueprint key).elim (·.trans complete) (·.1)
      cases written : blueprint.keySql key with
      | error fault =>
        rw [written] at adds
        exact absurd adds (Nat.lt_irrefl _)
      | ok text => exact becomes still (keySql_succeeds texts key ⟨text, written⟩)
    · rw [if_neg complete] at adds
      cases named : blueprint.keyColumnText key with
      | error fault =>
        rw [named] at adds
        exact absurd adds (Nat.lt_irrefl _)
      | ok column =>
        rw [named] at adds
        have column' := keyColumnText_succeeds texts key ⟨column, named⟩
        obtain same | ⟨now, referenced⟩ := isComplete_withConstraints texts blueprint key
        · obtain ⟨column', named'⟩ := column'
          rw [settleKeys, if_neg (same ▸ complete), named']
          exact ih adds
        · exact becomes now (exists_keySql_iff.mpr ⟨column', shown_succeeds texts _ referenced⟩)

/-- If compiling can be repeated, a finalization that fails adds nothing. -/
theorem IsRepeatable.unchanged (repeatable : blueprint.IsRepeatable) {fault : Fault}
    (failed : blueprint.finalize.result = .error fault) :
    blueprint.finalize.blueprint.specs = blueprint.specs := by
  obtain ⟨texts, settled⟩ := blueprint.settleKeys_specs blueprint.pendingKeys
  have once : blueprint.finalize.blueprint = blueprint.withConstraints texts :=
    (congrArg Compiled.blueprint (finalize_of_failed failed)).trans settled
  have twice := repeatable.specs [.finalize, .finalize] (by simp) (by simp [TableCall.Compiles])
  change blueprint.finalize.blueprint.finalize.blueprint.specs = _ at twice
  by_contra changed
  have adds : blueprint.specs.length <
      (blueprint.settleKeys blueprint.pendingKeys).blueprint.specs.length := by
    refine Nat.lt_of_le_of_ne (settleKeys_length _ _) fun same => changed ?_
    have none : texts = [] := by simpa [settled] using same
    rw [once, withConstraints, none]
    exact List.append_nil _
  have again := settleKeys_adds adds texts
  rw [once, finalize_specs] at twice
  exact absurd (congrArg List.length twice) (Nat.ne_of_gt again)

/-- Whether a key is on a column with a text for its name, and refers to a text if to anything. -/
def IsTold (blueprint : Blueprint) (key : ForeignKey) : Prop :=
  (∃ column, blueprint.keyColumnName key = .ok (.text column)) ∧
    ∃ referenced, key.referencedColumn = .ofText? referenced

/-- Keys that are told in texts are settled. -/
theorem settleKeys_told {keys : List ForeignKey} (told : ∀ key ∈ keys, blueprint.IsTold key) :
    (blueprint.settleKeys keys).result = .ok () := by
  induction keys generalizing blueprint with
  | nil => rfl
  | cons key keys ih =>
    obtain ⟨⟨⟨column, named⟩, referenced, refers⟩, others⟩ := List.forall_mem_cons.mp told
    have written : blueprint.keyColumnText key = .ok column := by
      rw [keyColumnText, named]
      exact blueprint.shown_text column
    rw [settleKeys]
    split
    · have note : key.referencedColumn.IsNote := by
        rw [refers]
        cases referenced <;> trivial
      obtain ⟨text, here⟩ :=
        exists_keySql_iff.mpr ⟨⟨column, written⟩, _, blueprint.shown_note note⟩
      rw [here]
      refine ih fun other member => ?_
      obtain ⟨⟨column, named⟩, refers⟩ := others other member
      exact ⟨⟨column, (keyColumnName_withConstraints [text] other).trans named⟩, refers⟩
    · rw [written]
      exact ih others

theorem finalize_told (told : ∀ key ∈ blueprint.pendingKeys, blueprint.IsTold key) :
    blueprint.finalize.result = .ok () :=
  blueprint.finalize_result.trans (settleKeys_told told)

/-- Drafts are told in texts. -/
theorem Tracks.told {drafts : List Draft} (tracks : blueprint.Tracks drafts) :
    ∀ key ∈ blueprint.pendingKeys, blueprint.IsTold key := by
  intro key pending
  obtain ⟨index, placed, found⟩ := List.mem_iff_getElem.mp (List.mem_of_mem_drop pending)
  have isKey := tracks.keys.get placed (tracks.keys.length_eq ▸ placed)
  rw [List.get_eq_getElem, found] at isKey
  obtain ⟨ref, same, names⟩ := isKey.column
  have named : blueprint.keyColumnName key = .ok (blueprint.columnName ref) := by
    rw [keyColumnName, same]
    rfl
  exact ⟨⟨_, named.trans (congrArg Except.ok names.columnName)⟩, _, isKey.referenced⟩

/-- Compiling can be repeated exactly if a finalization that fails adds nothing. It can be whenever
every pending key is told in texts. -/
theorem isRepeatable_iff (blueprint : Blueprint) :
    (blueprint.IsRepeatable ↔
      blueprint.finalize.result = .ok () ∨
        blueprint.finalize.blueprint.specs = blueprint.specs) ∧
      ((∀ key ∈ blueprint.pendingKeys, blueprint.IsTold key) → blueprint.IsRepeatable) := by
  refine ⟨⟨fun repeatable => ?_, ?_⟩, fun told => isRepeatable_of_settled (finalize_told told)⟩
  · cases outcome : blueprint.finalize.result with
    | ok => exact .inl rfl
    | error fault => exact .inr (repeatable.unchanged outcome)
  · rintro (settled | unchanged)
    · exact isRepeatable_of_settled settled
    · cases outcome : blueprint.finalize.result with
      | ok => exact isRepeatable_of_settled outcome
      | error fault => exact isRepeatable_of_unchanged outcome unchanged

/-- The four drafts whose calls cross can be compiled in both ways, and finalized in between. -/
theorem crossedDrafts_repeatable :
    let reached := (empty "app_" "posts").movedAll crossedDrafts
    let calls : List TableCall := [.toCreate "ENGINE=InnoDB", .finalize, .toAlter]
    (∀ key ∈ reached.pendingKeys, reached.IsTold key) ∧ reached.IsRepeatable ∧
      ((reached.movedAll (tableMoves calls)).callTable .toAlter).result =
        (reached.callTable .toAlter).result ∧
      (reached.movedAll (tableMoves calls)).specs.length = reached.specs.length + 2 := by
  intro reached calls
  have admitted : (empty "app_" "posts").admitsAll crossedDrafts := by decide +kernel
  have initially : (empty "app_" "posts").Tracks [] := ⟨.nil, rfl⟩
  have told := (initially.movedAll admitted).told
  have compile : ∀ call ∈ calls, call.Compiles := by simp [calls, TableCall.Compiles]
  have repeatable := (isRepeatable_iff reached).2 told
  refine ⟨told, repeatable, repeatable.results calls compile .toAlter trivial, ?_⟩
  rw [repeatable.specs calls (by simp [calls]) compile]
  decide +kernel

/-- A draft that is complete, and behind it one that refers to a column whose default is itself. -/
def looseDrafts : List Move :=
  [.call (.table (.foreign (.text "a"))),
    .call (.key 0 (.references (.text "id"))),
    .call (.key 0 (.on (.text "users"))),
    .call (.table (.define (.string (.int 255)) (.text "c") .null)),
    .call (.table (.foreign (.text "b"))),
    .call (.key 1 (.references (.ofColumn (.attached 0)))),
    .call (.key 1 (.on (.text "users"))),
    .call (.column (.attached 0) (.setDefault (.ofColumn (.attached 0))))]

/-- Every attempt to finalize these drafts fails, and adds the constraint of the first once more. -/
theorem looseDrafts_unrepeatable :
    let reached := (empty "" "posts").movedAll looseDrafts
    let constraint : Spec := .constraint
      "CONSTRAINT `posts_a_fk` FOREIGN KEY (`a`) REFERENCES `users` (`id`)"
    reached.finalize.result = .error .endlessWording ∧
      reached.finalize.blueprint.specs = reached.specs ++ [constraint] ∧
      (reached.movedAll (tableMoves [.finalize, .finalize])).specs =
        reached.specs ++ [constraint, constraint] ∧
      ¬ reached.IsRepeatable := by
  intro reached constraint
  have once : reached.finalize.blueprint.specs = reached.specs ++ [constraint] := by
    decide +kernel
  have twice : (reached.movedAll (tableMoves [.finalize, .finalize])).specs =
      reached.specs ++ [constraint, constraint] := by
    decide +kernel
  refine ⟨by decide +kernel, once, twice, fun repeatable => ?_⟩
  have same := repeatable.specs [.finalize, .finalize] (by simp) (by simp [TableCall.Compiles])
  rw [once, twice] at same
  simp at same

end Blueprint

end Tablewright
