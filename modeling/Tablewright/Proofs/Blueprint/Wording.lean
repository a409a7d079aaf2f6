import Mathlib.Data.Finset.Card
import Tablewright.Blueprint.Wording
import Tablewright.Proofs.Success

/-! # How deep wordings go

A value is put into words with a bound on how deeply mentions are nested. A reading with a smaller
bound either gives the same words or is cut short. The bound is large enough: a reading that it cuts
short is cut short by every bound. For what is read is known from the lists around it and from what
is mentioned, a list is gone into once, and what comes up again in the same lists comes up forever.

So the words depend on nothing but what can be looked up in the blueprint, and not on how often it
has been finalized.
-/

namespace Tablewright

/-- Whether a result is the whole one, or was cut short before. -/
def ShortOf {α : Type} (short whole : Except Fault α) : Prop :=
  short = .error .endlessWording ∨ short = whole

namespace ShortOf

variable {α β : Type} {short whole : Except Fault α}

theorem refl (result : Except Fault α) : ShortOf result result :=
  .inr rfl

theorem cut : ShortOf (.error .endlessWording) whole :=
  .inl rfl

theorem antisymm (there : ShortOf short whole) (back : ShortOf whole short) : short = whole := by
  rcases there with cut | same
  · rcases back with cut' | same
    · rw [cut, cut']
    · exact same.symm
  · exact same

/-- What is short of a result that was cut short was cut short itself. -/
theorem of_cut (less : ShortOf short whole) (cut : whole = .error .endlessWording) :
    short = .error .endlessWording := by
  rcases less with here | rfl
  · exact here
  · exact cut

theorem bind {next further : α → Except Fault β} (first : ShortOf short whole)
    (each : ∀ value, ShortOf (next value) (further value)) :
    ShortOf (short >>= next) (whole >>= further) := by
  rcases first with rfl | rfl
  · exact .inl rfl
  · cases short with
    | ok value => exact each value
    | error fault => exact .inr rfl

theorem map (less : ShortOf short whole) (change : α → β) :
    ShortOf (short.map change) (whole.map change) := by
  rcases less with rfl | rfl
  · exact .inl rfl
  · exact .inr rfl

end ShortOf

mutual

theorem Value.shortOf_fill {words further : Mention → Except Fault Value}
    (each : ∀ something, ShortOf (words something) (further something)) :
    (value : Value) → ShortOf (value.fill words) (value.fill further)
  | .mention something => each something
  | .list values => (shortOf_fillAll each values).map Value.list
  | .null | .bool _ | .int _ | .float _ | .decimal _ | .text _ | .bytes _ | .date _ | .dateTime _
  | .map _ | .action _ => .refl _

theorem Value.shortOf_fillAll {words further : Mention → Except Fault Value}
    (each : ∀ something, ShortOf (words something) (further something)) :
    (values : List Value) → ShortOf (Value.fillAll words values) (Value.fillAll further values)
  | [] => .refl _
  | value :: values => (shortOf_fill each value).bind fun _ =>
      (shortOf_fillAll each values).bind fun _ => .refl _

end

namespace Blueprint

variable {blueprint : Blueprint}

/-! ## Wording with two readings -/

section Reading

variable {words further : Value → Except Fault Value}
variable (each : ∀ value, ShortOf (words value) (further value))
include each

theorem shortOf_inWords (clause : DefaultClause) :
    ShortOf (clause.inWords words) (clause.inWords further) := by
  cases clause with
  | none => exact .refl _
  | value value => exact (each value).map _
  | expression expression => exact (each expression).map _

theorem shortOf_specSqlBy (spec : Spec) :
    ShortOf (blueprint.specSqlBy words spec) (blueprint.specSqlBy further spec) := by
  cases spec with
  | plain spec => exact .refl _
  | column column =>
    exact ((each column.name).bind fun _ => (shortOf_inWords each column.defaultClause).bind
      fun _ => .refl _).bind fun _ => .refl _

theorem shortOf_quotedSpecBy (spec : Spec) :
    ShortOf (blueprint.quotedSpecBy words spec) (blueprint.quotedSpecBy further spec) := by
  unfold quotedSpecBy
  split
  · exact .refl _
  · refine (shortOf_specSqlBy each spec).bind fun fragment => ?_
    split
    · exact ((each spec.columnName).bind fun _ => .refl _).bind fun _ => .refl _
    · exact .refl _

theorem shortOf_quotedKeyBy (key : ForeignKey) :
    ShortOf (blueprint.quotedKeyBy words key) (blueprint.quotedKeyBy further key) :=
  (ShortOf.refl (blueprint.keyColumnName key)).bind fun name =>
    ((each name).bind fun _ => .refl _).bind fun _ =>
      ((each key.referencedColumn).bind fun _ => .refl _).bind fun _ => .refl _

theorem shortOf_mentionBy (something : Mention) :
    ShortOf (blueprint.mentionBy words something) (blueprint.mentionBy further something) := by
  cases something with
  | target target =>
    refine ShortOf.bind ?_ fun _ => .refl _
    unfold quotedTargetBy
    split
    · exact .refl _
    · split
      · exact shortOf_quotedSpecBy each _
      · exact .refl _
    · split
      · exact shortOf_quotedSpecBy each _
      · exact .refl _
    · split
      · exact shortOf_quotedKeyBy each _
      · exact .refl _
  | _ => exact .refl _

end Reading

/-! ## Levels of a reading -/

/-- A value is read mention by mention. -/
theorem wordsWithin_eq (depth : Nat) (around : List Mention) (value : Value) :
    blueprint.wordsWithin depth around value =
      value.fill fun something => blueprint.wordsWithin depth around (.mention something) := by
  cases depth <;> rfl

theorem wordsWithin_listed {something : Mention} {values : List Value}
    (listed : blueprint.listed? something = some values) (depth : Nat) (around : List Mention) :
    blueprint.wordsWithin (depth + 1) around (.mention something) =
      if around.contains something then .ok Value.abbreviatedList
      else blueprint.wordsWithin depth (something :: around) (.list values) := by
  simp only [wordsWithin, Value.fill, listed]

theorem wordsWithin_unlisted {something : Mention} (unlisted : blueprint.listed? something = none)
    (depth : Nat) (around : List Mention) :
    blueprint.wordsWithin (depth + 1) around (.mention something) =
      blueprint.mentionBy (blueprint.wordsWithin depth around) something := by
  simp only [wordsWithin, Value.fill, unlisted]

/-- A reading with a smaller bound gives the same words or is cut short. -/
theorem wordsWithin_mono {depth further : Nat} (deeper : depth ≤ further) (around : List Mention)
    (value : Value) :
    ShortOf (blueprint.wordsWithin depth around value)
      (blueprint.wordsWithin further around value) := by
  induction depth generalizing further around value with
  | zero =>
    rw [wordsWithin_eq, wordsWithin_eq further]
    exact Value.shortOf_fill (fun _ => .cut) value
  | succ depth ih =>
    obtain ⟨further, rfl⟩ := Nat.exists_eq_add_of_le' (Nat.lt_of_lt_of_le depth.succ_pos deeper)
    have within := Nat.le_of_succ_le_succ deeper
    rw [wordsWithin_eq, wordsWithin_eq (further + 1)]
    refine Value.shortOf_fill (fun something => ?_) value
    cases listed : blueprint.listed? something with
    | none =>
      rw [wordsWithin_unlisted listed, wordsWithin_unlisted listed]
      exact shortOf_mentionBy (ih within around) something
    | some values =>
      rw [wordsWithin_listed listed, wordsWithin_listed listed]
      split
      · exact .refl _
      · exact ih within _ _

/-- If a bound is enough to read a mention, then a least one is. -/
theorem exists_leastBound {something : Mention} {around : List Mention} {bound : Nat}
    (read : blueprint.wordsWithin (bound + 1) around (.mention something) ≠
      .error .endlessWording) :
    ∃ least ≤ bound,
      blueprint.wordsWithin least around (.mention something) = .error .endlessWording ∧
        blueprint.wordsWithin (least + 1) around (.mention something) =
          blueprint.wordsWithin (bound + 1) around (.mention something) := by
  induction bound with
  | zero => exact ⟨0, Nat.le_refl 0, rfl, rfl⟩
  | succ bound ih =>
    by_cases cut : blueprint.wordsWithin (bound + 1) around (.mention something) =
        .error .endlessWording
    · exact ⟨bound + 1, Nat.le_refl _, cut, rfl⟩
    · obtain ⟨least, within, unread, same⟩ := ih cut
      have whole := (wordsWithin_mono (Nat.le_succ (bound + 1)) around _).resolve_left cut
      exact ⟨least, Nat.le_succ_of_le within, unread, same.trans whole⟩

/-! ## The bound -/

/-- The lists that there are to mention, as far as they are not empty. -/
def mentionedLists (blueprint : Blueprint) : List Mention :=
  .specs :: ((List.range (blueprint.finalizations.length + 1)).map .keys ++
    (List.range blueprint.lists.length).map .list)

/-- Everything else that there is to mention and that may mention something in turn. -/
def mentionedTargets (blueprint : Blueprint) : List Target :=
  (List.range blueprint.specs.length).map (fun index => .column (.attached index)) ++
    (List.range blueprint.specs.length).map .spec ++
    (List.range blueprint.detached.length).map (fun index => .column (.detached index)) ++
    (List.range blueprint.foreignKeys.length).map .key

theorem length_mentionedLists (blueprint : Blueprint) :
    blueprint.mentionedLists.length = blueprint.listCount := by
  simp only [mentionedLists, listCount, List.length_cons, List.length_append, List.length_map,
    List.length_range]
  omega

theorem length_mentionedTargets (blueprint : Blueprint) :
    blueprint.mentionedTargets.length = blueprint.targetCount := by
  simp only [mentionedTargets, targetCount, List.length_append, List.length_map,
    List.length_range]
  omega

theorem mem_mentionedLists {something : Mention} {values : List Value}
    (listed : blueprint.listed? something = some values) (several : values ≠ []) :
    something ∈ blueprint.mentionedLists := by
  cases something with
  | specs => exact List.mem_cons_self
  | keys round =>
    obtain rfl := Option.some.inj listed
    have opened : round < blueprint.finalizations.length + 1 := by
      by_contra late
      refine several ?_
      have before : (0 :: blueprint.finalizations)[round]? = none := by
        rw [List.getElem?_eq_none_iff, List.length_cons]
        omega
      have after : (0 :: blueprint.finalizations)[round + 1]? = none := by
        rw [List.getElem?_eq_none_iff, List.length_cons]
        omega
      simp [keyValues, before, after]
    refine List.mem_cons_of_mem _ (List.mem_append_left _ (List.mem_map.mpr ⟨round, ?_, rfl⟩))
    exact List.mem_range.mpr opened
  | list index =>
    obtain rfl := Option.some.inj listed
    have kept : index < blueprint.lists.length := by
      by_contra unknown
      simp [List.getElem?_eq_none (Nat.le_of_not_lt unknown)] at several
    simp [mentionedLists, kept]
  | target | kind | type | wording => cases listed

/-- Nothing else mentions anything in turn. -/
theorem mentionBy_leaf {target : Target} (leaf : target ∉ blueprint.mentionedTargets)
    (words further : Value → Except Fault Value) :
    blueprint.mentionBy words (.target target) = blueprint.mentionBy further (.target target) := by
  have missing {α : Type} {items : List α} {index : Nat} (outside : ¬ index < items.length) :
      items[index]? = none :=
    List.getElem?_eq_none (Nat.le_of_not_lt outside)
  cases target with
  | blueprint => rfl
  | column ref =>
    cases ref with
    | attached index =>
      have absent : blueprint.specs[index]? = none :=
        missing (by simpa [mentionedTargets] using leaf)
      simp only [mentionBy, quotedTargetBy, column?, absent, Option.bind_none]
    | detached index =>
      have absent : blueprint.detached[index]? = none :=
        missing (by simpa [mentionedTargets] using leaf)
      simp only [mentionBy, quotedTargetBy, column?, absent]
  | spec index =>
    have absent : blueprint.specs[index]? = none :=
      missing (by simpa [mentionedTargets] using leaf)
    simp only [mentionBy, quotedTargetBy, absent]
  | key index =>
    have absent : blueprint.foreignKeys[index]? = none :=
      missing (by simpa [mentionedTargets] using leaf)
    simp only [mentionBy, quotedTargetBy, absent]

/-- Whether a bound allows for all that can still come up in a reading with another bound: the lists
that are not around it, and before each of these, and behind them, everything else that is not being
read. What is being read is cut short by the other bound. -/
structure Allows (blueprint : Blueprint) (depth further : Nat) (around : List Mention)
    (lists : Finset Mention) (targets : Finset Target) : Prop where
  outer : ∀ something ∈ blueprint.mentionedLists, something ∈ lists ∨ something ∈ around
  inner : ∀ target ∈ blueprint.mentionedTargets, target ∈ targets ∨
    blueprint.wordsWithin further around (.mention (.target target)) = .error .endlessWording
  enough : lists.card * (blueprint.targetCount + 1) + targets.card < depth

/-- At first a bound has to allow for everything that there is to mention. -/
theorem allows_mentioned {depth : Nat} (deep : blueprint.mentionDepth ≤ depth) (further : Nat) :
    blueprint.Allows depth further [] blueprint.mentionedLists.toFinset
      blueprint.mentionedTargets.toFinset where
  outer something mentioned := .inl (List.mem_toFinset.mpr mentioned)
  inner target mentioned := .inl (List.mem_toFinset.mpr mentioned)
  enough := by
    have lists := blueprint.mentionedLists.toFinset_card_le
    have targets := blueprint.mentionedTargets.toFinset_card_le
    rw [length_mentionedLists] at lists
    rw [length_mentionedTargets] at targets
    have product := Nat.mul_le_mul_right (blueprint.targetCount + 1) lists
    rw [mentionDepth, Nat.succ_mul] at deep
    omega

namespace Allows

variable {depth further : Nat} {around : List Mention} {lists : Finset Mention}
  {targets : Finset Target}

/-- Inside a list one list less is left to go into, and everything else may come up once more. -/
theorem inside (allows : blueprint.Allows (depth + 1) further around lists targets)
    {something : Mention} (mentioned : something ∈ blueprint.mentionedLists)
    (outside : something ∉ around) (below : Nat) :
    blueprint.Allows depth below (something :: around) (lists.erase something)
      blueprint.mentionedTargets.toFinset where
  outer other known := by
    by_cases same : other = something
    · exact .inr (same ▸ List.mem_cons_self)
    · exact (allows.outer other known).imp (fun left => Finset.mem_erase.mpr ⟨same, left⟩)
        (List.mem_cons_of_mem _)
  inner target known := .inl (List.mem_toFinset.mpr known)
  enough := by
    have left := (allows.outer something mentioned).resolve_right outside
    have all := blueprint.mentionedTargets.toFinset_card_le
    rw [length_mentionedTargets] at all
    have product := Nat.succ_mul (lists.erase something).card (blueprint.targetCount + 1)
    rw [Nat.succ_eq_add_one, Finset.card_erase_add_one left] at product
    have enough := allows.enough
    omega

/-- With the least bound that is enough to read a target, the target is not read again below. -/
theorem within (allows : blueprint.Allows (depth + 1) further around lists targets)
    {target : Target} (mentioned : target ∈ blueprint.mentionedTargets)
    (read : blueprint.wordsWithin further around (.mention (.target target)) ≠
      .error .endlessWording) {least : Nat} (smaller : least ≤ further)
    (unread : blueprint.wordsWithin least around (.mention (.target target)) =
      .error .endlessWording) :
    blueprint.Allows depth least around lists (targets.erase target) where
  outer := allows.outer
  inner other known := by
    by_cases here : other = target
    · exact .inr (here ▸ unread)
    · exact (allows.inner other known).imp (fun left => Finset.mem_erase.mpr ⟨here, left⟩)
        (wordsWithin_mono smaller around _).of_cut
  enough := by
    have erased := Finset.card_erase_add_one ((allows.inner target mentioned).resolve_right read)
    have enough := allows.enough
    omega

end Allows

/-- A bound that allows for all that can come up gives what every other bound gives, unless that
cuts the reading short. -/
theorem shortOf_wordsWithin {depth further : Nat} {around : List Mention} {lists : Finset Mention}
    {targets : Finset Target} (allows : blueprint.Allows depth further around lists targets)
    (value : Value) :
    ShortOf (blueprint.wordsWithin further around value)
      (blueprint.wordsWithin depth around value) := by
  induction depth generalizing further around lists targets value with
  | zero => exact absurd allows.enough (Nat.not_lt_zero _)
  | succ depth ih =>
    rw [wordsWithin_eq, wordsWithin_eq (depth + 1)]
    refine Value.shortOf_fill (fun something => ?_) value
    obtain _ | further := further
    · exact .cut
    cases listed : blueprint.listed? something with
    | some values =>
      rw [wordsWithin_listed listed, wordsWithin_listed listed]
      split
      · exact .refl _
      rename_i outside
      by_cases several : values = []
      · rw [several, wordsWithin_eq, wordsWithin_eq depth]
        exact .refl _
      · have mentioned := mem_mentionedLists listed several
        exact ih (allows.inside mentioned (by simpa using outside) further) _
    | none =>
      cases something with
      | target target =>
        by_cases mentioned : target ∈ blueprint.mentionedTargets
        · by_cases cut : blueprint.wordsWithin (further + 1) around (.mention (.target target)) =
              .error .endlessWording
          · exact .inl cut
          · obtain ⟨least, smaller, unread, same⟩ := exists_leastBound cut
            have below := allows.within mentioned cut (Nat.le_succ_of_le smaller) unread
            rw [← same, wordsWithin_unlisted listed, wordsWithin_unlisted listed]
            exact shortOf_mentionBy (ih below) _
        · rw [wordsWithin_unlisted listed, wordsWithin_unlisted listed]
          exact .inr (mentionBy_leaf mentioned _ _)
      | specs | keys | list => cases listed
      | kind | type | wording => exact .refl _

/-- Every bound that is no smaller gives the same words. -/
theorem wordsWithin_eq_words {depth : Nat} (enough : blueprint.mentionDepth ≤ depth)
    (value : Value) : blueprint.wordsWithin depth [] value = blueprint.words value := by
  exact ShortOf.antisymm (shortOf_wordsWithin (allows_mentioned (Nat.le_refl _) depth) value)
    (wordsWithin_mono enough [] value)

/-! ## Rounds -/

/-- Whether another blueprint has the same to look up as one, and was only finalized more often or
less. -/
structure LooksAlike (blueprint other : Blueprint) : Prop where
  rounds : ∃ finalizations, other = { blueprint with finalizations }
  listed : ∀ something, other.listed? something = blueprint.listed? something

namespace LooksAlike

variable {other : Blueprint} (alike : blueprint.LooksAlike other)
include alike

theorem viewed (value : Value) : other.viewed value = blueprint.viewed value := by
  cases value with
  | mention something => simp only [Blueprint.viewed, alike.listed]
  | _ => rfl

theorem columnSqlBy (words : Value → Except Fault Value) (column : Column) :
    other.columnSqlBy words column = blueprint.columnSqlBy words column := by
  have same : other.viewed = blueprint.viewed := funext alike.viewed
  have types : other.viewedType = blueprint.viewedType := by
    funext type
    rw [viewedType, same]
    rfl
  simp only [Blueprint.columnSqlBy, types, same]

theorem specSqlBy (words : Value → Except Fault Value) (spec : Spec) :
    other.specSqlBy words spec = blueprint.specSqlBy words spec := by
  cases spec with
  | column column => exact alike.columnSqlBy words column
  | plain spec => rfl

theorem mentionBy (words : Value → Except Fault Value) (something : Mention) :
    other.mentionBy words something = blueprint.mentionBy words something := by
  have quotedSpec : other.quotedSpecBy words = blueprint.quotedSpecBy words := by
    funext spec
    simp only [quotedSpecBy, alike.specSqlBy]
  obtain ⟨finalizations, rfl⟩ := alike.rounds
  cases something with
  | target target =>
    simp only [Blueprint.mentionBy, quotedTargetBy, quotedSpec]
    rfl
  | _ => rfl

theorem wordsWithin (depth : Nat) (around : List Mention) (value : Value) :
    other.wordsWithin depth around value = blueprint.wordsWithin depth around value := by
  induction depth generalizing around value with
  | zero => rfl
  | succ depth ih =>
    have each : other.wordsWithin depth around = blueprint.wordsWithin depth around :=
      funext (ih around)
    rw [wordsWithin_eq, wordsWithin_eq (depth + 1)]
    congr 1
    funext something
    cases listed : blueprint.listed? something with
    | none =>
      rw [wordsWithin_unlisted listed, wordsWithin_unlisted ((alike.listed _).trans listed), each,
        alike.mentionBy]
    | some values =>
      rw [wordsWithin_listed listed, wordsWithin_listed ((alike.listed _).trans listed), ih]

/-- The words are the same however often the blueprint was finalized. -/
theorem words (value : Value) : other.words value = blueprint.words value := by
  let depth := max blueprint.mentionDepth other.mentionDepth
  calc other.words value
      = other.wordsWithin depth [] value := (wordsWithin_eq_words (Nat.le_max_right ..) value).symm
    _ = blueprint.wordsWithin depth [] value := alike.wordsWithin depth [] value
    _ = blueprint.words value := wordsWithin_eq_words (Nat.le_max_left ..) value

theorem shown (value : Value) : other.shown value = blueprint.shown value := by
  rw [Blueprint.shown, alike.words]
  rfl

theorem specSql (spec : Spec) : other.specSql spec = blueprint.specSql spec := by
  have words : other.words = blueprint.words := funext alike.words
  rw [Blueprint.specSql, words, alike.specSqlBy]
  rfl

end LooksAlike

end Blueprint

end Tablewright
