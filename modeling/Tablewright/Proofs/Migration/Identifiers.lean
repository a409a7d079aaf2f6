import Tablewright.Proofs.Migration.Course

/-! # Classes and their identifiers

An identifier is a module name, a dot and a class name. Both names may hold dots themselves, so an
identifier does not tell where one ends and the other begins: it stands for every class whose two
names are a cut of it at a dot. A run knows migrations by their identifiers only. So among units of
different classes it calls the first of each identifier, which are all of them exactly if no two
are cuts of one text. Before it calls one it notes the number of its batch, so a run whose number is
too long to be written calls none.
-/

namespace Tablewright

open Program

namespace Migration

/-- Whether two migrations are of one class. -/
def SameClass (one other : Migration) : Prop :=
  one.moduleName = other.moduleName ∧ one.className = other.className

/-- Whether the names of two classes are one text, cut at an earlier dot for the first: what the
module name of the second has beyond that of the first is what the class name of the first begins
with. -/
def CutBefore (one other : Migration) : Prop :=
  ∃ between, other.moduleName = one.moduleName ++ "." ++ between ∧
    one.className = between ++ "." ++ other.className

/-- Whether no cut of one text gives both classes. -/
def Unmistakable (one other : Migration) : Prop :=
  ¬ one.CutBefore other ∧ ¬ other.CutBefore one

variable {one other : Migration}

theorem SameClass.identifier_eq (same : one.SameClass other) : one.identifier = other.identifier := by
  unfold identifier
  rw [same.1, same.2]

theorem CutBefore.identifier_eq (cut : one.CutBefore other) : one.identifier = other.identifier := by
  obtain ⟨between, modules, classes⟩ := cut
  unfold identifier
  rw [modules, classes]
  simp only [String.append_assoc]

/-- If what follows the shorter module name begins with the rest of the longer one, then the classes
are the same or cuts of one text. -/
private theorem cut_of_rest {rest : List Char}
    (modules : other.moduleName.toList = one.moduleName.toList ++ rest)
    (classes : '.' :: one.className.toList = rest ++ '.' :: other.className.toList) :
    one.SameClass other ∨ one.CutBefore other := by
  cases rest with
  | nil =>
    left
    constructor
    · exact String.toList_inj.mp (by simpa using modules.symm)
    · exact String.toList_inj.mp (List.cons.inj classes).2
  | cons first between =>
    obtain ⟨rfl, classes⟩ := List.cons.inj classes
    right
    refine ⟨String.ofList between, ?_, ?_⟩
    · exact String.toList_inj.mp (by simpa using modules)
    · exact String.toList_inj.mp (by simpa using classes)

/-- Exactly the cuts of one text share an identifier. -/
theorem identifier_eq_iff (one other : Migration) :
    one.identifier = other.identifier ↔
      one.SameClass other ∨ one.CutBefore other ∨ other.CutBefore one := by
  constructor
  · intro same
    have characters : one.moduleName.toList ++ '.' :: one.className.toList =
        other.moduleName.toList ++ '.' :: other.className.toList := by
      have equal := congrArg String.toList same
      simpa [identifier] using equal
    rcases List.append_eq_append_iff.mp characters with ⟨rest, modules, classes⟩ |
      ⟨rest, modules, classes⟩
    · rcases cut_of_rest modules classes with class_same | cut
      · exact .inl class_same
      · exact .inr (.inl cut)
    · rcases cut_of_rest modules classes with class_same | cut
      · exact .inl ⟨class_same.1.symm, class_same.2.symm⟩
      · exact .inr (.inr cut)
  · rintro (same | cut | cut)
    · exact same.identifier_eq
    · exact cut.identifier_eq
    · exact cut.identifier_eq.symm

/-- Different classes that are not cuts of one text have different identifiers. -/
theorem identifier_ne_iff (different : ¬ one.SameClass other) :
    one.identifier ≠ other.identifier ↔ one.Unmistakable other := by
  rw [Ne, identifier_eq_iff, Unmistakable]
  simp [different]

end Migration

/-! ## Runs on units of different classes -/

section Units

variable {units : List Migration}

/-- All units are first with their identifiers exactly if no two are cuts of one text. -/
theorem forall_mem_firsts_iff (different : units.Pairwise fun one other => ¬ one.SameClass other) :
    (∀ unit ∈ units, unit ∈ firsts units) ↔ units.Pairwise Migration.Unmistakable := by
  constructor
  · intro all
    have unequal : units.Pairwise fun one other => one ≠ other := by
      refine different.imp ?_
      rintro one other unlike rfl
      exact unlike ⟨rfl, rfl⟩
    have inside : (firsts units).map Migration.identifier |>.Nodup :=
      List.pairwise_map.mpr (firsts_pairwise units)
    refine (different.and unequal).imp_of_mem fun {one other} left right unlike => ?_
    rw [← Migration.identifier_ne_iff unlike.1]
    intro same
    exact unlike.2 (List.inj_on_of_nodup_map inside (all one left) (all other right) same)
  · intro unmistakable unit member
    have apart : units.Pairwise fun one other => one.identifier ≠ other.identifier :=
      (different.and unmistakable).imp fun both =>
        (Migration.identifier_ne_iff both.1).mpr both.2
    rw [firsts_eq_self apart]
    exact member

theorem outstanding_of_unrecorded {rows : List Record}
    (unrecorded : ∀ unit ∈ units, ¬ Recorded rows unit.identifier) :
    outstanding rows (units.map .migration) = units := by
  have migrations : (units.map Candidate.migration).filterMap Candidate.migration? = units := by
    rw [List.filterMap_map]
    exact List.filterMap_some
  unfold outstanding
  rw [migrations, List.filter_eq_self]
  intro unit member
  simpa using unrecorded unit member

/-- How a run treats units of which none is recorded: it calls the first of each identifier in order,
up to one that fails; and if none fails, then these are all units exactly if no two of them are cuts
of one text. -/
structure RunAccount.CallsFirsts (account : RunAccount) (units : List Migration) : Prop where
  order : account.tried.map (·.migration) <+: firsts units
  whole : (∀ attempt ∈ account.tried, attempt.outcome = .ok ()) →
    account.tried.map (·.migration) = firsts units
  every : (∀ attempt ∈ account.tried, attempt.outcome = .ok ()) →
    ((∀ unit ∈ units, unit ∈ account.tried.map (·.migration)) ↔
      units.Pairwise Migration.Unmistakable)

/-- Migrations are spoken of by their identifiers. -/
theorem spoken_migrations : Spoken (units.map .migration) := by
  intro value member
  obtain ⟨unit, -, same⟩ := List.mem_map.mp member
  cases same

theorem RunAccount.Ran.callsFirsts {account : RunAccount}
    (ran : account.Ran (units.map .migration)) (number : IsNumbered account.number)
    (different : units.Pairwise fun one other => ¬ one.SameClass other)
    (unrecorded : ∀ unit ∈ units, ¬ Recorded account.met unit.identifier) :
    account.CallsFirsts units := by
  have course := ran.course
  rw [outstanding_of_unrecorded unrecorded] at course
  constructor
  · exact course.tried_prefix
  · exact course.tried_whole number spoken_migrations
  · intro returned
    rw [course.tried_whole number spoken_migrations returned]
    exact forall_mem_firsts_iff different

end Units

section History

variable {State : Type} {world : World State} {repository : Repository} {usable : State → Prop}
  {stored : State → List Record} {past : History State}

/-- Identifiers tell all classes apart but the cuts of one text, and a run on units of different
classes, none of them recorded, calls all of them exactly if there are no such cuts among them. A
run that cannot write out the number of its batch calls none. -/
theorem classes_told_apart_iff (keeps : world.KeepsRecords repository usable stored)
    (alone : past.IsAlone repository usable stored) (distinct : Distinct (stored past.state))
    (prepared : (repository.ensureTable.run world past.state).result = .ok ())
    (units : List Migration)
    (different : units.Pairwise fun one other => ¬ one.SameClass other)
    (unrecorded : ∀ unit ∈ units, ¬ Recorded (stored past.state) unit.identifier) :
    (∀ one other : Migration, one.identifier = other.identifier ↔
      one.SameClass other ∨ one.CutBefore other ∨ other.CutBefore one) ∧
    let account := past.account world repository stored (units.map .migration)
    (IsNumbered account.number → account.CallsFirsts units) ∧
      (¬ IsNumbered account.number → account.tried = []) := by
  refine ⟨Migration.identifier_eq_iff, ?_⟩
  obtain ⟨-, goes⟩ := alone.runs keeps distinct (units.map .migration)
  rw [prepared] at goes
  exact ⟨fun number => goes.callsFirsts number different unrecorded,
    goes.course.tried_of_unnumbered⟩

end History

namespace ScriptedWorld

/-- A world with an empty tracking table, in which every application returns at once. -/
def released : ScriptedWorld :=
  { fresh with
    database := { MemoryDatabase.empty with tables := [tracking.tableName] }
    scripts := [] }

theorem released_isStore : released.IsStore tracking where
  scalars := rfl
  conflicts := rfl
  rejects := rfl
  records := nofun
  spared _ _ := trivial

/-- A migration whose class is nested in another one of its module. -/
def nestedUsers : Migration :=
  ⟨"nested", "app", "v1.CreateUsers"⟩

/-- A migration whose class has the name of that one in a module of its own. -/
def packagedUsers : Migration :=
  ⟨"packaged", "app.v1", "CreateUsers"⟩

/-- Two different classes, neither of them recorded: a run calls the first only. -/
theorem nestedUsers_hides_packagedUsers :
    ¬ nestedUsers.SameClass packagedUsers ∧ nestedUsers.identifier = packagedUsers.identifier ∧
      stored tracking released = [] ∧
      ((History.start released).account full tracking (stored tracking)
        [.migration nestedUsers, .migration packagedUsers]).tried.map (·.migration) =
          [nestedUsers] := by
  refine ⟨?_, by decide, by decide, by decide +kernel⟩
  rintro ⟨modules, -⟩
  exact absurd modules (by decide)

/-- Two classes of one name in two modules, and one nested in them. -/
theorem released_told_apart :
    let units := [createUsers, ⟨"other", "app.other", "CreateUsers"⟩,
      ⟨"nested", "app.other", "CreateUsers.Later"⟩]
    units.Pairwise (fun one other => ¬ one.SameClass other) ∧
    ((∀ one other : Migration, one.identifier = other.identifier ↔
      one.SameClass other ∨ one.CutBefore other ∨ other.CutBefore one) ∧
    ((History.start released).account full tracking (stored tracking)
      (units.map .migration)).CallsFirsts units) := by
  intro units
  have different : units.Pairwise fun one other => ¬ one.SameClass other := by
    simp [units, createUsers, Migration.SameClass]
  have told := classes_told_apart_iff (keepsRecords isPlainName_tracking)
    (History.start_isAlone released_isStore) List.nodup_nil (by decide +kernel) units different
    fun _ _ => List.not_mem_nil
  exact ⟨different, told.1, told.2.1 (by decide +kernel)⟩

end ScriptedWorld

end Tablewright
