import Tablewright.Proofs.Database.Executor
import Tablewright.Proofs.Text.Search

/-! # Which reports count as duplicate keys

A driver that reports a number says by it which constraint is violated. Unless that is the number of
a duplicate key, the wording of the report is searched for two phrases, and the wording quotes
whatever the driver reports beside the number: names, data, messages. So a report with another
number counts as a duplicate key exactly if one of its further arguments mentions one of the
phrases. A report that cannot be written out is not searched.
-/

namespace Tablewright

open Text

/-- Whether a value mentions a phrase where it is quoted: a text by itself, anything else by its
quoted form. -/
def Value.Mentions (words : String) : Value → Prop
  | .text content => contains content words = true
  | value => contains value.quotedForm words = true

theorem duplicateWords_isPhrase : ∀ words ∈ duplicateWords, IsPhrase words.toList := by
  have visible : (duplicateWords.all fun words => words.toList.all fun char =>
      0x20 ≤ char.toNat ∧ char.toNat < 0x7f) = true := by decide
  have free : (duplicateWords.all fun words => words.toList.all (· ∉ phraseless)) = true := by
    decide
  simp only [List.all_eq_true, decide_eq_true_eq] at visible free
  intro words member
  refine ⟨fun char within => isPrintable_of_ascii (visible words member char within),
    free words member, ?_⟩
  rcases List.mem_pair.mp member with rfl | rfl
  · exact ⟨'D', 'u', "plicate entry".toList, rfl, by decide, by decide⟩
  · exact ⟨'U', 'N', "IQUE constraint failed".toList, rfl, by decide, by decide⟩

/-- A phrase is found in the quoted form of a value exactly if the value mentions it. -/
theorem Value.mentions_iff {words : String} (phrase : IsPhrase words.toList) (value : Value) :
    value.Mentions words ↔ words.toList <:+: value.quotedForm.toList := by
  cases value with
  | text text => exact contains_iff.trans (phrase.infix_quoted text).symm
  | _ => simp only [Mentions, contains_iff]

namespace DriverReport

variable {number : Int} {further : List Value} {code : Option Value}

/-- A phrase is found in the wording of a report with a number exactly if something beside the
number mentions it. -/
theorem contains_text_iff {words shown : String} (phrase : IsPhrase words.toList)
    (given : text ⟨.int number :: further, code⟩ = .ok shown) :
    contains shown words = true ↔ ∃ argument ∈ further, argument.Mentions words := by
  simp only [contains_iff, Value.mentions_iff phrase]
  have numberless : ¬ words.toList <:+: (Value.int number).quotedForm.toList :=
    phrase.not_infix_toString number
  cases further with
  | nil =>
    obtain ⟨-, rfl⟩ := Value.shown_eq_ok.mp given
    simp only [List.not_mem_nil, false_and, exists_false, iff_false]
    exact numberless
  | cons argument further =>
    obtain ⟨texts, quoted, rfl⟩ := map_eq_ok.mp given
    obtain ⟨-, rfl⟩ := (Value.mapM_written_eq_ok Value.quotedForm).mp quoted
    have opened (inside : String) :
        ("(" ++ inside ++ ")").toList = [] ++ '(' :: (inside.toList ++ ')' :: []) := by
      simp
    rw [opened, infix_append_cons_iff (phrase.not_mem (by decide)),
      or_iff_right phrase.not_infix_nil, infix_append_cons_iff (phrase.not_mem (by decide)),
      or_iff_left phrase.not_infix_nil, phrase.infix_intercalate]
    simp [numberless]

/-- A report with a number and without a code is marked by the number. -/
theorem isMarkedDuplicate_number (number : Int) (further : List Value) :
    isMarkedDuplicate (some ⟨.int number :: further, none⟩) =
      decide (number = 1062 ∨ number = 1586) := by
  have same (known : Int) : (Value.int number).same (.int known) = (number == known) := by
    simp [Value.same, Value.magnitude?, Magnitude.compare?_ofInt]
  have met : reportNumber (some ⟨.int number :: further, none⟩) = .int number := rfl
  rw [isMarkedDuplicate, met, Bool.decide_or]
  simp [duplicateNumbers, same, beq_eq_decide]

section Text

variable {number : Int} {further : List Value} {shown : String} {fault : Fault}

/-- A report that is written out counts as a duplicate key by its number or by a phrase in it. -/
theorem isUniqueViolation_of_text (given : text ⟨.int number :: further, none⟩ = .ok shown) :
    isUniqueViolation (some ⟨.int number :: further, none⟩) =
      .ok (decide (number = 1062 ∨ number = 1586) || duplicateWords.any (contains shown)) := by
  have plain : (Value.int number).isSignaling = false := rfl
  have shown' : reportText (some ⟨.int number :: further, none⟩) = .ok shown := given
  rw [isUniqueViolation_eq, isMarkedDuplicate_number, shown']
  by_cases known : number = 1062 ∨ number = 1586 <;> simp [known, Except.map, reportNumber, plain]

/-- A report that cannot be written out counts as a duplicate key by its number, or as nothing. -/
theorem isUniqueViolation_of_textless
    (failed : text ⟨.int number :: further, none⟩ = .error fault) :
    isUniqueViolation (some ⟨.int number :: further, none⟩) =
      if number = 1062 ∨ number = 1586 then .ok true else .error fault := by
  have failed' : reportText (some ⟨.int number :: further, none⟩) = .error fault := failed
  rw [isUniqueViolation_eq, isMarkedDuplicate_number, failed']
  by_cases known : number = 1062 ∨ number = 1586 <;>
    simp [known, Except.map, reportNumber, Value.isSignaling]

/-- One of the phrases is in a report exactly if something beside the number mentions it. -/
theorem any_contains_iff (given : text ⟨.int number :: further, none⟩ = .ok shown) :
    duplicateWords.any (contains shown) ↔
      ∃ words ∈ duplicateWords, ∃ argument ∈ further, argument.Mentions words := by
  rw [List.any_eq_true]
  exact exists_congr fun words => and_congr_right fun known =>
    contains_text_iff (duplicateWords_isPhrase words known) given

end Text

end DriverReport

/-- A report with a number and without a code counts as a duplicate key exactly if its number says
so, or if something beside the number mentions one of the phrases and all can be written out. It is
passed on accordingly then, and not at all if it cannot be written out. -/
theorem numberedReport_isUnique_iff (number : Int) (further : List Value)
    (action statement text : String) :
    let report : Option DriverReport := some ⟨.int number :: further, none⟩
    let reported := Executor.report action statement (.integrity report text)
    (isUniqueViolation report = .ok true ↔
      number = 1062 ∨ number = 1586 ∨ reportIsWritten report ∧
        ∃ words ∈ duplicateWords, ∃ argument ∈ further, argument.Mentions words) ∧
    if reportIsWritten report then
      ∃ unique shown, isUniqueViolation report = .ok unique ∧ reportText report = .ok shown ∧
        reported = .reported
          (if unique then .duplicateRecord (action ++ " rejected: " ++ shown) (some statement)
          else .executionFailure (action ++ " failed: " ++ text) (some statement))
          (.integrity report text)
    else reported = .undecided .badValue := by
  intro report reported
  have given := givenIf_reportText report
  cases written : reportIsWritten report with
  | false =>
    rw [written] at given
    have told := DriverReport.isUniqueViolation_of_textless given.error
    have unreported : reported = .undecided .badValue := by
      simp only [reported, Executor.report, report, told]
      by_cases known : number = 1062 ∨ number = 1586
      · simp only [if_pos known]
        rw [given.error]
      · simp only [if_neg known]
    refine ⟨?_, unreported⟩
    rw [told]
    by_cases known : number = 1062 ∨ number = 1586 <;> simp [known]
  | true =>
    obtain ⟨shown, given⟩ := given.ok.mpr written
    have told := DriverReport.isUniqueViolation_of_text given
    refine ⟨?_, _, shown, told, given, ?_⟩
    · rw [told, ← or_assoc, ← DriverReport.any_contains_iff given]
      simp
    · generalize (_ || _ : Bool) = unique at told
      simp only [reported, Executor.report, report, told]
      rw [given]
      cases unique <;> rfl

/-- A missing value is reported as a duplicate record if its column is called like one. -/
theorem missingValue_isUnique :
    let report : Option DriverReport :=
      some ⟨[.int 1048, .text "Column 'Duplicate entry' cannot be null"], none⟩
    isUniqueViolation report = .ok true ∧ ¬ ((1048 : Int) = 1062 ∨ (1048 : Int) = 1586) ∧
      Executor.report "Insert into migrations" "INSERT" (.integrity report "shown") =
        .reported
          (.duplicateRecord
            "Insert into migrations rejected: (1048, \"Column 'Duplicate entry' cannot be null\")"
            (some "INSERT"))
          (.integrity report "shown") := by
  decide +kernel

end Tablewright
