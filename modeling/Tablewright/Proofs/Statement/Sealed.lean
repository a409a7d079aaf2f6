import Mathlib.Data.List.Basic
import Tablewright.ColumnType
import Tablewright.Database.Memory
import Tablewright.Proofs.Literal

/-! # Sealed texts

A statement is read from the left. Between two marks of a name, and between two marks of a literal,
nothing has a meaning of its own. A mark that is written twice in a literal leaves the literal and
enters it again, so nothing is outside in between. A text is sealed if whatever it opens it also
closes, and if none of its line breaks is outside. Everything that is written into the fragments of
a statement is sealed: names without marks of names, literals of any texts, and words and numbers.
-/

namespace Tablewright

/-- Where a character of a statement stands. -/
inductive Place where
  | outside
  | name
  | literal
deriving DecidableEq

/-- Where the next character stands. -/
def Place.next (char : Char) : Place → Place
  | .outside =>
    if char = nameMark then .name else if char = Text.singleMark then .literal else .outside
  | .name => if char = nameMark then .outside else .name
  | .literal => if char = Text.singleMark then .outside else .literal

/-- Whether a text that begins at a place ends outside and has a character nowhere outside. -/
def Encloses (char : Char) : Place → List Char → Prop
  | place, [] => place = .outside
  | place, other :: rest =>
    ¬ (place = .outside ∧ other = char) ∧ Encloses char (place.next other) rest

instance Encloses.decidable (char : Char) :
    (place : Place) → (text : List Char) → Decidable (Encloses char place text)
  | place, [] => inferInstanceAs (Decidable (place = .outside))
  | place, other :: rest =>
    have := Encloses.decidable char (place.next other) rest
    inferInstanceAs (Decidable (_ ∧ _))

theorem Encloses.append {char : Char} {place : Place} {text more : List Char}
    (encloses : Encloses char place text) (further : Encloses char .outside more) :
    Encloses char place (text ++ more) := by
  induction text generalizing place with
  | nil => exact encloses ▸ further
  | cons other text ih => exact ⟨encloses.1, ih encloses.2⟩

/-- Whether a text has whole names and literals only, and no line break outside of them. -/
structure Sealed (text : String) : Prop where
  encloses : Encloses '\n' .outside text.toList

instance Sealed.decidable (text : String) : Decidable (Sealed text) :=
  decidable_of_iff (Encloses '\n' .outside text.toList) ⟨Sealed.mk, Sealed.encloses⟩

theorem Sealed.append {text more : String} (first : Sealed text) (second : Sealed more) :
    Sealed (text ++ more) := by
  refine ⟨?_⟩
  rw [String.toList_append]
  exact first.encloses.append second.encloses

theorem sealed_intercalate {between : String} (joint : Sealed between) :
    {texts : List String} → (∀ text ∈ texts, Sealed text) → Sealed (between.intercalate texts)
  | [], _ => by
    rw [String.intercalate_nil]
    decide
  | [text], each => by simpa using each text (by simp)
  | text :: next :: texts, each => by
    have rest := sealed_intercalate joint fun text (member : text ∈ next :: texts) =>
      each text (by simp [member])
    rw [String.intercalate_cons_cons]
    exact ((each text (by simp)).append joint).append rest

/-! ## Names and literals -/

/-- Whether no mark of a name is in a text. -/
def Unmarked (text : String) : Prop :=
  nameMark ∉ text.toList

instance Unmarked.decidable (text : String) : Decidable (Unmarked text) :=
  inferInstanceAs (Decidable (nameMark ∉ text.toList))

@[simp] theorem unmarked_append {text more : String} :
    Unmarked (text ++ more) ↔ Unmarked text ∧ Unmarked more := by
  simp [Unmarked, String.toList_append]

theorem unmarked_intercalate {between : String} (joint : Unmarked between) :
    {texts : List String} → (∀ text ∈ texts, Unmarked text) → Unmarked (between.intercalate texts)
  | [], _ => by
    rw [String.intercalate_nil]
    decide
  | [text], each => by simpa using each text (by simp)
  | text :: next :: texts, each => by
    have rest := unmarked_intercalate joint fun text (member : text ∈ next :: texts) =>
      each text (by simp [member])
    rw [String.intercalate_cons_cons, unmarked_append, unmarked_append]
    exact ⟨⟨each text (by simp), joint⟩, rest⟩

/-- A text without marks of names stays inside a name up to its closing mark. -/
theorem encloses_name {name : List Char} (unmarked : nameMark ∉ name) (char : Char) :
    Encloses char .name (name ++ [nameMark]) := by
  induction name with
  | nil => exact ⟨by simp, by simp [Encloses, Place.next]⟩
  | cons other name ih =>
    obtain ⟨apart, rest⟩ := not_or.mp (List.mem_cons.not.mp unmarked)
    refine ⟨by simp, ?_⟩
    rw [Place.next, if_neg (Ne.symm apart)]
    exact ih rest

/-- A name without marks of names encloses whatever is in it. -/
theorem encloses_quoteName {name : String} (unmarked : Unmarked name) {char : Char}
    (other : char ≠ nameMark) : Encloses char .outside (quoteName name).toList := by
  have opened : (quoteName name).toList = nameMark :: (name.toList ++ [nameMark]) := by
    simp [quoteName, nameMark]
  rw [opened]
  exact ⟨fun found => other found.2.symm, encloses_name unmarked char⟩

/-- A name without marks of names is sealed by its own. -/
theorem sealed_quoteName {name : String} (unmarked : Unmarked name) :
    Sealed (quoteName name) :=
  ⟨encloses_quoteName unmarked (by decide)⟩

/-- The marks inside a literal come in pairs, so it is open up to its closing mark. -/
theorem encloses_literal (text : List Char) {char : Char} (other : char ≠ Text.singleMark) :
    Encloses char .literal (doubleMarks text ++ [Text.singleMark]) := by
  have closed : Place.literal.next Text.singleMark = .outside := rfl
  have reopened : Place.outside.next Text.singleMark = .literal := rfl
  induction text with
  | nil => exact ⟨by simp, closed⟩
  | cons first text ih =>
    by_cases mark : first = Text.singleMark
    · rw [mark, doubleMarks_mark]
      refine ⟨by simp, fun found => other found.2.symm, ?_⟩
      rw [closed, reopened]
      exact ih
    · rw [doubleMarks_other mark]
      refine ⟨by simp, ?_⟩
      rw [Place.next, if_neg mark]
      exact ih

/-- Whatever a text is, its literal encloses it. -/
theorem encloses_quoteLiteral (text : String) {char : Char} (other : char ≠ Text.singleMark) :
    Encloses char .outside (quoteLiteral text).toList := by
  rw [quoteLiteral, String.toList_ofList]
  exact ⟨fun found => other found.2.symm, encloses_literal text.toList other⟩

/-- Whatever a text is, its literal is sealed. -/
theorem sealed_quoteLiteral (text : String) : Sealed (quoteLiteral text) :=
  ⟨encloses_quoteLiteral text (by decide)⟩

/-! ## Words and numbers -/

/-- Whether a text has neither marks nor line breaks. -/
def Plain (text : List Char) : Prop :=
  ∀ char ∈ text, char ≠ nameMark ∧ char ≠ Text.singleMark ∧ char ≠ '\n'

instance Plain.decidable (text : List Char) : Decidable (Plain text) :=
  List.decidableBAll _ text

@[simp] theorem plain_nil : Plain [] := by simp [Plain]

@[simp] theorem plain_cons {char : Char} {text : List Char} :
    Plain (char :: text) ↔
      (char ≠ nameMark ∧ char ≠ Text.singleMark ∧ char ≠ '\n') ∧ Plain text :=
  List.forall_mem_cons

@[simp] theorem plain_append {text more : List Char} :
    Plain (text ++ more) ↔ Plain text ∧ Plain more :=
  List.forall_mem_append

/-- A text without marks and without a character has nothing to enclose. -/
theorem encloses_of_absent {char : Char} {text : List Char}
    (absent : ∀ other ∈ text, other ≠ nameMark ∧ other ≠ Text.singleMark ∧ other ≠ char) :
    Encloses char .outside text := by
  induction text with
  | nil => rfl
  | cons other text ih =>
    obtain ⟨⟨name, literal, apart⟩, rest⟩ := List.forall_mem_cons.mp absent
    refine ⟨fun found => apart found.2, ?_⟩
    rw [Place.next, if_neg name, if_neg literal]
    exact ih rest

theorem Plain.encloses {text : List Char} (plain : Plain text) : Encloses '\n' .outside text :=
  encloses_of_absent plain

theorem Plain.replicate {char : Char} (plain : Plain [char]) (count : Nat) :
    Plain (List.replicate count char) := by
  intro other member
  exact plain other (by simp [List.eq_of_mem_replicate member])

theorem Plain.take {text : List Char} (plain : Plain text) (count : Nat) :
    Plain (text.take count) :=
  fun char member => plain char (List.mem_of_mem_take member)

theorem Plain.drop {text : List Char} (plain : Plain text) (count : Nat) :
    Plain (text.drop count) :=
  fun char member => plain char (List.mem_of_mem_drop member)

theorem plain_toDigits (number : Nat) : Plain (Nat.toDigits 10 number) := by
  intro char member
  have digit := Nat.isDigit_of_mem_toDigits (by decide) (by decide) member
  refine ⟨?_, ?_, ?_⟩
  all_goals
    rintro rfl
    exact absurd digit (by decide)

end Tablewright
