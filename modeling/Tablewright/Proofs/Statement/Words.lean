import Mathlib.Data.List.Forall2
import Mathlib.Data.List.Nodup
import Tablewright.Proofs.Statement.Sealed

/-! # Words and clauses

A fragment is a sequence of words with a space between any two of them. A name and a literal are one
word each, whatever is in them, so a space ends a word only if it is outside. Two sequences of words
that are written alike are therefore the same.

A clause begins with a keyword, which decides how many words come after it. If clauses stand in a
fixed order and no two of them share a keyword, then it is known from the words which of the clauses
are there, and where each of them ends.
-/

namespace Tablewright

/-! ## Words -/

/-- Whether a text is one word: all of its spaces are in names and literals, and these are whole. -/
structure IsWord (text : String) : Prop where
  encloses : Encloses ' ' .outside text.toList

instance IsWord.decidable (text : String) : Decidable (IsWord text) :=
  decidable_of_iff (Encloses ' ' .outside text.toList) ⟨IsWord.mk, IsWord.encloses⟩

theorem IsWord.append {text more : String} (first : IsWord text) (second : IsWord more) :
    IsWord (text ++ more) := by
  refine ⟨?_⟩
  rw [String.toList_append]
  exact first.encloses.append second.encloses

theorem isWord_quoteName {name : String} (unmarked : Unmarked name) : IsWord (quoteName name) :=
  ⟨encloses_quoteName unmarked (by decide)⟩

theorem isWord_quoteLiteral (text : String) : IsWord (quoteLiteral text) :=
  ⟨encloses_quoteLiteral text (by decide)⟩

/-- Literals with commas between them are one word. -/
theorem isWord_literals : (texts : List String) →
    IsWord (",".intercalate (texts.map quoteLiteral))
  | [] => by
    rw [List.map_nil, String.intercalate_nil]
    decide
  | [text] => by simpa using isWord_quoteLiteral text
  | text :: next :: texts => by
    have comma : IsWord "," := by decide
    rw [List.map_cons, List.map_cons, String.intercalate_cons_cons]
    exact ((isWord_quoteLiteral text).append comma).append (isWord_literals (next :: texts))

/-- A whole number is written with digits, behind a minus if it is negative. -/
theorem digits_toString (number : Int) :
    ∀ char ∈ (toString number).toList, char.isDigit ∨ char = '-' := by
  have digits (count : Nat) : ∀ char ∈ Nat.toDigits 10 count, char.isDigit ∨ char = '-' :=
    fun _ member => .inl (Nat.isDigit_of_mem_toDigits (by decide) (by decide) member)
  cases number with
  | ofNat number => simpa [toString, Int.repr] using digits number
  | negSucc number => simpa [toString, Int.repr] using digits (number + 1)

theorem isWord_toString (number : Int) : IsWord (toString number) := by
  refine ⟨encloses_of_absent fun char member => ?_⟩
  refine ⟨?_, ?_, ?_⟩
  all_goals
    rintro rfl
    exact absurd (digits_toString number _ member) (by decide)

/-! ## Sequences of words -/

/-- Two texts that enclose a character, and go on with that character if at all, end together. -/
theorem Encloses.cancel {char : Char} {place : Place} {text other rest more : List Char}
    (whole : Encloses char place text) (whole' : Encloses char place other)
    (ends : ∀ next ∈ rest.head?, next = char) (ends' : ∀ next ∈ more.head?, next = char)
    (same : text ++ rest = other ++ more) : text = other ∧ rest = more := by
  induction text generalizing place other with
  | nil =>
    cases other with
    | nil => exact ⟨rfl, same⟩
    | cons first other =>
      have outside : first = char := ends first (by rw [← List.nil_append rest, same]; rfl)
      exact absurd ⟨whole, outside⟩ whole'.1
  | cons first text ih =>
    cases other with
    | nil =>
      have outside : first = char := ends' first (by rw [← List.nil_append more, ← same]; rfl)
      exact absurd ⟨whole', outside⟩ whole.1
    | cons second other =>
      obtain ⟨rfl, tails⟩ := List.cons.inj same
      obtain ⟨rfl, rest⟩ := ih whole.2 whole'.2 tails
      exact ⟨rfl, rest⟩

/-- What is written behind a word before more words. -/
def behindWord : List String → List Char
  | [] => []
  | words => ' ' :: (" ".intercalate words).toList

theorem toList_intercalate_words (word : String) (words : List String) :
    (" ".intercalate (word :: words)).toList = word.toList ++ behindWord words := by
  cases words with
  | nil => simp [behindWord]
  | cons next words => simp [behindWord, String.intercalate_cons_cons]

theorem head_behindWord (words : List String) : ∀ next ∈ (behindWord words).head?, next = ' ' := by
  cases words with
  | nil => simp [behindWord]
  | cons next words => simp [behindWord]

/-- Words that are written alike begin with the same word. -/
theorem cancel_word {word other : String} {words others : List String}
    (each : ∀ text ∈ word :: words, IsWord text) (each' : ∀ text ∈ other :: others, IsWord text)
    (same : " ".intercalate (word :: words) = " ".intercalate (other :: others)) :
    word = other ∧ behindWord words = behindWord others := by
  have chars := congrArg String.toList same
  rw [toList_intercalate_words, toList_intercalate_words] at chars
  obtain ⟨first, behind⟩ := (each word List.mem_cons_self).encloses.cancel
    (each' other List.mem_cons_self).encloses (head_behindWord words) (head_behindWord others) chars
  exact ⟨String.toList_inj.mp first, behind⟩

/-- Words that are written alike are the same words. -/
theorem words_of_intercalate {word other : String} {words others : List String}
    (each : ∀ text ∈ word :: words, IsWord text) (each' : ∀ text ∈ other :: others, IsWord text)
    (same : " ".intercalate (word :: words) = " ".intercalate (other :: others)) :
    word :: words = other :: others := by
  induction words generalizing word other others with
  | nil =>
    obtain ⟨rfl, behind⟩ := cancel_word each each' same
    cases others with
    | nil => rfl
    | cons next others => cases behind
  | cons next words ih =>
    obtain ⟨rfl, behind⟩ := cancel_word each each' same
    cases others with
    | nil => cases behind
    | cons second others =>
      have rest := String.toList_inj.mp (List.cons.inj behind).2
      rw [ih (List.forall_mem_cons.mp each).2 (List.forall_mem_cons.mp each').2 rest]

/-! ## Clauses -/

/-- The keywords that a clause may begin with, each with the number of words that come after it. -/
abbrev Keywords := List (String × Nat)

/-- Whether words are a clause with one of some keywords, or the clause is left out. -/
inductive Fits (keywords : Keywords) : List String → Prop
  | absent : Fits keywords []
  | clause {keyword : String} {words : List String}
    (known : (keyword, words.length) ∈ keywords) : Fits keywords (keyword :: words)

/-- The words of a clause that says nothing but that it is there. -/
def flagWords (said : Bool) (words : List String) : List String :=
  if said then words else []

theorem fits_flagWords (said : Bool) (keyword : String) (words : List String) :
    Fits [(keyword, words.length)] (flagWords said (keyword :: words)) := by
  cases said with
  | false => exact .absent
  | true => exact .clause (List.mem_singleton.mpr rfl)

theorem isWord_flagWords (said : Bool) {words : List String} (each : ∀ word ∈ words, IsWord word) :
    ∀ word ∈ flagWords said words, IsWord word := by
  cases said with
  | false => simp [flagWords]
  | true => exact each

theorem flagWords_inj {said other : Bool} {keyword : String} {words : List String}
    (same : flagWords said (keyword :: words) = flagWords other (keyword :: words)) :
    said = other := by
  cases said with
  | false =>
    cases other with
    | false => rfl
    | true => cases same
  | true =>
    cases other with
    | false => cases same
    | true => rfl

/-- Clauses in a fixed order go on with a keyword of one of them. -/
theorem keyword_of_flatten {forms : List Keywords} {clauses : List (List String)}
    (fits : List.Forall₂ Fits forms clauses) {keyword : String} {words : List String}
    (begun : clauses.flatten = keyword :: words) :
    keyword ∈ forms.flatten.map Prod.fst := by
  induction fits with
  | nil => cases begun
  | cons fit fits ih =>
    rw [List.flatten_cons, List.map_append, List.mem_append]
    cases fit with
    | absent => exact .inr (ih begun)
    | clause known =>
      obtain ⟨rfl, -⟩ := List.cons.inj begun
      exact .inl (List.mem_map_of_mem known)

/-- Clauses in a fixed order are known from their words if no two of them share a keyword. -/
theorem clauses_of_flatten {forms : List Keywords} (apart : (forms.flatten.map Prod.fst).Nodup)
    {clauses others : List (List String)} (fits : List.Forall₂ Fits forms clauses)
    (fits' : List.Forall₂ Fits forms others) (same : clauses.flatten = others.flatten) :
    clauses = others := by
  induction fits generalizing others with
  | nil =>
    cases fits'
    rfl
  | @cons form clause forms clauses fit fits ih =>
    cases fits' with
    | @cons _ other _ others fit' fits' =>
      rw [List.flatten_cons, List.map_append] at apart
      obtain ⟨here, later, disjoint⟩ := List.nodup_append'.mp apart
      -- A keyword of this clause begins none of the later ones.
      have misplaced {clauses : List (List String)} (fits : List.Forall₂ Fits forms clauses)
          {keyword : String} {words : List String} (known : (keyword, words.length) ∈ form)
          {more : List String} : clauses.flatten ≠ keyword :: more := fun begun =>
        disjoint (List.mem_map_of_mem known) (keyword_of_flatten fits begun)
      cases fit with
      | absent =>
        cases fit' with
        | absent => rw [ih later fits' same]
        | clause known => exact absurd same (misplaced fits known)
      | @clause keyword words known =>
        cases fit' with
        | absent => exact absurd same.symm (misplaced fits' known)
        | @clause second others known' =>
          obtain ⟨rfl, tails⟩ := List.cons.inj same
          have length : words.length = others.length :=
            congrArg Prod.snd (List.inj_on_of_nodup_map here known known' rfl)
          obtain ⟨rfl, rest⟩ := List.append_inj tails length
          rw [ih later fits' rest]

/-- A clause as one text, if there is one. -/
def joined (clause : List String) : List String :=
  if clause = [] then [] else [" ".intercalate clause]

theorem flatMap_joined_eq_nil {clauses : List (List String)} :
    clauses.flatMap joined = [] ↔ clauses.flatten = [] := by
  simp only [List.flatMap_eq_nil_iff, List.flatten_eq_nil_iff, joined, ite_eq_left_iff,
    List.cons_ne_nil, imp_false, not_not]

/-- Clauses are written like their words in turn. -/
theorem intercalate_joined (clauses : List (List String)) :
    " ".intercalate (clauses.flatMap joined) = " ".intercalate clauses.flatten := by
  induction clauses with
  | nil => rfl
  | cons clause clauses ih =>
    rw [List.flatMap_cons, List.flatten_cons]
    by_cases absent : clause = []
    · rw [joined, if_pos absent, absent]
      exact ih
    · rw [joined, if_neg absent]
      by_cases rest : clauses.flatten = []
      · rw [rest, flatMap_joined_eq_nil.mpr rest, List.append_nil, List.append_nil,
          String.intercalate_singleton]
      · rw [String.intercalate_append_of_ne_nil (by simp) (flatMap_joined_eq_nil.not.mpr rest),
          String.intercalate_append_of_ne_nil absent rest, String.intercalate_singleton, ih]

end Tablewright
