import Tablewright.Blueprint.Statement
import Tablewright.Proofs.Statement.Sealed

/-! # Taking a statement apart

What is found outside of names and literals takes a statement apart: the fragments stand between
the first line that opens a parenthesis and the first line that closes one, and a comma at the end
of a line separates them. A statement that was put together from sealed fragments falls apart into
just these.
-/

namespace Tablewright

/-- Cuts a text around the first place outside where one character follows another. -/
def cut (first second : Char) : Place → List Char → Option (List Char × List Char)
  | _, [] => none
  | place, char :: rest =>
    if place = .outside ∧ char = first ∧ rest.head? = some second then some ([], rest.tail)
    else (cut first second (place.next char) rest).map fun (before, after) =>
      (char :: before, after)

/-- Puts characters before the first of several texts. -/
def prepend (chars : List Char) : List (List Char) → List (List Char)
  | [] => [chars]
  | text :: texts => (chars ++ text) :: texts

/-- Splits a text at every place outside where one character follows another. -/
def split (first second : Char) : Place → List Char → List (List Char)
  | _, [] => [[]]
  | _, [char] => [[char]]
  | place, char :: next :: rest =>
    if place = .outside ∧ char = first ∧ next = second then [] :: split first second .outside rest
    else prepend [char] (split first second (place.next char) (next :: rest))

/-- The fragments of a statement: what stands between the first `(` at the end of a line and the
first `)` at the start of one, split after every line that ends with a comma. -/
def fragments? (statement : String) : Option (List String) := do
  let (_, rest) ← cut '(' '\n' .outside statement.toList
  let (body, _) ← cut '\n' ')' .outside rest
  return (split ',' '\n' .outside body).map String.ofList

/-! ## Scanning past sealed texts -/

theorem prepend_append (chars more : List Char) (texts : List (List Char)) :
    prepend (chars ++ more) texts = prepend chars (prepend more texts) := by
  cases texts <;> simp [prepend]

/-- A cut where a line break comes first is not made within a sealed text. -/
theorem cut_break_append (second : Char) {place : Place} {text : List Char}
    (encloses : Encloses '\n' place text) (rest : List Char) :
    cut '\n' second place (text ++ rest) =
      (cut '\n' second .outside rest).map fun (before, after) => (text ++ before, after) := by
  induction text generalizing place with
  | nil =>
    obtain rfl : place = .outside := encloses
    simp
  | cons char text ih =>
    have uncut : ¬ (place = .outside ∧ char = '\n' ∧ (text ++ rest).head? = some second) :=
      fun found => encloses.1 ⟨found.1, found.2.1⟩
    rw [List.cons_append, cut, if_neg uncut, ih encloses.2, Option.map_map]
    rfl

/-- The first of a sealed text and what follows is no line break outside, unless the text is
empty. -/
theorem Encloses.head_append {place : Place} {text rest : List Char}
    (encloses : Encloses '\n' place text)
    (follows : rest.head? ≠ some '\n') :
    place = .outside → (text ++ rest).head? ≠ some '\n' := by
  cases text with
  | nil => exact fun _ => follows
  | cons char text =>
    rintro rfl same
    exact encloses.1 ⟨rfl, Option.some.inj same⟩

/-- A cut where a line break comes second is not made within a sealed text. -/
theorem cut_append_break {first : Char} (bare : Place.next first .outside = .outside)
    {place : Place} {text : List Char} (encloses : Encloses '\n' place text) {rest : List Char}
    (follows : rest.head? ≠ some '\n') :
    cut first '\n' place (text ++ rest) =
      (cut first '\n' .outside rest).map fun (before, after) => (text ++ before, after) := by
  induction text generalizing place with
  | nil =>
    obtain rfl : place = .outside := encloses
    simp
  | cons char text ih =>
    have uncut : ¬ (place = .outside ∧ char = first ∧ (text ++ rest).head? = some '\n') := by
      rintro ⟨rfl, rfl, found⟩
      exact encloses.2.head_append follows bare found
    rw [List.cons_append, cut, if_neg uncut, ih encloses.2, Option.map_map]
    rfl

theorem split_ne_nil (first second : Char) (place : Place) (text : List Char) :
    split first second place text ≠ [] := by
  fun_induction split first second place text with
  | case1 => simp
  | case2 => simp
  | case3 => simp
  | case4 place char next rest uncut ih =>
    cases found : split first second (place.next char) (next :: rest) with
    | nil => exact absurd found ih
    | cons text texts => simp [prepend]

theorem prepend_nil {texts : List (List Char)} (filled : texts ≠ []) : prepend [] texts = texts := by
  cases texts with
  | nil => exact absurd rfl filled
  | cons text texts => rfl

/-- A character that begins no separator belongs to the first of the texts. -/
theorem split_cons {first second : Char} {place : Place} {char : Char} {rest : List Char}
    (uncut : ¬ (place = .outside ∧ char = first ∧ rest.head? = some second)) :
    split first second place (char :: rest) =
      prepend [char] (split first second (place.next char) rest) := by
  cases rest with
  | nil => rfl
  | cons next rest => rw [split, if_neg (by simpa using uncut)]

/-- A split where a line break comes second is not made within a sealed text. -/
theorem split_append_break {first : Char} (bare : Place.next first .outside = .outside)
    {place : Place} {text : List Char} (encloses : Encloses '\n' place text) {rest : List Char}
    (follows : rest.head? ≠ some '\n') :
    split first '\n' place (text ++ rest) =
      prepend text (split first '\n' .outside rest) := by
  induction text generalizing place with
  | nil =>
    obtain rfl : place = .outside := encloses
    exact (prepend_nil (split_ne_nil first '\n' .outside rest)).symm
  | cons char text ih =>
    have uncut : ¬ (place = .outside ∧ char = first ∧ (text ++ rest).head? = some '\n') := by
      rintro ⟨rfl, rfl, found⟩
      exact encloses.2.head_append follows bare found
    rw [List.cons_append, split_cons uncut, ih encloses.2, ← prepend_append]
    rfl

/-! ## Doubled marks -/

/-- A mark that is written twice in a literal stays inside: no cut is made at it or between. -/
theorem cut_doubled {first : Char} (second : Char) (other : first ≠ Text.singleMark)
    (rest : List Char) :
    cut first second .literal (Text.singleMark :: Text.singleMark :: rest) =
      (cut first second .literal rest).map fun (before, after) =>
        (Text.singleMark :: Text.singleMark :: before, after) := by
  have left : Place.literal.next Text.singleMark = .outside := by decide
  have entered : Place.outside.next Text.singleMark = .literal := by decide
  rw [cut, if_neg (by simp), left, cut, if_neg fun found => other found.2.1.symm, entered,
    Option.map_map]
  rfl

theorem split_doubled {first : Char} (second : Char) (other : first ≠ Text.singleMark)
    (rest : List Char) :
    split first second .literal (Text.singleMark :: Text.singleMark :: rest) =
      prepend [Text.singleMark, Text.singleMark] (split first second .literal rest) := by
  have left : Place.literal.next Text.singleMark = .outside := by decide
  have entered : Place.outside.next Text.singleMark = .literal := by decide
  rw [split_cons (by simp), left, split_cons fun found => other found.2.1.symm, entered,
    ← prepend_append]
  rfl

/-! ## Lines of fragments -/

/-- What stands between the fragments of a statement. -/
def fragmentBreak : List Char :=
  [',', '\n']

/-- The lines of a statement that hold its fragments. -/
def fragmentLines (fragments : List String) : List Char :=
  fragmentBreak.intercalate (fragments.map String.toList)

/-- Whether a text can be a fragment: it is sealed, and it does not begin like the end of the
fragments. -/
structure IsFragment (text : String) : Prop where
  isSealed : Sealed text
  opens : text.toList.head?.any (· ≠ ')')

instance IsFragment.decidable (text : String) : Decidable (IsFragment text) :=
  decidable_of_iff (Sealed text ∧ text.toList.head?.any (· ≠ ')'))
    ⟨fun both => ⟨both.1, both.2⟩, fun fragment => ⟨fragment.isSealed, fragment.opens⟩⟩

theorem IsFragment.toList_eq {text : String} (fragment : IsFragment text) :
    ∃ char rest, text.toList = char :: rest ∧ char ≠ ')' := by
  have opens := fragment.opens
  cases found : text.toList with
  | nil => simp [found] at opens
  | cons char rest => exact ⟨char, rest, rfl, by simpa [found] using opens⟩

theorem IsFragment.append {text more : String} (fragment : IsFragment text)
    (further : Sealed more) : IsFragment (text ++ more) := by
  refine ⟨fragment.isSealed.append further, ?_⟩
  obtain ⟨char, rest, found, other⟩ := fragment.toList_eq
  simp [String.toList_append, found, other]

/-- A fragment may be put together from several texts. -/
theorem IsFragment.intercalate {between text : String} (fragment : IsFragment text)
    (joint : Sealed between) {texts : List String} (each : ∀ text ∈ texts, Sealed text) :
    IsFragment (between.intercalate (text :: texts)) := by
  cases texts with
  | nil => simpa using fragment
  | cons next texts =>
    rw [String.intercalate_cons_cons]
    exact (fragment.append joint).append (sealed_intercalate joint each)

theorem fragmentLines_cons_cons (text next : String) (texts : List String) :
    fragmentLines (text :: next :: texts) =
      text.toList ++ ',' :: '\n' :: fragmentLines (next :: texts) := by
  simp only [fragmentLines, List.map_cons, List.intercalate_cons_cons, List.append_assoc]
  rfl

theorem head_fragmentLines {text : String} (fragment : IsFragment text) (texts : List String)
    (rest : List Char) : (fragmentLines (text :: texts) ++ rest).head? ≠ some ')' := by
  obtain ⟨char, others, found, other⟩ := fragment.toList_eq
  cases texts with
  | nil => simpa [fragmentLines, found] using other
  | cons next texts =>
    rw [fragmentLines_cons_cons, found]
    simpa using other

/-- The fragments are read up to the line that closes the parenthesis. -/
theorem cut_fragmentLines (rest : List Char) : (fragments : List String) → fragments ≠ [] →
    (∀ fragment ∈ fragments, IsFragment fragment) →
    cut '\n' ')' .outside (fragmentLines fragments ++ '\n' :: ')' :: rest) =
      some (fragmentLines fragments, rest)
  | [], filled, _ => absurd rfl filled
  | [text], _, each => by
    have encloses := (each text (by simp)).isSealed.encloses
    have single : fragmentLines [text] = text.toList := List.intercalate_singleton
    rw [single, cut_break_append _ encloses]
    simp [cut]
  | text :: next :: texts, _, each => by
    have encloses := (each text (by simp)).isSealed.encloses
    have opens := head_fragmentLines (each next (by simp)) texts ('\n' :: ')' :: rest)
    have ih := cut_fragmentLines rest (next :: texts) (by simp) fun text member =>
      each text (by simp [member])
    rw [fragmentLines_cons_cons, List.append_assoc, cut_break_append _ encloses]
    rw [List.cons_append, List.cons_append, cut, if_neg (by simp), cut,
      if_neg fun found => opens found.2.2]
    simp [Place.next, nameMark, Text.singleMark, ih]

/-- Between fragments, and only there, a line ends with a comma. -/
theorem split_fragmentLines : (fragments : List String) → fragments ≠ [] →
    (∀ fragment ∈ fragments, IsFragment fragment) →
    split ',' '\n' .outside (fragmentLines fragments) = fragments.map String.toList
  | [], filled, _ => absurd rfl filled
  | [text], _, each => by
    have encloses := (each text (by simp)).isSealed.encloses
    have single : fragmentLines [text] = text.toList := List.intercalate_singleton
    have whole : split ',' '\n' .outside (text.toList ++ []) =
        prepend text.toList (split ',' '\n' .outside []) :=
      split_append_break rfl encloses (by simp)
    rw [single, ← List.append_nil text.toList, whole]
    simp [split, prepend]
  | text :: next :: texts, _, each => by
    have encloses := (each text (by simp)).isSealed.encloses
    have ih := split_fragmentLines (next :: texts) (by simp) fun text member =>
      each text (by simp [member])
    rw [fragmentLines_cons_cons, split_append_break rfl encloses (by simp), split, if_pos (by simp),
      ih]
    simp [prepend]

theorem toList_createText (table options : String) (fragments : List String) :
    (createText table options fragments).toList =
      "CREATE TABLE ".toList ++ (quoteName table).toList ++ ' ' :: '(' :: '\n' ::
        (fragmentLines fragments ++ '\n' :: ')' :: ' ' :: options.toList) := by
  have opens : " (\n".toList = [' ', '(', '\n'] := by decide
  have closes : "\n) ".toList = ['\n', ')', ' '] := by decide
  have joint : ",\n".toList = fragmentBreak := by decide
  unfold createText fragmentLines
  simp only [String.toList_append, String.toList_intercalate, opens, closes, joint,
    List.append_assoc]
  rfl

/-- A statement is put together from fragments in just one way. -/
theorem fragments?_createText {table : String} (options : String) {fragments : List String}
    (unmarked : Unmarked table) (filled : fragments ≠ [])
    (each : ∀ fragment ∈ fragments, IsFragment fragment) :
    fragments? (createText table options fragments) = some fragments := by
  have named : Encloses '\n' .outside ("CREATE TABLE ".toList ++ (quoteName table).toList) :=
    Encloses.append (by decide) (sealed_quoteName unmarked).encloses
  have opened (rest : List Char) : cut '(' '\n' .outside (' ' :: '(' :: '\n' :: rest) =
      some ([' '], rest) := by
    simp [cut, Place.next, nameMark, Text.singleMark]
  have bare : Place.next '(' .outside = .outside := by decide
  rw [fragments?, toList_createText, cut_append_break bare named (by simp), opened]
  simp only [Option.map_some, Option.bind_eq_bind, Option.bind_some, Option.pure_def]
  rw [cut_fragmentLines _ _ filled each]
  simp [split_fragmentLines _ filled each]

end Tablewright
