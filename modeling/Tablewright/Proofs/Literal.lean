import Mathlib.Data.List.Basic
import Tablewright.Literal

/-! # Reading literals back

The server takes a literal apart by rules of its own: two marks stand for one, and a backslash makes
the next character an escape, so that a mark after it does not close the literal. Literals are
written without regard to backslashes. A text is read back exactly if each of its backslashes stands
before one of the two characters whose escapes keep the backslash.
-/

namespace Tablewright

/-- The backslash. -/
def backslash : Char := '\x5c'

/-- What a backslash and the character after it stand for. The wildcards of patterns keep their
backslash, and a character without a meaning of its own stands for itself. -/
def escaped (char : Char) : List Char :=
  match char with
  | '0' => ['\x00']
  | 'b' => ['\x08']
  | 'n' => ['\x0a']
  | 'r' => ['\x0d']
  | 't' => ['\x09']
  | 'Z' => ['\x1a']
  | '%' => [backslash, '%']
  | '_' => [backslash, '_']
  | other => [other]

/-- Reads a literal after its opening mark: its value, and what is left after the closing mark. -/
def readBody : List Char → Option (List Char × List Char)
  | [] => none
  | [char] => if char = Text.singleMark then some ([], []) else none
  | first :: second :: rest =>
    if first = Text.singleMark then
      if second = Text.singleMark then
        (readBody rest).map fun (value, left) => (Text.singleMark :: value, left)
      else some ([], second :: rest)
    else if first = backslash then
      (readBody rest).map fun (value, left) => (escaped second ++ value, left)
    else (readBody (second :: rest)).map fun (value, left) => (first :: value, left)

/-- Reads a literal: its value, and what is left of the statement. -/
def readLiteral? : List Char → Option (List Char × List Char)
  | char :: rest => if char = Text.singleMark then readBody rest else none
  | [] => none

/-- Whether every backslash of a text stands before a character whose escape keeps it. -/
def KeepsBackslashes (text : List Char) : Prop :=
  ∀ before after, text = before ++ backslash :: after →
    after.head? = some '%' ∨ after.head? = some '_'

theorem keepsBackslashes_cons {char : Char} {text : List Char} :
    KeepsBackslashes (char :: text) ↔
      (char = backslash → text.head? = some '%' ∨ text.head? = some '_') ∧
        KeepsBackslashes text := by
  constructor
  · intro keeps
    refine ⟨?_, fun before after split => keeps (char :: before) after (by rw [split]; rfl)⟩
    rintro rfl
    exact keeps [] text rfl
  · rintro ⟨first, rest⟩ before after split
    cases before with
    | nil =>
      obtain ⟨rfl, rfl⟩ := List.cons.inj split
      exact first rfl
    | cons other before =>
      obtain ⟨-, split⟩ := List.cons.inj split
      exact rest before after split

/-! ## Reading what was written -/

@[simp] theorem doubleMarks_nil : doubleMarks [] = [] := rfl

@[simp] theorem doubleMarks_mark (text : List Char) :
    doubleMarks (Text.singleMark :: text) =
      Text.singleMark :: Text.singleMark :: doubleMarks text := rfl

theorem doubleMarks_other {char : Char} (other : char ≠ Text.singleMark) (text : List Char) :
    doubleMarks (char :: text) = char :: doubleMarks text := by
  simp [doubleMarks, other]

theorem doubleMarks_append (text more : List Char) :
    doubleMarks (text ++ more) = doubleMarks text ++ doubleMarks more :=
  List.flatMap_append

/-- A mark is read back from two marks. -/
theorem readBody_mark (rest : List Char) :
    readBody (Text.singleMark :: Text.singleMark :: rest) =
      (readBody rest).map fun (value, left) => (Text.singleMark :: value, left) := by
  simp [readBody]

theorem readBody_escape (char : Char) (rest : List Char) :
    readBody (backslash :: char :: rest) =
      (readBody rest).map fun (value, left) => (escaped char ++ value, left) := by
  rw [readBody, if_neg (by decide), if_pos rfl]

theorem readBody_other {char : Char} (mark : char ≠ Text.singleMark) (escape : char ≠ backslash)
    {rest : List Char} (more : rest ≠ []) :
    readBody (char :: rest) = (readBody rest).map fun (value, left) => (char :: value, left) := by
  cases rest with
  | nil => exact absurd rfl more
  | cons second rest => rw [readBody, if_neg mark, if_neg escape]

/-- An escape keeps its backslash, or stands for one character. Only a backslash stands for one. -/
theorem escaped_cases (char : Char) :
    (char = '%' ∨ char = '_') ∧ escaped char = [backslash, char] ∨
      ∃ single, escaped char = [single] ∧ (single = backslash → char = backslash) := by
  unfold escaped
  split
  case h_7 => exact .inl ⟨.inl rfl, rfl⟩
  case h_8 => exact .inl ⟨.inr rfl, rfl⟩
  case h_9 => exact .inr ⟨char, rfl, id⟩
  all_goals exact .inr ⟨_, rfl, fun same => absurd same (by decide)⟩

theorem escaped_kept {char : Char} (kept : char = '%' ∨ char = '_') :
    escaped char = [backslash, char] := by
  rcases kept with rfl | rfl <;> rfl

theorem length_doubleMarks_escaped (char : Char) : (doubleMarks (escaped char)).length ≤ 2 := by
  rcases escaped_cases char with ⟨rfl | rfl, same⟩ | ⟨single, same, -⟩
  · rw [same]
    decide
  · rw [same]
    decide
  · rw [same]
    by_cases mark : single = Text.singleMark <;> simp [doubleMarks, mark]

/-- A reading that goes on from another takes its value from that. -/
private theorem read_of_map {read : Option (List Char × List Char)} {value left : List Char}
    (change : List Char → List Char)
    (mapped : (read.map fun (value, left) => (change value, left)) = some (value, left)) :
    ∃ inner, read = some (inner, left) ∧ change inner = value := by
  obtain ⟨⟨inner, rest⟩, found, same⟩ := Option.map_eq_some_iff.mp mapped
  obtain ⟨rfl, rfl⟩ := Prod.mk.inj same
  exact ⟨inner, found, rfl⟩

/-- What is read is shorter than what it is read from, even when its marks are doubled again. -/
theorem length_lt_of_readBody {text value left : List Char}
    (read : readBody text = some (value, left)) :
    (doubleMarks value).length + left.length < text.length := by
  induction text using readBody.induct generalizing value left with
  | case1 => simp [readBody] at read
  | case2 =>
    simp only [readBody, if_true, Option.some.injEq, Prod.mk.injEq] at read
    obtain ⟨rfl, rfl⟩ := read
    simp
  | case3 char mark => simp [readBody, mark] at read
  | case4 rest ih =>
    rw [readBody_mark] at read
    obtain ⟨inner, further, rfl⟩ := read_of_map (Text.singleMark :: ·) read
    have bound := ih further
    simp only [doubleMarks_mark, List.length_cons]
    omega
  | case5 second rest mark =>
    rw [readBody, if_pos rfl, if_neg mark] at read
    simp only [Option.some.injEq, Prod.mk.injEq] at read
    obtain ⟨rfl, rfl⟩ := read
    simp
  | case6 second rest mark ih =>
    rw [readBody_escape] at read
    obtain ⟨inner, further, rfl⟩ := read_of_map (escaped second ++ ·) read
    have bound := ih further
    have escape := length_doubleMarks_escaped second
    simp only [doubleMarks_append, List.length_append, List.length_cons]
    omega
  | case7 first second rest mark escape ih =>
    rw [readBody, if_neg mark, if_neg escape] at read
    obtain ⟨inner, further, rfl⟩ := read_of_map (first :: ·) read
    have bound := ih further
    rw [doubleMarks_other mark, List.length_cons, List.length_cons]
    omega

/-- A written text that keeps its backslashes is read back up to its closing mark. -/
theorem readBody_doubleMarks : (text : List Char) → KeepsBackslashes text →
    readBody (doubleMarks text ++ [Text.singleMark]) = some (text, [])
  | [], _ => by simp [readBody]
  | char :: text, keeps => by
    obtain ⟨escapes, rest⟩ := keepsBackslashes_cons.mp keeps
    by_cases mark : char = Text.singleMark
    · subst mark
      have ih := readBody_doubleMarks text rest
      rw [doubleMarks_mark, List.cons_append, List.cons_append, readBody_mark, ih]
      rfl
    · rw [doubleMarks_other mark, List.cons_append]
      by_cases slash : char = backslash
      · -- The escaped character is neither a mark nor a backslash, so the two are read at once.
        subst slash
        match text, escapes rfl, rest with
        | next :: text, kept, rest =>
          have kept : next = '%' ∨ next = '_' := by simpa using kept
          have other : next ≠ Text.singleMark := by rcases kept with rfl | rfl <;> decide
          have ih := readBody_doubleMarks text (keepsBackslashes_cons.mp rest).2
          rw [doubleMarks_other other, List.cons_append, readBody_escape, ih, escaped_kept kept]
          rfl
      · have ih := readBody_doubleMarks text rest
        rw [readBody_other mark slash (by simp), ih]
        rfl

/-- A backslash is read back only from an escape that keeps it. If the next character were a second
backslash, the two would be read as one, and too little would be left for the rest. -/
private theorem kept_of_readBody_escape {next : Char} {text : List Char}
    (read : readBody (backslash :: (doubleMarks (next :: text) ++ [Text.singleMark])) =
      some (backslash :: next :: text, [])) :
    (next = '%' ∨ next = '_') ∧
      readBody (doubleMarks text ++ [Text.singleMark]) = some (text, []) := by
  by_cases mark : next = Text.singleMark
  · subst mark
    rw [doubleMarks_mark, List.cons_append, readBody_escape] at read
    obtain ⟨inner, -, same⟩ := read_of_map (escaped Text.singleMark ++ ·) read
    exact absurd (List.head_eq_of_cons_eq same) (by decide)
  · rw [doubleMarks_other mark, List.cons_append, readBody_escape] at read
    obtain ⟨inner, further, same⟩ := read_of_map (escaped next ++ ·) read
    rcases escaped_cases next with ⟨kept, stands⟩ | ⟨single, stands, slash⟩
    · simp only [stands, List.cons_append, List.nil_append, List.cons.injEq, true_and] at same
      exact ⟨kept, same ▸ further⟩
    · simp only [stands, List.cons_append, List.nil_append, List.cons.injEq] at same
      have bound := length_lt_of_readBody further
      rw [same.2, slash same.1, doubleMarks_other (by decide)] at bound
      simp at bound

/-- What is read back has kept its backslashes. -/
theorem keepsBackslashes_of_readBody : (text : List Char) →
    readBody (doubleMarks text ++ [Text.singleMark]) = some (text, []) → KeepsBackslashes text
  | [], _ => fun before after split => by simp at split
  | char :: text, read => by
    rw [keepsBackslashes_cons]
    by_cases mark : char = Text.singleMark
    · subst mark
      rw [doubleMarks_mark, List.cons_append, List.cons_append, readBody_mark] at read
      obtain ⟨inner, further, same⟩ := read_of_map (Text.singleMark :: ·) read
      rw [List.tail_eq_of_cons_eq same] at further
      exact ⟨fun slash => absurd slash (by decide), keepsBackslashes_of_readBody _ further⟩
    · rw [doubleMarks_other mark, List.cons_append] at read
      by_cases slash : char = backslash
      · subst slash
        match text with
        | [] => simp [readBody_escape, readBody] at read
        | next :: text =>
          obtain ⟨kept, rest⟩ := kept_of_readBody_escape read
          have other : next ≠ backslash := by rcases kept with rfl | rfl <;> decide
          refine ⟨fun _ => by simpa using kept, keepsBackslashes_cons.mpr ?_⟩
          exact ⟨fun same => absurd same other, keepsBackslashes_of_readBody text rest⟩
      · rw [readBody_other mark slash (by simp)] at read
        obtain ⟨inner, further, same⟩ := read_of_map (char :: ·) read
        rw [List.tail_eq_of_cons_eq same] at further
        exact ⟨fun same => absurd same slash, keepsBackslashes_of_readBody _ further⟩

/-- A text is read back from its literal, and the literal is read to its end, exactly if every
backslash of the text stands before a character whose escape keeps it. -/
theorem quoteLiteral_read_iff (text : String) :
    readLiteral? (quoteLiteral text).toList = some (text.toList, []) ↔
      KeepsBackslashes text.toList := by
  have opened : readLiteral? (quoteLiteral text).toList =
      readBody (doubleMarks text.toList ++ [Text.singleMark]) := by
    simp [quoteLiteral, readLiteral?]
  rw [opened]
  exact ⟨keepsBackslashes_of_readBody _, readBody_doubleMarks _⟩

/-- The literal of a lone backslash is not closed: its last mark is escaped. -/
theorem quoteLiteral_backslash_unread :
    readLiteral? (quoteLiteral "\\").toList = none ∧
      readLiteral? (quoteLiteral "\\").toList ≠ some ("\\".toList, []) := by
  decide

/-! ## Texts told apart -/

/-- A character stays where it is, with a second mark behind it if it is one. -/
theorem doubleMarks_cons (char : Char) (text : List Char) :
    doubleMarks (char :: text) =
      char :: ((if char = Text.singleMark then [Text.singleMark] else []) ++ doubleMarks text) := by
  by_cases mark : char = Text.singleMark
  · rw [mark, doubleMarks_mark, if_pos rfl]
    rfl
  · rw [doubleMarks_other mark, if_neg mark]
    rfl

/-- Different texts differ after their marks have been doubled. -/
theorem doubleMarks_inj {text other : List Char} (same : doubleMarks text = doubleMarks other) :
    text = other := by
  induction text generalizing other with
  | nil =>
    cases other with
    | nil => rfl
    | cons second other => cases same.trans (doubleMarks_cons second other)
  | cons first text ih =>
    cases other with
    | nil => cases (doubleMarks_cons first text).symm.trans same
    | cons second other =>
      rw [doubleMarks_cons, doubleMarks_cons] at same
      obtain ⟨rfl, behind⟩ := List.cons.inj same
      rw [ih (List.append_cancel_left behind)]

/-- A literal shows its marks, and so is told from whatever has none. -/
theorem singleMark_mem_quoteLiteral (text : String) :
    Text.singleMark ∈ (quoteLiteral text).toList := by
  rw [quoteLiteral, String.toList_ofList]
  exact List.mem_cons_self

/-- Different texts have different literals. -/
theorem quoteLiteral_inj {text other : String} (same : quoteLiteral text = quoteLiteral other) :
    text = other := by
  have bodies := (List.cons.inj (String.ofList_inj.mp same)).2
  exact String.toList_inj.mp (doubleMarks_inj (List.append_cancel_right bodies))

/-- Different names are different between their marks. -/
theorem quoteName_inj {name other : String} (same : quoteName name = quoteName other) :
    name = other := by
  rw [quoteName, quoteName, String.append_left_inj, String.append_right_inj] at same
  exact same

end Tablewright
