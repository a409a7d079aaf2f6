import Mathlib.Data.List.Infix
import Tablewright.Text.Quoted
import Tablewright.Text.Search

/-! # Finding phrases in quoted text

Quoting a text puts marks around it and escapes before its invisible characters. A phrase is made of
visible characters that are never escaped, and does not begin like anything that an escape is made
of. So it is found in a quoted text exactly if it is found in the text, and in a list of texts
exactly if it is found in one of them.
-/

namespace Tablewright.Text

theorem occursIn_iff {part chars : List Char} : occursIn part chars = true ↔ part <:+: chars := by
  induction chars with
  | nil => simp [occursIn]
  | cons char chars ih =>
    rw [occursIn, Bool.or_eq_true, List.isPrefixOf_iff_prefix, ih, List.infix_cons_iff]

theorem contains_iff {text part : String} :
    contains text part = true ↔ part.toList <:+: text.toList :=
  occursIn_iff

section Infix

variable {part before after : List Char} {char first : Char}

/-- What does not hold a character is found before it or after it. -/
theorem infix_append_cons_iff (absent : char ∉ part) :
    part <:+: before ++ char :: after ↔ part <:+: before ∨ part <:+: after := by
  constructor
  · intro found
    rcases List.infix_append_iff.mp found with
      early | late | ⟨start, stop, rfl, ends, begins⟩
    · exact .inl early
    · rcases List.infix_cons_iff.mp late with begins | late
      · rcases List.prefix_cons_iff.mp begins with rfl | ⟨rest, rfl, -⟩
        · exact .inl List.nil_infix
        · exact absurd List.mem_cons_self absent
      · exact .inr late
    · rcases List.prefix_cons_iff.mp begins with rfl | ⟨rest, rfl, -⟩
      · rw [List.append_nil]
        exact .inl ends.isInfix
      · exact absurd (List.mem_append_right start List.mem_cons_self) absent
  · rintro (early | late)
    · exact early.trans (List.prefix_append before _).isInfix
    · exact late.trans ((List.suffix_cons char after).trans (List.suffix_append before _)).isInfix

/-- What begins with another character is not found where that is missing. -/
theorem infix_append_iff_of_not_mem (absent : first ∉ before) :
    first :: part <:+: before ++ after ↔ first :: part <:+: after := by
  induction before with
  | nil => rfl
  | cons char before ih =>
    obtain ⟨other, rest⟩ := not_or.mp (List.mem_cons.not.mp absent)
    rw [List.cons_append, List.infix_cons_iff, ih rest, List.cons_prefix_cons]
    exact or_iff_right fun ⟨same, _⟩ => other same

end Infix

/-! ## Escapes -/

/-- The digits of escapes. -/
def escapeDigits : List Char :=
  "0123456789abcdef".toList

/-- What stands after the backslash of an escape, apart from characters that are quoted so and the
letter before eight digits. -/
def escapeChars : List Char :=
  "nrtxu".toList ++ escapeDigits

/-- The characters that a phrase is free of. -/
def phraseless : List Char :=
  ['\\', singleMark, doubleMark, ',', '(', ')']

/-- Whether the characters are a phrase, which quoting leaves alone and does not make up. -/
structure IsPhrase (part : List Char) : Prop where
  visible : ∀ char ∈ part, isPrintable char = true
  free : ∀ char ∈ part, char ∉ phraseless
  begins : ∃ first second rest, part = first :: second :: rest ∧ first ∉ ' ' :: escapeChars ∧
    second ∉ escapeDigits

/-- The characters from the space to the tilde are visible. -/
theorem isPrintable_of_ascii {char : Char} (within : 0x20 ≤ char.toNat ∧ char.toNat < 0x7f) :
    isPrintable char = true := by
  have apart : ∀ range ∈ unprintableRanges, range.2 < 0x20 ∨ 0x7f ≤ range.1 := by decide +kernel
  rw [isPrintable, Bool.not_eq_true', ← Bool.not_eq_true, inRanges_iff]
  rintro ⟨range, member, above, below⟩
  rcases apart range member with early | late <;> omega

theorem mem_hexDigits {width value : Nat} {char : Char} (member : char ∈ hexDigits width value) :
    char ∈ escapeDigits := by
  have digits : ∀ digit < 16, Nat.digitChar digit ∈ escapeDigits := by decide
  induction width generalizing value with
  | zero => cases member
  | succ width ih =>
    rcases List.mem_append.mp member with earlier | last
    · exact ih earlier
    · rw [List.mem_singleton.mp last]
      exact digits _ (Nat.mod_lt _ (by decide))

/-- A visible character that needs no escape stands for itself. -/
theorem quotedChar_eq_self {mark char : Char} (visible : isPrintable char = true)
    (unescaped : char ≠ '\\' ∧ char ≠ mark) : quotedChar mark char = [char] := by
  have line : char ≠ '\n' := by rintro rfl; revert visible; decide +kernel
  have carriage : char ≠ '\r' := by rintro rfl; revert visible; decide +kernel
  have tab : char ≠ '\t' := by rintro rfl; revert visible; decide +kernel
  simp [quotedChar, shortEscape?, unescaped, line, carriage, tab, visible]

/-- A character of a quoted text is itself, or an escape: after the backslash there is a character
that is quoted with it, or digits and the letter that goes before them. -/
theorem quotedChar_cases (mark char : Char) :
    quotedChar mark char = [char] ∨
      (∃ escape, quotedChar mark char = '\\' :: escape ∧
        ∀ later ∈ escape, later ∈ '\\' :: mark :: escapeChars) ∨
      ∃ digits, quotedChar mark char = '\\' :: 'U' :: digits ∧ digits ≠ [] ∧
        ∀ digit ∈ digits, digit ∈ escapeDigits := by
  have letters : ∀ letter ∈ ['n', 'r', 't', 'x', 'u'], letter ∈ escapeChars := by
    simp [escapeChars]
  have numbered {letter : Char} (known : letter ∈ escapeChars) (width value : Nat) :
      ∀ later ∈ letter :: hexDigits width value, later ∈ '\\' :: mark :: escapeChars := by
    refine List.forall_mem_cons.mpr ⟨?_, fun later member => ?_⟩
    · exact List.mem_cons_of_mem _ (List.mem_cons_of_mem _ known)
    · refine List.mem_cons_of_mem _ (List.mem_cons_of_mem _ ?_)
      exact List.mem_append_right _ (mem_hexDigits member)
  unfold quotedChar
  split
  · rename_i escape short
    unfold shortEscape? at short
    split_ifs at short with special <;> cases short
    · refine .inr (.inl ⟨[char], rfl, ?_⟩)
      rcases special with rfl | rfl <;> simp
    · exact .inr (.inl ⟨['n'], rfl, by simp [letters]⟩)
    · exact .inr (.inl ⟨['r'], rfl, by simp [letters]⟩)
    · exact .inr (.inl ⟨['t'], rfl, by simp [letters]⟩)
  · split
    · exact .inl rfl
    · unfold codeEscape
      split_ifs
      · exact .inr (.inl ⟨_, rfl, numbered (letters 'x' (by decide)) 2 _⟩)
      · exact .inr (.inl ⟨_, rfl, numbered (letters 'u' (by decide)) 4 _⟩)
      · refine .inr (.inr ⟨_, rfl, ?_, fun _ => mem_hexDigits⟩)
        exact List.ne_nil_of_length_pos (by simp [length_hexDigits])

/-! ## Phrases -/

variable {part : List Char}

/-- The marks that enclose quoted texts are in no phrase. -/
theorem enclosingMark_mem (chars : List Char) : enclosingMark chars ∈ phraseless := by
  unfold enclosingMark
  split <;> decide

namespace IsPhrase

variable {mark : Char}

theorem not_mem (phrase : IsPhrase part) {char : Char} (known : char ∈ phraseless) : char ∉ part :=
  fun member => phrase.free char member known

/-- The characters of a phrase stand for themselves in quoted texts. -/
theorem quotedChar_eq (phrase : IsPhrase part) (known : mark ∈ phraseless) {char : Char}
    (member : char ∈ part) : quotedChar mark char = [char] := by
  refine quotedChar_eq_self (phrase.visible char member) ⟨?_, ?_⟩
  · rintro rfl
    exact phrase.not_mem (by decide) member
  · rintro rfl
    exact phrase.not_mem known member

end IsPhrase

/-- Characters that stand for themselves begin a quoted text exactly if they begin the text. -/
theorem prefix_flatMap_quotedChar {mark : Char}
    (alone : ∀ char ∈ part, quotedChar mark char = [char] ∧ char ≠ '\\') (chars : List Char) :
    part <+: chars.flatMap (quotedChar mark) ↔ part <+: chars := by
  induction part generalizing chars with
  | nil => simp
  | cons char part ih =>
    obtain ⟨⟨own, unescaped⟩, others⟩ := List.forall_mem_cons.mp alone
    cases chars with
    | nil => simp
    | cons next chars =>
      rw [List.flatMap_cons, List.cons_prefix_cons]
      rcases quotedChar_cases mark next with same | escaped
      · rw [same, List.singleton_append, List.cons_prefix_cons, ih others]
      · obtain ⟨rest, started⟩ : ∃ rest, quotedChar mark next = '\\' :: rest := by
          rcases escaped with ⟨escape, same, -⟩ | ⟨digits, same, -⟩ <;> exact ⟨_, same⟩
        rw [started, List.cons_append, List.cons_prefix_cons]
        refine iff_of_false (fun both => unescaped both.1) fun both => unescaped ?_
        have whole : [char] = '\\' :: rest := by rw [← own, both.1, started]
        exact (List.cons.inj whole).1

/-- No phrase is found at the place of an escape. -/
theorem IsPhrase.infix_quotedChar_append (phrase : IsPhrase part) {mark next : Char}
    (known : mark ∈ phraseless) (escaped : quotedChar mark next ≠ [next]) (rest : List Char) :
    part <:+: quotedChar mark next ++ rest ↔ part <:+: rest := by
  obtain ⟨first, second, further, rfl, starts, follows⟩ := phrase.begins
  have letterless : first ∉ escapeChars := (not_or.mp (List.mem_cons.not.mp starts)).2
  have unmarked {char : Char} (member : char ∈ phraseless) : first ≠ char := by
    rintro rfl
    exact phrase.not_mem member List.mem_cons_self
  rcases quotedChar_cases mark next with same | ⟨escape, same, each⟩ | ⟨digits, same, some, each⟩
  · exact absurd same escaped
  · rw [same]
    refine infix_append_iff_of_not_mem fun member => ?_
    rcases List.mem_cons.mp member with rfl | member
    · exact unmarked (by decide) rfl
    · have later := each first member
      simp only [List.mem_cons] at later
      rcases later with rfl | rfl | later
      · exact unmarked (by decide) rfl
      · exact unmarked known rfl
      · exact letterless later
  · obtain ⟨digit, digits, rfl⟩ := List.exists_cons_of_ne_nil some
    obtain ⟨here, others⟩ := List.forall_mem_cons.mp each
    -- A phrase may begin with the letter of an escape, but a digit comes after that.
    have apart : ¬ first :: second :: further <+: 'U' :: digit :: digits ++ rest := by
      rw [List.cons_append, List.cons_append, List.cons_prefix_cons, List.cons_prefix_cons]
      rintro ⟨-, rfl, -⟩
      exact follows here
    have backslash : first ∉ ['\\'] := by simpa using unmarked (by decide)
    have numerals : first ∉ digit :: digits := fun member =>
      letterless (List.mem_append_right _ (each first member))
    have opened : '\\' :: 'U' :: digit :: digits ++ rest =
        ['\\'] ++ 'U' :: (digit :: digits ++ rest) := rfl
    rw [same, opened, infix_append_iff_of_not_mem backslash, List.infix_cons_iff,
      ← List.cons_append, or_iff_right apart, infix_append_iff_of_not_mem numerals]

/-- A phrase is found among quoted characters exactly if it is found among the characters. -/
theorem IsPhrase.infix_flatMap_quotedChar (phrase : IsPhrase part) {mark : Char}
    (known : mark ∈ phraseless) (chars : List Char) :
    part <:+: chars.flatMap (quotedChar mark) ↔ part <:+: chars := by
  have alone : ∀ char ∈ part, quotedChar mark char = [char] ∧ char ≠ '\\' := fun char member =>
    ⟨phrase.quotedChar_eq known member, fun same => phrase.not_mem (by decide) (same ▸ member)⟩
  induction chars with
  | nil => rfl
  | cons next chars ih =>
    rw [List.flatMap_cons]
    by_cases own : quotedChar mark next = [next]
    · have begins := prefix_flatMap_quotedChar alone (next :: chars)
      rw [List.flatMap_cons, own, List.singleton_append] at begins
      rw [own, List.singleton_append, List.infix_cons_iff, List.infix_cons_iff]
      exact or_congr begins ih
    · rw [phrase.infix_quotedChar_append known own, List.infix_cons_iff]
      refine ih.trans (or_iff_right fun begins => own ?_).symm
      obtain ⟨first, second, further, rfl, -⟩ := phrase.begins
      obtain ⟨rfl, -⟩ := List.cons_prefix_cons.mp begins
      exact phrase.quotedChar_eq known List.mem_cons_self

/-- A phrase is not nothing. -/
theorem IsPhrase.not_infix_nil (phrase : IsPhrase part) : ¬ part <:+: [] := by
  obtain ⟨first, second, further, rfl, -⟩ := phrase.begins
  simp

/-- A phrase is found in a quoted text exactly if it is found in the text. -/
theorem IsPhrase.infix_quoted (phrase : IsPhrase part) (text : String) :
    part <:+: (quoted text).toList ↔ part <:+: text.toList := by
  have known := enclosingMark_mem text.toList
  have absent := phrase.not_mem known
  rw [quoted, String.toList_ofList, infix_append_cons_iff absent, or_iff_left phrase.not_infix_nil,
    ← List.nil_append (_ :: _), infix_append_cons_iff absent, or_iff_right phrase.not_infix_nil,
    phrase.infix_flatMap_quotedChar known]

/-- A phrase is found in a list of texts exactly if it is found in one of them. -/
theorem IsPhrase.infix_intercalate (phrase : IsPhrase part) :
    (texts : List String) →
      (part <:+: (", ".intercalate texts).toList ↔ ∃ text ∈ texts, part <:+: text.toList)
  | [] => by
    rw [String.intercalate_nil]
    simpa using phrase.not_infix_nil
  | [text] => by simp
  | text :: next :: texts => by
    have rest := phrase.infix_intercalate (next :: texts)
    obtain ⟨first, second, further, rfl, starts, -⟩ := phrase.begins
    have spaceless : first ∉ [' '] := by
      simpa using (not_or.mp (List.mem_cons.not.mp starts)).1
    have comma : (", " : String).toList = ',' :: [' '] := rfl
    rw [String.intercalate_cons_cons, String.toList_append, String.toList_append, comma,
      List.append_assoc, List.cons_append, infix_append_cons_iff (phrase.not_mem (by decide)),
      infix_append_iff_of_not_mem spaceless, rest]
    simp

/-- No phrase is found in the digits of a number. -/
theorem IsPhrase.not_infix_toString (phrase : IsPhrase part) (number : Int) :
    ¬ part <:+: (toString number).toList := by
  have numerals : ∀ code ∈ List.range' 48 10, Char.ofNat code ∈ escapeDigits := by decide
  have digits (count : Nat) : ∀ char ∈ Nat.toDigits 10 count, char ∈ escapeDigits := by
    intro char member
    have digit := Nat.isDigit_of_mem_toDigits (by decide) (by decide) member
    rw [← Char.ofNat_toNat char]
    refine numerals _ (List.mem_range'_1.mpr ?_)
    simp only [Char.isDigit, Bool.and_eq_true, decide_eq_true_eq] at digit
    exact ⟨digit.1, Nat.lt_succ_of_le digit.2⟩
  obtain ⟨first, second, further, rfl, starts, follows⟩ := phrase.begins
  have letterless : first ∉ escapeChars := (not_or.mp (List.mem_cons.not.mp starts)).2
  have missing (count : Nat) : ¬ first :: second :: further <:+: Nat.toDigits 10 count := by
    intro found
    exact letterless (List.mem_append_right _
      (digits count first (found.subset List.mem_cons_self)))
  cases number with
  | ofNat count => simpa [toString, Int.repr] using missing count
  | negSucc count =>
    have signed : (toString (Int.negSucc count)).toList = '-' :: Nat.toDigits 10 (count + 1) := by
      simp [toString, Int.repr]
    rw [signed, List.infix_cons_iff, or_iff_left (missing _), List.cons_prefix_cons]
    rintro ⟨-, begins⟩
    exact follows (digits _ second (begins.subset List.mem_cons_self))

end Tablewright.Text
