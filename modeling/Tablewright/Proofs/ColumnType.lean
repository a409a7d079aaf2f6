import Tablewright.Proofs.Blueprint.Written
import Tablewright.Proofs.Statement.Sealed

/-! # Declarations of types and defaults

A length or a precision is checked by comparing it with a number, so only numbers pass, and numbers
are written without marks and line breaks. The values of an enumeration and the texts of defaults
are literals. So the declaration of a type and the literal of a default are always sealed, whatever
the texts in them.
-/

namespace Tablewright

/-! ## Numbers -/

theorem plain_zeros (count : Nat) : Plain (List.replicate count '0') :=
  Plain.replicate (by decide) count

theorem plain_sign (negative : Bool) : Plain (if negative then ['-'] else []) := by
  cases negative <;> decide

namespace Binary64

theorem plain_positional {digits : List Char} (plain : Plain digits) (places : Int) :
    Plain (positional digits places) := by
  unfold positional
  split
  · simp [plain_zeros, plain, nameMark, Text.singleMark]
  · split
    · simp [plain_zeros, plain, nameMark, Text.singleMark]
    · simp [plain.take, plain.drop, nameMark, Text.singleMark]

theorem plain_exponentText (exponent : Int) (width : Nat) :
    Plain (exponentText exponent width) := by
  unfold exponentText
  split <;> simp [plain_zeros, plain_toDigits, nameMark, Text.singleMark]

theorem plain_finiteChars (units : Nat) : Plain (finiteChars units) := by
  unfold finiteChars
  split
  · decide
  · have digits := plain_toDigits (shortest units).1
    simp only
    split
    · exact plain_positional digits _
    · refine plain_append.mpr ⟨?_, plain_exponentText _ _⟩
      split
      · rename_i first second rest same
        rw [same] at digits
        simp_all [nameMark, Text.singleMark]
      · exact digits

theorem plain_text (number : Binary64) : Plain number.text.toList := by
  cases number with
  | finite negative units =>
    rw [text, String.toList_ofList]
    exact plain_append.mpr ⟨plain_sign negative, plain_finiteChars units⟩
  | infinite negative => cases negative <;> decide
  | nan => decide

end Binary64

namespace Decimal

theorem plain_finiteChars (coefficient : Nat) (exponent : Int) :
    Plain (finiteChars coefficient exponent) := by
  unfold finiteChars
  extract_lets digits places point mantissa shift
  have plain : Plain mantissa := by
    unfold mantissa
    split
    · simp [plain_zeros, digits, plain_toDigits, nameMark, Text.singleMark]
    · split
      · simp [plain_zeros, digits, plain_toDigits]
      · simp [Plain.take, Plain.drop, digits, plain_toDigits, nameMark, Text.singleMark]
  split
  · exact plain
  · split <;> simp [plain, plain_toDigits, nameMark, Text.singleMark]

theorem plain_text (number : Decimal) : Plain number.text.toList := by
  cases number with
  | finite negative coefficient exponent =>
    rw [text, String.toList_ofList]
    exact plain_append.mpr ⟨plain_sign negative, plain_finiteChars coefficient exponent⟩
  | infinite negative => cases negative <;> decide
  | nan negative signaling payload =>
    have digits : Plain (if payload = 0 then "" else toString payload).toList := by
      split
      · decide
      · simp [plain_toDigits]
    rw [text, String.toList_append, String.toList_append, plain_append, plain_append]
    refine ⟨⟨?_, ?_⟩, digits⟩
    · cases negative <;> decide
    · cases signaling <;> decide

end Decimal

theorem plain_toString (number : Int) : Plain (toString number).toList := by
  cases number with
  | ofNat number => simp [toString, Int.repr, plain_toDigits]
  | negSucc number => simp [toString, Int.repr, plain_toDigits, nameMark, Text.singleMark]

/-- Numbers and truth values are written without marks and line breaks. -/
theorem Value.plain_plainForm {value : Value} (measured : value.magnitude?.isSome) :
    Plain value.plainForm.toList := by
  cases value with
  | bool value => cases value <;> decide
  | int number => exact plain_toString number
  | float number => exact number.plain_text
  | decimal number => exact number.plain_text
  | _ => simp [magnitude?] at measured

theorem Value.sealed_shown {value : Value} (measured : value.magnitude?.isSome) {text : String}
    (written : value.shown = .ok text) : Sealed text := by
  obtain ⟨-, rfl⟩ := Value.shown_eq_ok.mp written
  exact ⟨(plain_plainForm measured).encloses⟩

/-- Only numbers can be compared with a number. -/
theorem Value.magnitude?_of_before {value : Value} {bound : Int} {less : Bool}
    (compared : value.before (.int bound) = .ok less) : value.magnitude?.isSome := by
  cases value <;> simp [before, magnitude?] at compared ⊢

/-! ## Types -/

namespace ColumnType

/-- Whether the declaration of a type is sealed, whatever says that it is unsigned. -/
def IsSealed (type : ColumnType) : Prop :=
  ∀ change text, (type.mapSign change).sql = .ok text → Sealed text

theorem sealed_withSign (size : IntegerSize) (unsigned : Value) :
    Sealed (withSign size unsigned) := by
  unfold withSign
  split <;> cases size <;> decide

theorem integer_isSealed (size : IntegerSize) (unsigned : Value) :
    (integer size unsigned).IsSealed := by
  rintro change _ ⟨⟩
  exact sealed_withSign size (change unsigned)

theorem bigInteger_isSealed (unsigned : Value) : (bigInteger unsigned).IsSealed := by
  rintro change _ ⟨⟩
  exact sealed_withSign .big (change unsigned)

/-- A type without a sign has only one declaration. -/
theorem isSealed_of_signless {type : ColumnType} (signless : ∀ change, type.mapSign change = type)
    (declared : ∀ text, type.sql = .ok text → Sealed text) : type.IsSealed := by
  intro change
  rw [signless change]
  exact declared

/-- A type with one fixed declaration is sealed if that is. -/
theorem isSealed_of_fixed {type : ColumnType} (signless : ∀ change, type.mapSign change = type)
    {text : String} (declared : type.sql = .ok text) (seals : Sealed text) : type.IsSealed := by
  refine isSealed_of_signless signless fun other same => ?_
  exact Except.ok.inj (declared.symm.trans same) ▸ seals

theorem measured_of_checkLength {length : Value} (checked : checkLength length = .ok ()) :
    length.magnitude?.isSome := by
  obtain ⟨less, compared, -⟩ := bind_eq_ok.mp checked
  exact Value.magnitude?_of_before compared

private theorem sealed_sized {opening : String} (opens : Sealed opening) {length : Value}
    (measured : length.magnitude?.isSome) {size : String} (written : length.shown = .ok size) :
    Sealed (opening ++ size ++ ")") := by
  have closes : Sealed ")" := by decide
  exact (opens.append (Value.sealed_shown measured written)).append closes

theorem ofLength_isSealed {length : Value} {type : ColumnType}
    (made : ofLength length = .ok type) : type.IsSealed := by
  obtain ⟨_, checked, same⟩ := bind_eq_ok.mp made
  obtain rfl := Except.ok.inj same
  refine isSealed_of_signless (fun _ => rfl) fun text declared => ?_
  obtain ⟨size, written, declared⟩ := bind_eq_ok.mp declared
  obtain rfl := Except.ok.inj declared
  exact sealed_sized (by decide) (measured_of_checkLength checked) written

theorem ofFixedLength_isSealed {length : Value} {type : ColumnType}
    (made : ofFixedLength length = .ok type) : type.IsSealed := by
  obtain ⟨_, checked, same⟩ := bind_eq_ok.mp made
  obtain rfl := Except.ok.inj same
  refine isSealed_of_signless (fun _ => rfl) fun text declared => ?_
  obtain ⟨size, written, declared⟩ := bind_eq_ok.mp declared
  obtain rfl := Except.ok.inj declared
  exact sealed_sized (by decide) (measured_of_checkLength checked) written

private theorem refusedShape (precision scale : Value) {type : ColumnType} :
    (do throw (.invalidInput (.decimalShape (← precision.shown) (← scale.shown))) :
      Except Fault ColumnType) ≠ .ok type := by
  intro made
  obtain ⟨_, -, made⟩ := bind_eq_ok.mp made
  obtain ⟨_, -, made⟩ := bind_eq_ok.mp made
  cases made

/-- What is declared with a precision and a scale is made of numbers. -/
theorem decimal_of_ofPrecision {precision scale : Value} {type : ColumnType}
    (made : ofPrecision precision scale = .ok type) :
    precision.magnitude?.isSome ∧ scale.magnitude?.isSome ∧ type = .decimal precision scale := by
  obtain ⟨few, digits, made⟩ := bind_eq_ok.mp made
  split at made
  · exact absurd made (refusedShape precision scale)
  obtain ⟨below, places, made⟩ := bind_eq_ok.mp made
  split at made
  · exact absurd made (refusedShape precision scale)
  obtain ⟨shorter, -, made⟩ := bind_eq_ok.mp made
  split at made
  · exact absurd made (refusedShape precision scale)
  · exact ⟨Value.magnitude?_of_before digits, Value.magnitude?_of_before places,
      (Except.ok.inj made).symm⟩

theorem ofPrecision_isSealed {precision scale : Value} {type : ColumnType}
    (made : ofPrecision precision scale = .ok type) : type.IsSealed := by
  obtain ⟨digits, places, rfl⟩ := decimal_of_ofPrecision made
  refine isSealed_of_signless (fun _ => rfl) fun text declared => ?_
  obtain ⟨first, whole, declared⟩ := bind_eq_ok.mp declared
  obtain ⟨second, fraction, declared⟩ := bind_eq_ok.mp declared
  obtain rfl := Except.ok.inj declared
  have opens : Sealed "DECIMAL(" := by decide
  have comma : Sealed "," := by decide
  exact sealed_sized ((opens.append (Value.sealed_shown digits whole)).append comma) places fraction

theorem enum_isSealed (values : List String) : (enum values).IsSealed := by
  refine isSealed_of_signless (fun _ => rfl) ?_
  rintro _ ⟨⟩
  have opens : Sealed "ENUM(" := by decide
  have closes : Sealed ")" := by decide
  have literals : Sealed (",".intercalate (values.map quoteLiteral)) := by
    refine sealed_intercalate (by decide) fun text member => ?_
    obtain ⟨value, -, rfl⟩ := List.mem_map.mp member
    exact sealed_quoteLiteral value
  exact (opens.append literals).append closes

/-- An enumeration is made of the texts of at least one value, each once. -/
theorem enum_of_ofValues {values : Value} {type : ColumnType}
    (made : ofValues values = .ok type) :
    ∃ elements texts, values.elements = .ok elements ∧ elements.mapM Value.shown = .ok texts ∧
      texts.eraseDups ≠ [] ∧ type = .enum texts.eraseDups := by
  obtain ⟨elements, listed, made⟩ := bind_eq_ok.mp made
  obtain ⟨texts, shown, made⟩ := bind_eq_ok.mp made
  dsimp only at made
  split at made
  · cases made
  · rename_i several
    exact ⟨elements, texts, listed, shown, fun none => several (by rw [none]; rfl),
      (Except.ok.inj made).symm⟩

theorem ofValues_isSealed {values : Value} {type : ColumnType}
    (made : ofValues values = .ok type) : type.IsSealed := by
  obtain ⟨_, _, -, -, -, rfl⟩ := enum_of_ofValues made
  exact enum_isSealed _

end ColumnType

/-- Whether a default is null, a truth value, a number or a text. -/
def Value.IsLiteral (value : Value) : Prop :=
  value = .null ∨ value.magnitude?.isSome ∨ ∃ text, value = .text text

theorem sealed_defaultLiteral {value : Value} (literal : value.IsLiteral) {text : String}
    (written : defaultLiteral value = .ok text) : Sealed text := by
  obtain rfl | measured | ⟨content, rfl⟩ := literal
  · obtain rfl := Except.ok.inj written
    decide
  · cases value with
    | null | text _ => simp [Value.magnitude?] at measured
    | bool value =>
      obtain rfl := Except.ok.inj written
      cases value <;> decide
    | _ => exact Value.sealed_shown measured written
  · obtain rfl := Except.ok.inj written
    exact sealed_quoteLiteral content

end Tablewright
