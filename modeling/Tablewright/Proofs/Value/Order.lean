import Tablewright.Value.Order

/-! # The order of whole numbers, and texts

Numbers are compared as coefficients times powers of ten, and told apart by their length first. For
whole numbers this is their usual order, so the largest of whole numbers is their maximum. Nothing
but a text is equal to a text, and everything but a signaling not-a-number can be told apart from a
whole number.
-/

namespace Tablewright

namespace Magnitude

private theorem lt_of_length_lt {left right : Nat}
    (shorter : (Nat.toDigits 10 left).length < (Nat.toDigits 10 right).length) : left < right := by
  have bounded : left < 10 ^ (Nat.toDigits 10 left).length :=
    (Nat.length_toDigits_le_iff (by decide) Nat.length_toDigits_pos).mp (Nat.le_refl _)
  have reached : ¬ right < 10 ^ (Nat.toDigits 10 left).length := fun small =>
    absurd ((Nat.length_toDigits_le_iff (by decide) Nat.length_toDigits_pos).mpr small) (by omega)
  omega

/-- Numbers with the exponent zero are compared like their coefficients. -/
theorem compareScaled_zero (left right : Nat) :
    compareScaled left 0 right 0 = compare left right := by
  simp only [compareScaled, Int.zero_add]
  split
  · have less : left < right := lt_of_length_lt (by omega)
    exact (Nat.compare_eq_lt.mpr less).symm
  · split
    · have more : right < left := lt_of_length_lt (by omega)
      exact (Nat.compare_eq_gt.mpr more).symm
    · simp

private theorem sign_eq (number : Int) :
    number.sign = if 0 < number then 1 else if number < 0 then -1 else 0 := by
  split
  · rename_i positive
    exact Int.sign_eq_one_of_pos positive
  · split
    · rename_i negative
      exact Int.sign_eq_neg_one_of_neg negative
    · have zero : number = 0 := by omega
      rw [zero, Int.sign_zero]

/-- Signs decide unless they agree. -/
private theorem compare_sign {left right : Int}
    (apart : left = 0 ∨ right = 0 ∨ left.sign ≠ right.sign) :
    compare left.sign right.sign = compare left right := by
  rw [sign_eq, sign_eq] at apart ⊢
  rw [Int.compare_eq_ite_lt, Int.compare_eq_ite_lt]
  grind

/-- Whole numbers are compared as numbers. -/
theorem compare?_ofInt (left right : Int) :
    (ofInt left).compare? (ofInt right) = some (compare left right) := by
  simp only [ofInt, compare?, compareScaled_zero]
  split
  · rename_i apart
    rw [compare_sign apart]
  · rename_i alike
    rw [sign_eq, sign_eq] at alike
    rw [Int.compare_eq_ite_lt, Nat.compare_eq_ite_lt, Nat.compare_eq_ite_lt]
    have below : left.natAbs < right.natAbs ↔ (if 0 < left then left < right else right < left) := by
      grind
    have above : right.natAbs < left.natAbs ↔ (if 0 < left then right < left else left < right) := by
      grind
    simp only [below, above]
    grind

end Magnitude

namespace Value

theorem same_text (value : Value) (content : String) :
    value.same (.text content) = true ↔ value = .text content := by
  cases value <;> simp [same, magnitude?]

theorem equals_text (value : Value) (content : String) :
    value.equals (.text content) = .ok (decide (value = .text content)) := by
  have plain : value.comparePlain (.text content) = .ok (decide (value = .text content)) := by
    simp only [comparePlain, magnitude?, Option.isSome_none, Bool.and_false,
      Bool.false_eq_true, ↓reduceIte, Except.ok.injEq]
    rw [Bool.eq_iff_iff, same_text, decide_eq_true_eq]
  cases value <;> exact plain

theorem eq_of_isSignaling {value : Value} (signaling : value.isSignaling = true) :
    ∃ negative payload, value = .decimal (.nan negative true payload) := by
  cases value with
  | decimal amount =>
    cases amount with
    | nan negative signals payload =>
      obtain rfl : signals = true := signaling
      exact ⟨negative, payload, rfl⟩
    | _ => cases signaling
  | _ => cases signaling

/-- Everything but a signaling not-a-number can be told apart from a whole number. -/
theorem equals_int (value : Value) (number : Int) :
    value.equals (.int number) =
      if value.isSignaling then .error .invalidArithmetic else .ok (value.same (.int number)) := by
  have plain : value.comparePlain (.int number) =
      if value.isSignaling then .error .invalidArithmetic
      else .ok (value.same (.int number)) := by
    by_cases signaling : value.isSignaling
    · obtain ⟨negative, payload, rfl⟩ := eq_of_isSignaling signaling
      rfl
    · have other : (int number).isSignaling = false := rfl
      simp [comparePlain, signaling, other]
  cases value <;> exact plain

theorem before_int (left right : Int) :
    (int left).before (.int right) = .ok (decide (left < right)) := by
  simp only [before, magnitude?, Magnitude.compare?_ofInt]
  by_cases less : left < right
  · simp [less, Int.compare_eq_lt.mpr less]
  · have notLess : compare left right ≠ .lt := mt Int.compare_eq_lt.mp less
    simp [less, notLess]

/-- The largest of whole numbers is their maximum. -/
theorem largest_int (first : Int) (numbers : List Int) :
    (int first).largest (numbers.map .int) = .ok (.int (numbers.foldl max first)) := by
  induction numbers generalizing first with
  | nil => rfl
  | cons number numbers ih =>
    simp only [List.map_cons, largest, before_int, List.foldl_cons, bind, Except.bind]
    by_cases less : first < number
    · rw [if_pos (by simpa using less), ih, Int.max_eq_right (Int.le_of_lt less)]
    · rw [if_neg (by simpa using less), ih, Int.max_eq_left (Int.not_lt.mp less)]

end Value

end Tablewright
