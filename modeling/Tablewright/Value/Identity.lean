import Tablewright.Value.Basic

/-! # Identical values

Identity of values is decidable. It is finer than their equality: the number one and the truth
value are equal but not identical.
-/

namespace Tablewright.Value

mutual

/-- Whether two values are identical. -/
def identical : Value → Value → Bool
  | .null, .null => true
  | .bool left, .bool right => left = right
  | .int left, .int right => left = right
  | .float left, .float right => left = right
  | .decimal left, .decimal right => left = right
  | .text left, .text right => left = right
  | .bytes left, .bytes right => left = right
  | .date left, .date right => left = right
  | .dateTime left, .dateTime right => left = right
  | .list left, .list right => identicalLists left right
  | .map left, .map right => identicalEntries left right
  | .action left, .action right => left = right
  | .mention left, .mention right => left = right
  | _, _ => false

/-- Whether two lists of values are identical. -/
def identicalLists : List Value → List Value → Bool
  | [], [] => true
  | left :: lefts, right :: rights => left.identical right && identicalLists lefts rights
  | _, _ => false

/-- Whether the entries of two maps are identical. -/
def identicalEntries : List (Value × Value) → List (Value × Value) → Bool
  | [], [] => true
  | (key, value) :: lefts, (otherKey, otherValue) :: rights =>
    key.identical otherKey && value.identical otherValue && identicalEntries lefts rights
  | _, _ => false

end

mutual

theorem identical_iff : (left right : Value) → (left.identical right = true ↔ left = right)
  | .list left, right => by cases right <;> simp [identical, identicalLists_iff left]
  | .map left, right => by cases right <;> simp [identical, identicalEntries_iff left]
  | .null, right | .bool _, right | .int _, right | .float _, right | .decimal _, right
  | .text _, right | .bytes _, right | .date _, right | .dateTime _, right | .action _, right
  | .mention _, right => by cases right <;> simp [identical]

theorem identicalLists_iff :
    (left right : List Value) → (identicalLists left right = true ↔ left = right)
  | [], right => by cases right <;> simp [identicalLists]
  | left :: lefts, right => by
    cases right <;> simp [identicalLists, identical_iff left, identicalLists_iff lefts]

theorem identicalEntries_iff :
    (left right : List (Value × Value)) → (identicalEntries left right = true ↔ left = right)
  | [], right => by cases right <;> simp [identicalEntries]
  | (key, value) :: lefts, right => by
    cases right <;>
      simp [identicalEntries, identical_iff key, identical_iff value, identicalEntries_iff lefts,
        Prod.ext_iff]

end

instance : DecidableEq Value := fun left right =>
  decidable_of_iff (left.identical right = true) (identical_iff left right)

end Tablewright.Value
