import Tablewright.Value.Order

/-! # Values in words

A value that mentions something can be read only after each mention in it is replaced by words.
-/

namespace Tablewright.Value

/-- What stands for a list inside itself. -/
def abbreviatedList : Value :=
  .mention (.wording "[...]" "[...]")

mutual

/-- The value with its mentions replaced by words. -/
def fill (words : Mention → Except Fault Value) : Value → Except Fault Value
  | .mention something => words something
  | .list values => (fillAll words values).map .list
  | value => .ok value

/-- The values with their mentions replaced by words. -/
def fillAll (words : Mention → Except Fault Value) : List Value → Except Fault (List Value)
  | [] => .ok []
  | value :: values => do
    let filled ← value.fill words
    return filled :: (← fillAll words values)

end

end Tablewright.Value
