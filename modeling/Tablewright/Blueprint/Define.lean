import Tablewright.Blueprint.Wording

/-! # Defining columns

A change of a column may be announced by its name alone. The next definition of that name then
completes the change, if nothing else was defined in between; every other definition adds a column.
Names need not be texts, so two of them are one name when they are equal as values: what takes calls
is equal only to itself, and a list is equal to itself and to every list with equal elements.
-/

namespace Tablewright.Blueprint

/-- Whether two lists agree element by element, up to the first elements that differ. -/
def agree (equal : Value → Value → Except Fault Bool) : List Value → List Value → Except Fault Bool
  | [], [] => .ok true
  | left :: lefts, right :: rights => do
    if ← equal left right then agree equal lefts rights else return false
  | _, _ => .ok false

/-- Whether two values are equal, where lists are mentioned in each other no deeper than the given
number. -/
def equalWithin (blueprint : Blueprint) : Nat → Value → Value → Except Fault Bool
  | 0, left, right => left.equals right
  | depth + 1, left, right =>
    if left.isMention && left = right then .ok true
    else
      match blueprint.viewed left, blueprint.viewed right with
      | .list lefts, .list rights =>
        if lefts.length = rights.length then agree (blueprint.equalWithin depth) lefts rights
        else .ok false
      | left, right => left.equals right

/-- Whether two values are equal. A list mentions only lists that were given before it. -/
def equal (blueprint : Blueprint) (left right : Value) : Except Fault Bool :=
  blueprint.equalWithin (blueprint.lists.length + 2) left right

/-- The position of the column defined last if it is a change of the name that awaits a type. -/
def awaiting? (blueprint : Blueprint) (name : Value) : Except Fault (Option Nat) := do
  match blueprint.currentColumn? with
  | none => return none
  | some column =>
    if column.kind = .modify then
      let isMeant ← blueprint.equal column.name name
      return if isMeant && !column.isTyped then blueprint.current else none
    else return none

/-- Defines a column of a type: a change of that name that awaits its type gets it, otherwise a
column is added. -/
def define (blueprint : Blueprint) (name : Value) (type : ColumnType) :
    Except Fault (Blueprint × ColumnRef) := do
  match ← blueprint.awaiting? name with
  | some index =>
    return (blueprint.updateColumn (.attached index) (Column.withType · type), .attached index)
  | none =>
    return (blueprint.appendColumn (Column.typed name type), .attached blueprint.specs.length)

end Tablewright.Blueprint
