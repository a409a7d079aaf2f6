import Tablewright.Number.Decimal
import Tablewright.Calendar.DateTime
import Tablewright.Value.Mention

/-! # Declared values

Declarations, query rows and configuration documents are loosely typed: a default, a length or a
row's cell may be any of these values. Only declarations mention something of a blueprint.
-/

namespace Tablewright

/-- What a foreign key does when the row it refers to changes or goes. -/
inductive ReferentialAction where
  | cascade
  | restrict
  | setNull
  | setDefault
  | noAction
deriving DecidableEq

namespace ReferentialAction

/-- Every action. -/
def all : List ReferentialAction :=
  [.cascade, .restrict, .setNull, .setDefault, .noAction]

/-- The action's name, one word. -/
def name : ReferentialAction → String
  | .cascade => "CASCADE"
  | .restrict => "RESTRICT"
  | .setNull => "SET_NULL"
  | .setDefault => "SET_DEFAULT"
  | .noAction => "NO_ACTION"

/-- The action as it is written in a statement. -/
def keyword : ReferentialAction → String
  | .cascade => "CASCADE"
  | .restrict => "RESTRICT"
  | .setNull => "SET NULL"
  | .setDefault => "SET DEFAULT"
  | .noAction => "NO ACTION"

/-- The action with the name. -/
def ofName? (name : String) : Option ReferentialAction :=
  all.find? fun action => action.name == name

end ReferentialAction

/-- A loosely typed value. The entries of a map keep their order. -/
inductive Value where
  | null
  | bool (value : Bool)
  | int (value : Int)
  | float (value : Binary64)
  | decimal (value : Decimal)
  | text (value : String)
  | bytes (value : List UInt8)
  | date (value : Date)
  | dateTime (value : DateTime)
  | list (values : List Value)
  | map (entries : List (Value × Value))
  | action (value : ReferentialAction)
  | mention (value : Mention)
deriving Inhabited

namespace Value

/-- Whether the value counts as true: not null, false, zero or empty. -/
def isTruthy : Value → Bool
  | .null => false
  | .bool value => value
  | .int value => value != 0
  | .float (.finite _ units) => units != 0
  | .float _ => true
  | .decimal (.finite _ coefficient _) => coefficient != 0
  | .decimal _ => true
  | .text value => value != ""
  | .bytes value => !value.isEmpty
  | .date _ | .dateTime _ | .action _ | .mention _ => true
  | .list values => !values.isEmpty
  | .map entries => !entries.isEmpty

/-- The first value unless it counts as false. -/
def orElse (value fallback : Value) : Value :=
  if value.isTruthy then value else fallback

/-- The exact value of a number; truth values count as one and zero. -/
def magnitude? : Value → Option Magnitude
  | .bool value => some (.ofInt (if value then 1 else 0))
  | .int value => some (.ofInt value)
  | .float value => some (.ofBinary value)
  | .decimal value => some (.ofDecimal value)
  | _ => none

mutual

/-- Whether two values are equal: numbers by exact value across their kinds, moments as instants,
lists element by element and maps without regard to order. -/
def same : Value → Value → Bool
  | .null, .null => true
  | .text left, .text right => left == right
  | .bytes left, .bytes right => left == right
  | .date left, .date right => left == right
  | .dateTime left, .dateTime right => left.same right
  | .list left, .list right => sameList left right
  | .map left, .map right => left.length == right.length && sameEntries left right
  | .action left, .action right => left == right
  | .mention left, .mention right => left == right
  | left, right =>
    match left.magnitude?, right.magnitude? with
    | some first, some second => first.compare? second == some .eq
    | _, _ => false

/-- Whether two lists have the same length and equal elements. -/
def sameList : List Value → List Value → Bool
  | [], [] => true
  | left :: lefts, right :: rights => left.same right && sameList lefts rights
  | _, _ => false

/-- Whether every entry on the left has an equal one on the right. -/
def sameEntries : List (Value × Value) → List (Value × Value) → Bool
  | [], _ => true
  | (key, value) :: lefts, rights =>
    (rights.any fun entry => key.same entry.1 && value.same entry.2) && sameEntries lefts rights

end

/-- Something that takes calls as a value. -/
def ofTarget (target : Target) : Value :=
  .mention (.target target)

/-- A column as a value. -/
def ofColumn (ref : ColumnRef) : Value :=
  .ofTarget (.column ref)

/-- What the value stands for that takes calls. -/
def target? : Value → Option Target
  | .mention (.target target) => some target
  | _ => none

/-- Whether the value mentions something. -/
def isMention : Value → Bool
  | .mention _ => true
  | _ => false

/-- Whether a list with the value in it differs from another one that is written alike: the value
mentions something or is not equal to itself. -/
def isParticular (value : Value) : Bool :=
  value.isMention || !value.same value

/-- A kind of spec as a value; an unknown one is its name. -/
def ofKind : SpecKind → Value
  | .other name => .text name
  | kind => .mention (.kind kind)

/-- A text that may be missing as a value. -/
def ofText? (text : Option String) : Value :=
  (text.map Value.text).getD .null

end Value

end Tablewright
