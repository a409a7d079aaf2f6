import Tablewright.Value.Display

/-! # Order and conversion of values

Values of one kind are ordered: numbers by exact value, texts and byte strings character by
character, lists by their first difference, dates and moments by time. Ordering values of different
kinds is a fault, and so is ordering decimal numbers and not-a-number. A signaling not-a-number
cannot even be told apart from a number. It is a decimal, so it occurs in lists, never in maps.
-/

namespace Tablewright.Value

/-- Whether the value is a decimal number. -/
private def isDecimal : Value → Bool
  | .decimal _ => true
  | _ => false

/-- Whether the value is a signaling not-a-number. -/
def isSignaling : Value → Bool
  | .decimal (.nan _ signaling _) => signaling
  | _ => false

/-- Whether two values that are not lists are equal, if they can be told apart. -/
def comparePlain (left right : Value) : Except Fault Bool :=
  if (left.isSignaling || right.isSignaling) && left.magnitude?.isSome && right.magnitude?.isSome
  then .error .invalidArithmetic
  else .ok (left.same right)

mutual

/-- Whether two values are equal, if they can be told apart. -/
def equals : Value → Value → Except Fault Bool
  | .list lefts, .list rights =>
    if lefts.length = rights.length then equalLists lefts rights else .ok false
  | left, right => left.comparePlain right

/-- Whether two lists of one length have equal elements: the first that differ decide. -/
def equalLists : List Value → List Value → Except Fault Bool
  | left :: lefts, right :: rights => do
    if ← left.equals right then equalLists lefts rights else return false
  | _, _ => .ok true

end

mutual

/-- Whether the left value comes before the right one. -/
def before : Value → Value → Except Fault Bool
  | .text left, .text right => .ok (left < right)
  | .bytes left, .bytes right => .ok (left < right)
  | .date left, .date right => .ok (left.ordinal < right.ordinal)
  | .dateTime left, .dateTime right =>
    if left.offset.isSome == right.offset.isSome then .ok (left.instant < right.instant)
    else .error (.wrongType .mixedOffsets)
  | .list left, .list right => beforeList left right
  | left, right =>
    match left.magnitude?, right.magnitude? with
    | some first, some second =>
      match first.compare? second with
      | some order => .ok (order == .lt)
      | none =>
        if isDecimal left || isDecimal right then .error .invalidArithmetic else .ok false
    | _, _ => .error (.wrongType (.notOrdered left.kindName right.kindName))

/-- Whether the left list comes before the right one: the first elements that differ decide. -/
def beforeList : List Value → List Value → Except Fault Bool
  | [], right => .ok (!right.isEmpty)
  | _ :: _, [] => .ok false
  | left :: lefts, right :: rights => do
    if ← left.equals right then beforeList lefts rights else left.before right

end

/-- The first of the largest values: a later one counts only if it is larger. -/
def largest : Value → List Value → Except Fault Value
  | top, [] => .ok top
  | top, value :: values => do
    if ← top.before value then largest value values else largest top values

/-- Puts a value before the first of the ordered values that it comes before. -/
def insertOrdered (value : Value) : List Value → Except Fault (List Value)
  | [] => .ok [value]
  | next :: rest => do
    if ← value.before next then return value :: next :: rest
    else return next :: (← insertOrdered value rest)

/-- The values in their order. -/
def ordered (values : List Value) : Except Fault (List Value) :=
  values.foldlM (fun ordered value => insertOrdered value ordered) []

/-- The whole part of a decimal number. A number below one has none, however small it is. -/
def truncateDecimal (negative : Bool) (coefficient : Nat) (exponent : Int) : Int :=
  let whole :=
    if 0 ≤ exponent then coefficient * Nat.pow 10 exponent.toNat
    else if exponent + (Nat.toDigits 10 coefficient).length ≤ 0 then 0
    else coefficient / Nat.pow 10 (-exponent).toNat
  if negative then -(whole : Int) else whole

/-- The value as a whole number: fractions are cut off, texts and byte strings are read. -/
def toInteger : Value → Except Fault Int
  | .bool value => .ok (if value then 1 else 0)
  | .int value => .ok value
  | .float (.finite negative units) => .ok (Binary64.truncate negative units)
  | .float (.infinite _) => .error .outOfRange
  | .float .nan => .error .badValue
  | .decimal (.finite negative coefficient exponent) =>
    .ok (truncateDecimal negative coefficient exponent)
  | .decimal (.infinite _) => .error .outOfRange
  | .decimal (.nan ..) => .error .badValue
  | .text value =>
    match readInteger? value.toList with
    | some number => .ok number
    | none => .error .badValue
  | .bytes value =>
    if value.all (· < 128) then
      match readInteger? (value.map fun byte => Char.ofNat byte.toNat) with
      | some number => .ok number
      | none => .error .badValue
    else .error .badValue
  | value => .error (.wrongType (.notANumber value.kindName))

/-- The elements of a value that can be listed: characters, bytes, elements or keys. -/
def elements : Value → Except Fault (List Value)
  | .text value => .ok (value.toList.map fun char => .text (String.singleton char))
  | .bytes value => .ok (value.map fun byte => .int byte.toNat)
  | .list values => .ok values
  | .map entries => .ok (entries.map (·.1))
  | value => .error (.wrongType (.notListable value.kindName))

/-- The texts that the values are, which must all be texts. -/
def asTexts (position : Nat) : List Value → Except Fault (List String)
  | [] => .ok []
  | .text value :: values => do return value :: (← asTexts (position + 1) values)
  | value :: _ => .error (.wrongType (.notText position value.kindName))

/-- The text that the value is, to be put after another. -/
def asSuffix : Value → Except Fault String
  | .text value => .ok value
  | value => .error (.wrongType (.notAppended value.kindName))

/-- The text that the value is, to be put before another. -/
def asPrefix : Value → Except Fault String
  | .text value => .ok value
  | value => .error (.wrongType (.notPrefixed value.kindName))

/-- Whether the value can be a key: not a list, a map or a signaling not-a-number. -/
def isKey : Value → Bool
  | .list _ | .map _ | .mention .specs | .mention (.keys _) | .mention (.list _) => false
  | value => !value.isSignaling

end Tablewright.Value
