/-! # Searching in text -/

namespace Tablewright.Text

/-- Whether the characters occur in a row somewhere in the others. -/
def occursIn (part : List Char) : List Char → Bool
  | [] => part.isEmpty
  | char :: rest => part.isPrefixOf (char :: rest) || occursIn part rest

/-- Whether the text holds the other one. -/
def contains (text part : String) : Bool :=
  occursIn part.toList text.toList

end Tablewright.Text
