import Tablewright.Value.Display

/-! # Literals

How texts and defaults are written into statements. A text is enclosed in single quotation marks,
and a mark inside it is written twice; nothing else is escaped. A default that is a text is always
a literal, never an expression.
-/

namespace Tablewright

/-- The characters with every single quotation mark written twice. -/
def doubleMarks (chars : List Char) : List Char :=
  chars.flatMap fun char =>
    if char = Text.singleMark then [Text.singleMark, Text.singleMark] else [char]

/-- The literal of a text. -/
def quoteLiteral (text : String) : String :=
  String.ofList (Text.singleMark :: doubleMarks text.toList ++ [Text.singleMark])

/-- The literal of a default. -/
def defaultLiteral : Value → Except Fault String
  | .null => .ok "NULL"
  | .bool value => .ok (if value then "1" else "0")
  | .text value => .ok (quoteLiteral value)
  | value => value.shown

/-- A name between the marks that enclose identifiers. The name is taken as it is. -/
def quoteName (name : String) : String :=
  "`" ++ name ++ "`"

end Tablewright
