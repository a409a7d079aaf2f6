/-! # Mentions

A declaration can be given something of its own blueprint where a value is expected: the blueprint,
one of its columns, other specs or foreign keys, a list of these, or the kind or the type of a
column. Such a mention names what it stands for by position. What it reads like depends on what has
been declared when it is read, so only the blueprint can tell. A list with mentions in it is kept by
the blueprint and mentioned itself, because it can be met again inside of what it mentions.
-/

namespace Tablewright

/-- What a spec does to its table. -/
inductive SpecKind where
  | add
  | modify
  | drop
  | rename
  | dropIndex
  /-- A kind that no statement can be made of. -/
  | other (name : String)
deriving DecidableEq

namespace SpecKind

/-- The name of the kind. -/
def name : SpecKind → String
  | .add => "ADD"
  | .modify => "MODIFY"
  | .drop => "DROP"
  | .rename => "RENAME"
  | .dropIndex => "DROP_INDEX"
  | .other name => name

/-- The kind with the name. -/
def ofName (name : String) : SpecKind :=
  if name = "ADD" then .add
  else if name = "MODIFY" then .modify
  else if name = "DROP" then .drop
  else if name = "RENAME" then .rename
  else if name = "DROP_INDEX" then .dropIndex
  else .other name

/-- The kind as one lower-case word. -/
def word (kind : SpecKind) : String :=
  kind.name.toLower

end SpecKind

/-- A column of a blueprint: a spec by position, or a key column that is not defined here. -/
inductive ColumnRef where
  | attached (index : Nat)
  | detached (index : Nat)
deriving DecidableEq

/-- Something that takes calls. -/
inductive Target where
  | blueprint
  | column (ref : ColumnRef)
  | spec (index : Nat)
  | key (index : Nat)
deriving DecidableEq

/-- Something of a blueprint that a value stands for. -/
inductive Mention where
  | target (target : Target)
  /-- The list of the specs, as long as it is when it is looked at. -/
  | specs
  /-- The list of the foreign keys opened since as many finalizations. -/
  | keys (round : Nat)
  /-- A list with mentions in it, by its number. -/
  | list (index : Nat)
  | kind (kind : SpecKind)
  /-- A column's type, known by its name and its declaration, if that can be written out. -/
  | type (label : String) (declaration : Option String)
  /-- Something of which only the plain text and the quoted form are left. -/
  | wording (shown quoted : String)
deriving DecidableEq

namespace Mention

/-- The plain text of a mention that reads the same in every blueprint, empty for the others. -/
def shown : Mention → String
  | .kind known => "SpecKind." ++ known.name
  | .type label declaration => label ++ "(" ++ declaration.getD "" ++ ")"
  | .wording plain _ => plain
  | .target _ | .specs | .keys _ | .list _ => ""

/-- Whether the mention can be written out. -/
def isWritten : Mention → Bool
  | .type _ declaration => declaration.isSome
  | _ => true

end Mention

end Tablewright
