import Tablewright.Value.Display

/-! # Signatures

Scripts call by name, with arguments by position and by keyword. A signature says which parameters
a name takes and what stands for one that is not given. Binding puts the arguments in the order of
the parameters; an argument too many, too few, unknown or given twice is a fault that names the
callee. The receiver of a call is an argument by position.
-/

namespace Tablewright

/-- A parameter, with the value that stands for it if it may be left out. -/
structure Parameter where
  name : String
  fallback : Option Value

/-- A parameter that must be given. -/
def Parameter.required (name : String) : Parameter :=
  ⟨name, none⟩

/-- A parameter that may be left out. -/
def Parameter.optional (name : String) (fallback : Value) : Parameter :=
  ⟨name, some fallback⟩

/-- Parameters that may be given by position, and then those that take a keyword only. -/
structure Signature where
  positional : List Parameter
  keyword : List Parameter := []

namespace Signature

/-- The parameter for the receiver of a call, which is always given. -/
def receiver : String := "self"

/-- How many arguments by position must be given. -/
def least (signature : Signature) : Nat :=
  (signature.positional.filter fun parameter => parameter.fallback.isNone).length

/-- Checks that a keyword names a parameter that has no argument by position. -/
def checkKeyword (signature : Signature) (callee : String) (positions : Nat) (keyword : String) :
    Except Fault Unit :=
  let named (parameter : Parameter) : Bool := parameter.name == keyword
  if (signature.positional.drop positions ++ signature.keyword).any named then .ok ()
  else if keyword = receiver || signature.positional.any named then
    .error (.wrongType (.repeatedArgument callee keyword))
  else .error (.wrongType (.unknownKeyword callee keyword))

/-- The arguments in the order of the parameters. Keywords are checked first, then the number of
arguments by position, then whether anything is missing; the receiver counts as an argument. -/
def bind (signature : Signature) (callee : String) (arguments : List Value)
    (keywords : List (String × Value)) : Except Fault (List Value) := do
  keywords.forM fun (keyword, _) => signature.checkKeyword callee arguments.length keyword
  let most := signature.positional.length
  if most < arguments.length then
    throw (.wrongType (.extraArguments callee (signature.least + 1) (most + 1)
      (arguments.length + 1)))
  let rest := signature.positional.drop arguments.length ++ signature.keyword
  let argument? (parameter : Parameter) : Option Value :=
    (keywords.lookup parameter.name).or parameter.fallback
  let missing := rest.filter fun parameter => (argument? parameter).isNone
  if missing.isEmpty then return arguments ++ rest.filterMap argument?
  throw (.wrongType (.missingArguments callee (missing.map (·.name))))

end Signature

end Tablewright
