import Tablewright.Text.Quoted

/-! # Faults

Why an operation fails. A declaration can be invalid, a statement can be rejected by the database,
a configuration can be unusable. The remaining faults come from values of the wrong kind: a missing
argument, a number that cannot be read or written, a row without the column asked for. The wording
of a fault is what a failed migration is noted with. What a fault was raised with need not have one.
-/

namespace Tablewright

/-- Why a declaration is invalid. -/
inductive DeclarationError where
  | noEnumValues
  | textLength (length : String)
  | decimalShape (precision scale : String)
  | defaultNotAllowed (column default : String) (allowed : List String)
  | stated (message : String)
deriving DecidableEq

/-- The quoted form of a list of texts. -/
def quotedTexts (texts : List String) : String :=
  "[" ++ ", ".intercalate (texts.map Text.quoted) ++ "]"

/-- The wording of the error. -/
def DeclarationError.message : DeclarationError → String
  | .noEnumValues => "Enum column requires at least one allowed value"
  | .textLength length => "String length must be positive, got " ++ length
  | .decimalShape precision scale =>
    "Invalid DECIMAL precision/scale: (" ++ precision ++ ", " ++ scale ++ ")"
  | .defaultNotAllowed column default allowed =>
    "Column " ++ column ++ ": Default " ++ default ++ " is not one of " ++ quotedTexts allowed
  | .stated message => message

/-- Why a configuration document cannot be read. -/
inductive ReadFailure where
  | noSuchFile
  | isDirectory
  | nameTooLong
  /-- The document is malformed, in the words of what loads it. -/
  | malformed (reason : String)
deriving DecidableEq

/-- The wording of the failure for a file. -/
def ReadFailure.message (path : String) : ReadFailure → String
  | .noSuchFile => "[Errno 2] No such file or directory: " ++ Text.quoted path
  | .isDirectory => "[Errno 21] Is a directory: " ++ Text.quoted path
  | .nameTooLong => "[Errno 36] File name too long: " ++ Text.quoted path
  | .malformed reason => reason

/-- Why a configuration is unusable. -/
inductive ConfigError where
  | unreadable (path : String) (failure : ReadFailure)
  | notMapping (path : String)
  | unknownKeys (path : String) (keys : List String)
  /-- A URL in its quoted form that is refused, and why. -/
  | refusedUrl (url reason : String)
  | unsupportedBackend (name : String) (supported : List String)
  | stated (message : String)
deriving DecidableEq

/-- The wording of the error. -/
def ConfigError.message : ConfigError → String
  | .unreadable path failure => "Cannot read config " ++ path ++ ": " ++ failure.message path
  | .notMapping path => "Config " ++ path ++ " must contain a mapping"
  | .unknownKeys path keys =>
    "Unknown config keys in " ++ path ++ ": " ++ ", ".intercalate keys
  | .refusedUrl url reason => "Invalid database URL " ++ url ++ ": " ++ reason
  | .unsupportedBackend name supported =>
    "Unsupported backend " ++ Text.quoted name ++ "; expected one of " ++
      ", ".intercalate supported
  | .stated message => message

/-- Why the values given to an operation do not fit it. Kinds of values are given by their names. -/
inductive Mismatch where
  | missingArguments (callee : String) (names : List String)
  /-- More arguments by position than the callee takes; the receiver counts as one. -/
  | extraArguments (callee : String) (least most given : Nat)
  | unknownKeyword (callee keyword : String)
  | repeatedArgument (callee name : String)
  | notCallable (kind : String)
  | notOrdered (left right : String)
  /-- One of two moments has an offset and the other has none. -/
  | mixedOffsets
  | notListable (kind : String)
  | notAKey (kind : String)
  | notANumber (kind : String)
  /-- The element at the position cannot be joined to a text. -/
  | notText (position : Nat) (kind : String)
  /-- The value cannot be put after a text. -/
  | notAppended (kind : String)
  /-- A text cannot be put after the value. -/
  | notPrefixed (kind : String)
  /-- The marks in the value cannot be doubled as those of a text. -/
  | notQuotable (kind : String)
deriving DecidableEq

/-- Names in quotation marks, with commas and a last conjunction between them. -/
def enumerated (names : List String) : String :=
  match names.map Text.quoted with
  | [] => ""
  | [name] => name
  | [first, second] => first ++ " and " ++ second
  | names => ", ".intercalate names.dropLast ++ ", and " ++ names.getLastD ""

/-- The ending of a word that is counted. -/
def pluralEnding (count : Nat) : String :=
  if count = 1 then "" else "s"

/-- The wording of the mismatch. -/
def Mismatch.message : Mismatch → String
  | .missingArguments callee names =>
    callee ++ "() missing " ++ toString names.length ++ " required positional argument" ++
      pluralEnding names.length ++ ": " ++ enumerated names
  | .extraArguments callee least most given =>
    let taken :=
      if least = most then toString most ++ " positional argument" ++ pluralEnding most
      else "from " ++ toString least ++ " to " ++ toString most ++ " positional arguments"
    callee ++ "() takes " ++ taken ++ " but " ++ toString given ++
      (if given = 1 then " was given" else " were given")
  | .unknownKeyword callee keyword =>
    callee ++ "() got an unexpected keyword argument '" ++ keyword ++ "'"
  | .repeatedArgument callee name =>
    callee ++ "() got multiple values for argument '" ++ name ++ "'"
  | .notCallable kind => "'" ++ kind ++ "' object is not callable"
  | .notOrdered left right =>
    "'<' not supported between instances of '" ++ left ++ "' and '" ++ right ++ "'"
  | .mixedOffsets => "can't compare offset-naive and offset-aware datetimes"
  | .notListable kind => "'" ++ kind ++ "' object is not iterable"
  | .notAKey kind => "unhashable type: '" ++ kind ++ "'"
  | .notANumber kind =>
    "int() argument must be a string, a bytes-like object or a real number, not '" ++ kind ++ "'"
  | .notText position kind =>
    "sequence item " ++ toString position ++ ": expected str instance, " ++ kind ++ " found"
  | .notAppended kind => "can only concatenate str (not \"" ++ kind ++ "\") to str"
  | .notPrefixed kind =>
    if kind = "list" then "can only concatenate list (not \"str\") to list"
    else if kind = "bytes" then "can't concat str to bytes"
    else "unsupported operand type(s) for +: '" ++ kind ++ "' and 'str'"
  | .notQuotable kind =>
    if kind = "bytes" then "a bytes-like object is required, not 'str'"
    else "'str' object cannot be interpreted as an integer"

/-- Why an operation fails. -/
inductive Fault where
  | invalidInput (error : DeclarationError)
  | executionFailure (message : String) (statement : Option String)
  | duplicateRecord (message : String) (statement : Option String)
  | config (error : ConfigError)
  /-- A value of a kind that the operation does not take, or an argument too many or too few. -/
  | wrongType (mismatch : Mismatch)
  /-- A name that things of the kind do not have. -/
  | noSuchMember (kind name : String)
  /-- A name that is never looked for elsewhere. -/
  | hiddenMember (name : String)
  /-- An answer of a call that was not made. -/
  | noSuchAnswer
  /-- A wording that contains itself. -/
  | endlessWording
  /-- A value of the right kind that stands for nothing, or one that is too long to be written. -/
  | badValue
  | missingKey
  | outOfRange
  | undecodable
  /-- A document whose collections are nested too deeply. -/
  | tooDeep
  | invalidArithmetic
  /-- A driver that is not known. -/
  | noSuchDriver
  /-- A driver that is known but not installed. -/
  | driverMissing
  /-- A call on something that takes no calls. -/
  | badTarget
  /-- A failure of another kind that a migration or a driver states itself. -/
  | raised (kind message : String)
  /-- A failure of another kind that has no wording, and the fault of putting it into words. -/
  | wordless (kind : String) (obstacle : Fault)
deriving DecidableEq

/-- The wording of the fault, empty where the fault carries none. -/
def Fault.message : Fault → Except Fault String
  | .invalidInput error => .ok error.message
  | .executionFailure message _ => .ok message
  | .duplicateRecord message _ => .ok message
  | .config error => .ok error.message
  | .raised _ message => .ok message
  | .wordless _ obstacle => .error obstacle
  | .wrongType mismatch => .ok mismatch.message
  | .noSuchMember kind name => .ok ("'" ++ kind ++ "' object has no attribute '" ++ name ++ "'")
  | .hiddenMember name => .ok name
  | .noSuchAnswer => .ok "list index out of range"
  | .endlessWording => .ok "maximum recursion depth exceeded"
  | .invalidArithmetic => .ok "[<class 'decimal.InvalidOperation'>]"
  | _ => .ok ""

end Tablewright
