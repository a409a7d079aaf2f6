import Tablewright.Script.Member

/-! # Scripts of calls

A script is a list of calls by name. Each is made on the blueprint or on what an earlier call
answered, and its arguments may be earlier answers too. A call that fails answers null.
-/

namespace Tablewright

/-- An argument of a scripted call: a value, what an earlier call answered, or a list of these.
Answers are counted from the first call, or with a negative number from the last one. -/
inductive Argument where
  | value (value : Value)
  | answer (index : Int)
  | list (items : List Argument)
deriving Inhabited

/-- What a scripted call does with its target. -/
inductive Instruction where
  | invoke (method : String) (arguments : List Argument) (keywords : List (String × Argument))
  | read (name : String)
  | quote
  | quoteSpecs
  | create
  | alter
  | append (kind : SpecKind) (column : Argument) (text : String) (newName : Argument)
      (isConstraint : Bool)

/-- One call of a script, on the blueprint unless the position of an earlier call is given. -/
structure ScriptCall where
  target : Option Int
  instruction : Instruction

namespace Script

/-- What the calls so far have answered. -/
abbrev Answers := List Value

/-- An earlier answer. -/
def earlier (answers : Answers) (index : Int) : Except Fault Value :=
  let position := if index < 0 then index + answers.length else index
  match if position < 0 then none else answers[position.toNat]? with
  | some value => .ok value
  | none => .error .noSuchAnswer

/-- What a call is made on, which an earlier call must have answered. -/
def receiver (answers : Answers) : Option Int → Except Fault Target
  | none => .ok .blueprint
  | some index =>
    match if index < 0 then none else answers[index.toNat]?.bind Value.target? with
    | some target => .ok target
    | none => .error .badTarget

mutual

/-- The value of an argument. -/
def argument (answers : Answers) : Argument → Except Fault Value
  | .value given => .ok given
  | .answer index => earlier answers index
  | .list items => (arguments answers items).map .list

/-- The values of arguments. -/
def arguments (answers : Answers) : List Argument → Except Fault (List Value)
  | [] => .ok []
  | item :: items => do
    let value ← argument answers item
    return value :: (← arguments answers items)

end

/-- The values of arguments by keyword. -/
def keywordArguments (answers : Answers) (keywords : List (String × Argument)) :
    Except Fault (List (String × Value)) :=
  keywords.mapM fun (name, given) => return (name, ← argument answers given)

/-- Makes a call by name on a target. -/
def invoke (blueprint : Blueprint) (target : Target) (method : String)
    (arguments : List Value) (keywords : List (String × Value)) : CallOutcome :=
  let perform (call : Except Fault Call) : CallOutcome :=
    match call with
    | .ok call => blueprint.perform call
    | .error fault => blueprint.asked (.error fault)
  match target with
  | .blueprint => perform (Call.table <$> tableCall blueprint method arguments keywords)
  | .column ref => perform (columnCall blueprint ref method arguments keywords)
  | .key index => perform (keyCall blueprint index method arguments keywords)
  | .spec index => blueprint.asked (specCall blueprint index method arguments keywords)

/-- Keeps the lists in arguments by keyword. -/
def keepKeywords (blueprint : Blueprint) (keywords : List (String × Value)) :
    Blueprint × List (String × Value) :=
  let (kept, values) := blueprint.keepAll (keywords.map (·.2))
  (kept, (keywords.map (·.1)).zip values)

/-- Follows one instruction on a target. -/
def follow (options : String) (blueprint : Blueprint) (answers : Answers) (target : Target) :
    Instruction → CallOutcome
  | .invoke method given named =>
    match arguments answers given, keywordArguments answers named with
    | .ok values, .ok keywords =>
      let (blueprint, values) := blueprint.keepAll values
      let (blueprint, keywords) := keepKeywords blueprint keywords
      invoke blueprint target method values keywords
    | .error fault, _ | .ok _, .error fault => blueprint.asked (.error fault)
  | .read name => blueprint.asked (read blueprint target name)
  | .quote => blueprint.asked ((blueprint.quotedTarget target).map .text)
  | .quoteSpecs =>
    blueprint.asked ((blueprint.specs.mapM blueprint.quotedSpec).map fun texts =>
      .list (texts.map .text))
  | .create => blueprint.perform (.table (.toCreate options))
  | .alter => blueprint.perform (.table .toAlter)
  | .append kind column text newName isConstraint =>
    match argument answers column, argument answers newName with
    | .ok column, .ok newName =>
      let (blueprint, column) := blueprint.keep column
      let (blueprint, newName) := blueprint.keep newName
      blueprint.perform (.table (.append ⟨kind, column, text, newName, isConstraint⟩))
    | .error fault, _ | .ok _, .error fault => blueprint.asked (.error fault)

/-- Performs one call of a script. -/
def step (options : String) (blueprint : Blueprint) (answers : Answers) (call : ScriptCall) :
    CallOutcome :=
  match receiver answers call.target with
  | .ok target => follow options blueprint answers target call.instruction
  | .error fault => blueprint.asked (.error fault)

/-- The blueprint that a call leaves, and what later calls find as its answer. -/
def answered (outcome : CallOutcome) : Blueprint × Value :=
  outcome.blueprint.keep (outcome.result.toOption.getD .null)

/-- The outcomes of all calls of a script; a call that fails does not stop it. -/
def outcomes (options : String) : Blueprint → Answers → List ScriptCall → List CallOutcome
  | _, _, [] => []
  | blueprint, answers, call :: calls =>
    let outcome := step options blueprint answers call
    let (blueprint, answer) := answered outcome
    outcome :: outcomes options blueprint (answers ++ [answer]) calls

/-- Performs the calls of a script up to the first that fails. -/
def run (options : String) : Blueprint → Answers → List ScriptCall → Compiled Unit
  | blueprint, _, [] => ⟨.ok (), blueprint, []⟩
  | blueprint, answers, call :: calls =>
    let outcome := step options blueprint answers call
    match outcome.result with
    | .error fault => ⟨.error fault, outcome.blueprint, outcome.notices⟩
    | .ok _ =>
      let (blueprint, answer) := answered outcome
      let rest := run options blueprint (answers ++ [answer]) calls
      { rest with notices := outcome.notices ++ rest.notices }

end Script

end Tablewright
