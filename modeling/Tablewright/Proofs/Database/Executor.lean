import Tablewright.Database.Executor
import Tablewright.Proofs.Value.Order
import Tablewright.Proofs.Value.Written

/-! # The errors that an executor lets through

A transaction fails where its engine first raises an error: at the beginning, in the command, in
reading the result or at the end. Executors report the errors of the database, and pass all others on
as they are. Some errors of the database get through unreported: one that is raised while a table is
looked up, which is done outside of any transaction, and a violated constraint whose number cannot
be told apart from those of unique keys, or that comes with arguments which cannot be written out.
-/

namespace Tablewright

/-! ## Where engines raise errors -/

section Engine

variable {α State : Type} {engine : Engine State} {command : Command}
  {read : CommandResult → Except EngineError α} {state : State} {error : EngineError}

/-- Whether an engine raises an error in a transaction, and where. -/
inductive Engine.RaisesIn (engine : Engine State) (command : Command)
    (read : CommandResult → Except EngineError α) (state : State) (error : EngineError) : Prop
  | beginning {begun : State} (raised : engine.begin state = (.error error, begun))
  | running {begun ran : State} (began : engine.begin state = (.ok (), begun))
    (raised : engine.run command begun = (.error error, ran))
  | reading {begun ran : State} {result : CommandResult}
    (began : engine.begin state = (.ok (), begun))
    (answered : engine.run command begun = (.ok result, ran))
    (raised : read result = .error error)
  | committing {begun ran ended : State} {result : CommandResult} {value : α}
    (began : engine.begin state = (.ok (), begun))
    (answered : engine.run command begun = (.ok result, ran)) (taken : read result = .ok value)
    (raised : engine.commit ran = (.error error, ended))

/-- A transaction fails with exactly the error that is raised in it. -/
theorem Engine.transact_eq_error_iff :
    (engine.transact command read state).result = .error error ↔
      engine.RaisesIn command read state error := by
  constructor
  · intro failed
    rcases began : engine.begin state with ⟨_ | _, begun⟩
    · simp only [transact, began, Except.error.injEq] at failed
      subst failed
      exact .beginning began
    rcases answered : engine.run command begun with ⟨_ | result, ran⟩
    · simp only [transact, began, answered, Except.bind, Except.error.injEq] at failed
      subst failed
      exact .running began answered
    cases taken : read result with
    | error fault =>
      simp only [transact, began, answered, Except.bind, taken, Except.error.injEq] at failed
      subst failed
      exact .reading began answered taken
    | ok value =>
      rcases finished : engine.commit ran with ⟨_ | _, ended⟩
      · simp only [transact, began, answered, Except.bind, taken, finished, Except.map,
          Except.error.injEq] at failed
        subst failed
        exact .committing began answered taken finished
      · simp [transact, began, answered, Except.bind, taken, finished, Except.map] at failed
  · rintro (raised | ⟨began, raised⟩ | ⟨began, answered, raised⟩ | ⟨began, answered, taken, raised⟩)
    · simp [transact, raised]
    · simp [transact, began, raised, Except.bind]
    · simp [transact, began, answered, raised, Except.bind]
    · simp [transact, began, answered, taken, raised, Except.bind, Except.map]

end Engine

/-! ## What is reported -/

section Report

theorem mapError_eq_error_iff {α ε ε' : Type} {result : Except ε α} {change : ε → ε'} {last : ε'} :
    result.mapError change = .error last ↔ ∃ first, result = .error first ∧ change first = last := by
  cases result with
  | ok value =>
    constructor
    · rintro ⟨⟩
    · rintro ⟨_, ⟨⟩, -⟩
  | error first =>
    constructor
    · rintro ⟨⟩
      exact ⟨first, rfl, rfl⟩
    · rintro ⟨_, ⟨⟩, rfl⟩
      rfl

/-- A command that an executor runs fails with what it reports of the error. -/
theorem Executor.transact_eq_error_iff {α State : Type} {engine : Engine State}
    {command : Command} {read : CommandResult → Except EngineError α} {state : State}
    {action statement : String} {failure : ExecutorError} :
    (transact engine action statement command read state).result = .error failure ↔
      ∃ error, engine.RaisesIn command read state error ∧ report action statement error = failure :=
  mapError_eq_error_iff.trans
    (exists_congr fun _ => and_congr_left' Engine.transact_eq_error_iff)

/-- The number in a report, null if there is none. -/
def reportNumber (report : Option DriverReport) : Value :=
  (report.bind fun report => report.arguments.head?).getD .null

/-- Whether the arguments of a report can be written out. -/
def reportIsWritten (report : Option DriverReport) : Bool :=
  report.elim true fun report => report.arguments.all Value.isWritten

/-- A report has a text if its arguments can be written out. -/
theorem givenIf_reportText (report : Option DriverReport) :
    GivenIf (reportIsWritten report) (reportText report) := by
  cases report with
  | none => exact givenIf_ok _
  | some report =>
    obtain ⟨arguments, code⟩ := report
    match arguments with
    | [] => exact givenIf_ok _
    | [argument] =>
      have one := argument.givenIf_shown
      rwa [← Bool.and_true argument.isWritten] at one
    | first :: second :: further =>
      exact (GivenIf.mapM fun argument _ => argument.givenIf_quoted).map _

theorem anyM_duplicateNumbers (number : Value) :
    duplicateNumbers.anyM number.equals =
      if number.isSignaling then .error .invalidArithmetic
      else .ok (duplicateNumbers.any number.same) := by
  simp only [duplicateNumbers, List.anyM, Value.equals_int]
  by_cases signaling : number.isSignaling
  · simp only [signaling, ↓reduceIte]
    rfl
  · simp only [signaling, Bool.false_eq_true, ↓reduceIte]
    cases first : number.same (.int 1062) <;>
      cases second : number.same (.int 1586) <;>
        simp [first, second, bind, Except.bind, pure, Except.pure]

/-- Whether a report is told to violate a unique key by its number or its code. -/
def isMarkedDuplicate (report : Option DriverReport) : Bool :=
  duplicateNumbers.any (reportNumber report).same ||
    decide ((report.bind DriverReport.code).getD .null = .text "23505")

/-- What is told of a report: what it is marked as comes first, and its words last. -/
theorem isUniqueViolation_eq (report : Option DriverReport) :
    isUniqueViolation report =
      if (reportNumber report).isSignaling then .error .invalidArithmetic
      else if isMarkedDuplicate report then .ok true
      else (reportText report).map fun text => duplicateWords.any (Text.contains text) := by
  unfold isUniqueViolation
  change (do
    if ← duplicateNumbers.anyM (reportNumber report).equals then return true
    else if ← ((report.bind DriverReport.code).getD .null).equals duplicateCode then return true
    else
      let text ← reportText report
      return duplicateWords.any (Text.contains text)) = _
  rw [anyM_duplicateNumbers, duplicateCode, Value.equals_text, isMarkedDuplicate]
  by_cases signaling : (reportNumber report).isSignaling
  · simp only [signaling, ↓reduceIte]
    rfl
  · simp only [signaling, Bool.false_eq_true, ↓reduceIte]
    cases duplicateNumbers.any (reportNumber report).same with
    | true => rfl
    | false => cases decide ((report.bind DriverReport.code).getD .null = .text "23505") <;> rfl

/-- What is told of a report whose arguments can be written out: a signaling not-a-number in the
place of the number is the only obstacle. -/
theorem isUniqueViolation_told {report : Option DriverReport} (written : reportIsWritten report) :
    (∃ unique, isUniqueViolation report = .ok unique) ↔ ¬ (reportNumber report).isSignaling := by
  obtain ⟨text, shown⟩ := (givenIf_reportText report).ok.mpr written
  rw [isUniqueViolation_eq, shown]
  by_cases signaling : (reportNumber report).isSignaling
  · simp [signaling]
  · cases marked : isMarkedDuplicate report <;> simp [signaling, Except.map]

/-- Reports that cannot be written out are no violations of anything but unique keys. -/
theorem isUniqueViolation_unwritten {report : Option DriverReport} {unique : Bool}
    (unwritten : ¬ reportIsWritten report) (told : isUniqueViolation report = .ok unique) :
    unique = true := by
  have given := givenIf_reportText report
  rw [Bool.eq_false_iff.mpr unwritten] at given
  rw [isUniqueViolation_eq, given.error] at told
  split at told
  · cases told
  · split at told
    · exact (Except.ok.inj told).symm
    · cases told

end Report

/-! ## The contract -/

/-- A call of an executor. -/
inductive ExecutorCall where
  | hasTable (table : String)
  | execute (statement : String)
  | queryScalar (statement : String) (parameters : Option Row)
  | queryRows (statement : String) (parameters : Option Row)
  | insertRecord (table : String) (values : Row)

/-- Whether it is something else than the database that fails. -/
def EngineError.IsForeign : EngineError → Prop
  | .foreign .. => True
  | .integrity .. | .database _ => False

/-- Whether a unique key is violated. -/
def EngineError.ViolatesUniqueKey : EngineError → Prop
  | .integrity report _ => isUniqueViolation report = .ok true
  | .database _ | .foreign .. => False

/-- Whether it cannot be told or written out which constraint is violated. -/
def EngineError.IsObscure : EngineError → Prop
  | .integrity report _ => (reportNumber report).isSignaling ∨ ¬ reportIsWritten report
  | .database _ | .foreign .. => False

theorem EngineError.IsForeign.not_isObscure {error : EngineError} (foreign : error.IsForeign) :
    ¬ error.IsObscure := by
  cases error with
  | foreign kind text => exact id
  | _ => cases foreign

/-- Whether the fault reports that the database rejected a statement, as a duplicate or otherwise. -/
def Fault.IsRejection : Fault → Prop
  | .executionFailure .. | .duplicateRecord .. => True
  | _ => False

/-- Whether the fault reports a duplicate record. -/
def Fault.IsDuplicate : Fault → Prop
  | .duplicateRecord .. => True
  | _ => False

/-- The statement that the database rejected. -/
def Fault.statement? : Fault → Option String
  | .executionFailure _ statement | .duplicateRecord _ statement => statement
  | _ => none

namespace ExecutorCall

variable {State : Type}

/-- What a call is answered with. -/
abbrev Answer : ExecutorCall → Type
  | .hasTable _ => Bool
  | .execute _ => Unit
  | .queryScalar .. => Value
  | .queryRows .. => List Row
  | .insertRecord .. => Value

/-- Makes a call. -/
def perform (engine : Engine State) (state : State) :
    (call : ExecutorCall) → ExecutorUse call.Answer State
  | .hasTable table => Executor.hasTable engine table state
  | .execute statement => Executor.execute engine statement state
  | .queryScalar statement parameters => Executor.queryScalar engine statement parameters state
  | .queryRows statement parameters => Executor.queryRows engine statement parameters state
  | .insertRecord table values => Executor.insertRecord engine table values state

/-- Whether an engine raises an error while a call runs. -/
def Raises (engine : Engine State) (state : State) (error : EngineError) : ExecutorCall → Prop
  | .hasTable table => (engine.hasTable table state).1 = .error error
  | .execute statement => engine.RaisesIn (.direct statement) (fun _ => .ok ()) state error
  | .queryScalar statement parameters =>
    engine.RaisesIn (.prepared statement (parameters.getD []))
      (fun result => result.rows.map Executor.firstCell) state error
  | .queryRows statement parameters =>
    engine.RaisesIn (.prepared statement (parameters.getD [])) CommandResult.rows state error
  | .insertRecord table values =>
    engine.RaisesIn (.prepared (engine.insertion table (values.map (·.1))) values)
      CommandResult.generatedId state error

/-- The statement that a call was given. -/
def statement? : ExecutorCall → Option String
  | .execute statement | .queryScalar statement _ | .queryRows statement _ => some statement
  | .hasTable _ | .insertRecord .. => none

/-- Whether a call runs in a transaction. -/
def InTransaction : ExecutorCall → Prop
  | .hasTable _ => False
  | _ => True

/-- Whether a fault wraps an error of the database as the contract has it. -/
structure Wraps (call : ExecutorCall) (error : EngineError) (fault : Fault) : Prop where
  rejection : fault.IsRejection
  duplicate : fault.IsDuplicate ↔ error.ViolatesUniqueKey
  statement : ∀ statement, call.statement? = some statement → fault.statement? = some statement

/-- Whether the outcome of a call in which an error is raised is as the contract has it: an error of
the database is wrapped, and every other error is passed on as it is. -/
def Honours (call : ExecutorCall) (error : EngineError)
    (outcome : Except ExecutorError call.Answer) : Prop :=
  (error.IsForeign ∧ outcome = .error (.unreported error)) ∨
    (¬ error.IsForeign ∧ ∃ fault, outcome = .error (.reported fault error) ∧ call.Wraps error fault)

/-- What a call makes of an error. -/
def passOn (engine : Engine State) (error : EngineError) : ExecutorCall → ExecutorError
  | .hasTable _ => .unreported error
  | .execute statement | .queryScalar statement _ | .queryRows statement _ =>
    Executor.report "Statement" statement error
  | .insertRecord table values =>
    Executor.report ("Insert into " ++ table) (engine.insertion table (values.map (·.1))) error

variable {engine : Engine State} {state : State} {error : EngineError}

/-- A call fails exactly if an error is raised, with what it makes of that error. -/
theorem perform_eq_error_iff (call : ExecutorCall) {failure : ExecutorError} :
    (call.perform engine state).result = .error failure ↔
      ∃ error, call.Raises engine state error ∧ call.passOn engine error = failure := by
  cases call with
  | hasTable table => exact mapError_eq_error_iff
  | execute statement => exact Executor.transact_eq_error_iff
  | queryScalar statement parameters => exact Executor.transact_eq_error_iff
  | queryRows statement parameters => exact Executor.transact_eq_error_iff
  | insertRecord table values => exact Executor.transact_eq_error_iff

/-- What is raised in a transaction is reported with the statement that the call was given. -/
theorem passOn_inTransaction {call : ExecutorCall} (inside : call.InTransaction) :
    ∃ action statement, (∀ own, call.statement? = some own → own = statement) ∧
      call.passOn engine error = Executor.report action statement error := by
  cases call with
  | hasTable table => cases inside
  | execute statement => exact ⟨_, statement, by rintro _ ⟨⟩; rfl, rfl⟩
  | queryScalar statement parameters => exact ⟨_, statement, by rintro _ ⟨⟩; rfl, rfl⟩
  | queryRows statement parameters => exact ⟨_, statement, by rintro _ ⟨⟩; rfl, rfl⟩
  | insertRecord table values => exact ⟨_, _, by rintro _ ⟨⟩, rfl⟩

/-- In a transaction, an error is reported as the contract has it unless it is obscure. -/
theorem report_honours_iff {call : ExecutorCall} {action statement : String}
    (same : ∀ own, call.statement? = some own → own = statement) :
    call.Honours error (.error (Executor.report action statement error)) ↔ ¬ error.IsObscure := by
  cases error with
  | foreign kind text => simp [Honours, EngineError.IsForeign, EngineError.IsObscure, Executor.report]
  | database text =>
    simp only [Honours, EngineError.IsForeign, EngineError.IsObscure, Executor.report, false_and,
      not_false_eq_true, true_and, false_or, iff_true]
    refine ⟨_, rfl, trivial, ?_, ?_⟩
    · exact Iff.rfl
    · intro own stated
      rw [same own stated]
      rfl
  | integrity report text =>
    simp only [Honours, EngineError.IsForeign, EngineError.IsObscure, Executor.report, false_and,
      not_false_eq_true, true_and, false_or, not_or, not_not]
    have given := givenIf_reportText report
    cases written : reportIsWritten report with
    | false =>
      rw [written] at given
      rw [iff_false_right (by simp)]
      rintro ⟨fault, reported, -⟩
      cases unique : isUniqueViolation report with
      | error fault => simp [unique] at reported
      | ok unique' =>
        obtain rfl := isUniqueViolation_unwritten (by simp [written]) unique
        simp [unique, given.error] at reported
    | true =>
      obtain ⟨shown, given⟩ := given.ok.mpr written
      rw [and_iff_left rfl, ← isUniqueViolation_told written]
      cases unique : isUniqueViolation report with
      | error fault => simp
      | ok duplicate =>
        refine ⟨fun _ => ⟨duplicate, rfl⟩, fun _ => ?_⟩
        have stated : ∀ own, call.statement? = some own → some statement = some own := by
          intro own stated
          rw [same own stated]
        cases duplicate with
        | true =>
          simp only [given]
          refine ⟨_, rfl, trivial, ?_, stated⟩
          simp [Fault.IsDuplicate, EngineError.ViolatesUniqueKey, unique]
        | false =>
          refine ⟨_, rfl, trivial, ?_, stated⟩
          simp [Fault.IsDuplicate, EngineError.ViolatesUniqueKey, unique]

/-- The contract is kept for every error but those that the database raises while a table is looked
up, and those that are obscure. -/
theorem honours_iff (call : ExecutorCall) (raised : call.Raises engine state error) :
    call.Honours error (call.perform engine state).result ↔
      error.IsForeign ∨ (call.InTransaction ∧ ¬ error.IsObscure) := by
  have result : (call.perform engine state).result = .error (call.passOn engine error) :=
    (perform_eq_error_iff call).mpr ⟨error, raised, rfl⟩
  rw [result]
  by_cases inside : call.InTransaction
  · obtain ⟨action, statement, given, reported⟩ := passOn_inTransaction inside
    rw [reported, report_honours_iff given]
    constructor
    · exact fun told => .inr ⟨inside, told⟩
    · rintro (foreign | ⟨-, told⟩)
      · exact foreign.not_isObscure
      · exact told
  · cases call with
    | hasTable table => simp [Honours, passOn, InTransaction]
    | _ => exact absurd trivial inside

/-- A row that violates a unique key when it is inserted. -/
theorem duplicateRow_honoured :
    let error : EngineError := .integrity (some ⟨[.int 1062, .text "Duplicate entry"], none⟩) "key"
    let state : ScriptedEngine := ⟨[], [.error error]⟩
    let call : ExecutorCall := .insertRecord "migrations" [("migration", .text "a")]
    call.Raises ScriptedEngine.engine state error ∧ call.InTransaction ∧ ¬ error.IsObscure ∧
      (call.Honours error (call.perform ScriptedEngine.engine state).result ↔
        error.IsForeign ∨ (call.InTransaction ∧ ¬ error.IsObscure)) := by
  intro error state call
  have raised : call.Raises ScriptedEngine.engine state error := .running rfl rfl
  have told : ¬ error.IsObscure := not_or.mpr ⟨Bool.false_ne_true, not_not.mpr (by decide +kernel)⟩
  exact ⟨raised, trivial, told, honours_iff call raised⟩

/-- An engine that has lost its database. -/
def unreachable : Engine Unit where
  hasTable _ state := (.error (.database "connection lost"), state)
  begin state := (.error (.database "connection lost"), state)
  run _ state := (.error (.database "connection lost"), state)
  commit state := (.error (.database "connection lost"), state)
  rollback state := state
  dispose state := state
  insertion _ _ := "INSERT"

/-- An error of the database that a lookup passes on as it is, and one that a statement cannot
report. -/
theorem unwrappedErrors_let_through :
    let lost : EngineError := .database "connection lost"
    let lookup : ExecutorCall := .hasTable "posts"
    let obscure : EngineError :=
      .integrity (some ⟨[.decimal (.nan false true 0)], none⟩) "shown"
    let state : ScriptedEngine := ⟨[], [.error obscure]⟩
    let insert : ExecutorCall := .execute "INSERT 1"
    (lookup.Raises unreachable () lost ∧
      (lookup.perform unreachable ()).result = .error (.unreported lost) ∧
      ¬ lookup.Honours lost (lookup.perform unreachable ()).result) ∧
    insert.Raises ScriptedEngine.engine state obscure ∧
      (insert.perform ScriptedEngine.engine state).result =
        .error (.undecided .invalidArithmetic) ∧
      ¬ insert.Honours obscure (insert.perform ScriptedEngine.engine state).result := by
  intro lost lookup obscure state insert
  refine ⟨⟨rfl, rfl, ?_⟩, .running rfl rfl, rfl, ?_⟩
  · rintro (⟨foreign, -⟩ | ⟨-, fault, wrapped, -⟩)
    · cases foreign
    · cases wrapped
  · rintro (⟨foreign, -⟩ | ⟨-, fault, wrapped, -⟩)
    · cases foreign
    · cases wrapped

end ExecutorCall

end Tablewright
