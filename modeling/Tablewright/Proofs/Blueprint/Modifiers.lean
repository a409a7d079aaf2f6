import Tablewright.Proofs.Blueprint.Pending
import Tablewright.Proofs.Blueprint.Rendered
import Tablewright.Proofs.Blueprint.Spared

/-! # Modifiers

Each clause of a column is decided by calls on that column: by the last one that succeeded among
those that are about the clause. So a column with a type is known from the way it was declared and
from the calls on it, and its fragment is those calls put in the fixed order. What else happens to
the blueprint does not matter: calls on other columns, indexes, foreign keys, and calls that fail.

A call on the blueprint for the column defined last counts as a call on that column. Only a default
may fail, and whether it does depends on nothing but the type of the column.
-/

namespace Tablewright

/-- What a modifier is about. -/
inductive Slot where
  | nullability
  | default
  | refresh
  | comment
  | position
  | kind
deriving DecidableEq

namespace ColumnCall

/-- What a call on a column is about, if it is a modifier. -/
def slot? : ColumnCall → Option Slot
  | .nullable _ => some .nullability
  | .setDefault _ | .defaultRaw _ | .useCurrent => some .default
  | .useCurrentOnUpdate => some .refresh
  | .comment _ => some .comment
  | .after _ | .first => some .position
  | .change => some .kind
  | .sql | .addIndex .. => none

/-- Whether the argument of a modifier is of its documented type. A default may be any value. -/
def isDocumented : ColumnCall → Bool
  | .nullable (.bool _) | .defaultRaw (.text _) | .comment (.text _) | .after (.text _) => true
  | .nullable _ | .defaultRaw _ | .comment _ | .after _ => false
  | .sql | .setDefault _ | .useCurrent | .useCurrentOnUpdate | .first | .addIndex .. | .change =>
    true

end ColumnCall

/-- Whether what says that a whole number is unsigned is a truth value. -/
def TypedColumn.isDocumented : TypedColumn → Bool
  | .integer (.bool _) | .bigInteger (.bool _) => true
  | .integer _ | .bigInteger _ => false
  | _ => true

/-- Whether a value mentions nothing. -/
def Value.MentionsNothing (value : Value) : Prop :=
  ∀ words, value.fill words = .ok value

/-! ## The last calls -/

/-- The calls that are about one thing. -/
def onSlot (slot : Slot) (calls : List ColumnCall) : List ColumnCall :=
  calls.filter fun call => call.slot? = some slot

/-- The last call that is about one thing. -/
def lastOn (slot : Slot) (calls : List ColumnCall) : Option ColumnCall :=
  (onSlot slot calls).getLast?

theorem onSlot_append (slot : Slot) (calls more : List ColumnCall) :
    onSlot slot (calls ++ more) = onSlot slot calls ++ onSlot slot more :=
  List.filter_append ..

theorem lastOn_concat (slot : Slot) (calls : List ColumnCall) (call : ColumnCall) :
    lastOn slot (calls ++ [call]) =
      if call.slot? = some slot then some call else lastOn slot calls := by
  by_cases about : call.slot? = some slot <;> simp [lastOn, onSlot, List.filter_append, about]

/-- Whether null is allowed: it is not unless the last call says so. -/
def allowsNull (calls : List ColumnCall) : Bool :=
  match lastOn .nullability calls with
  | some (.nullable (.bool allowed)) => allowed
  | _ => false

/-- The default that the last call gives. -/
def givenDefault (calls : List ColumnCall) : DefaultClause :=
  match lastOn .default calls with
  | some (.setDefault value) => .value value
  | some (.defaultRaw (.text expression)) => .expression (.text expression)
  | some .useCurrent => .expression (.text "CURRENT_TIMESTAMP")
  | _ => .none

/-- An expression that is given is a text. -/
theorem givenDefault_cases (calls : List ColumnCall) :
    givenDefault calls = .none ∨ (∃ value, givenDefault calls = .value value) ∨
      ∃ expression, givenDefault calls = .expression (.text expression) := by
  unfold givenDefault
  split
  · exact .inr (.inl ⟨_, rfl⟩)
  · exact .inr (.inr ⟨_, rfl⟩)
  · exact .inr (.inr ⟨_, rfl⟩)
  · exact .inl rfl

/-- Whether any call asks for a refresh. -/
def isRefreshed (calls : List ColumnCall) : Bool :=
  (lastOn .refresh calls).isSome

/-- The comment that the last call gives. -/
def givenComment (calls : List ColumnCall) : Option String :=
  match lastOn .comment calls with
  | some (.comment (.text comment)) => some comment
  | _ => none

/-- The position that the last call gives. -/
def givenPosition (calls : List ColumnCall) : Option String :=
  match lastOn .position calls with
  | some (.after (.text other)) => some ("AFTER " ++ quoteName other)
  | some .first => some "FIRST"
  | _ => none

/-- What the column does to its table: it is added unless a call makes it a change. -/
def givenKind (calls : List ColumnCall) : SpecKind :=
  if (lastOn .kind calls).isSome then .modify else .add

/-! ## Declared columns -/

/-- How a column with a type is declared. -/
structure Declared where
  name : String
  type : ColumnType
  isNumbered : Bool

namespace Declared

/-- The words for a default. -/
def defaultWords : DefaultClause → Except Fault (List String)
  | .none => .ok []
  | .value value => do return ["DEFAULT " ++ (← defaultLiteral value)]
  | .expression expression => do return ["DEFAULT " ++ (← expression.shown)]

/-- The clauses of a column after calls on it, with the words for its type and its default. -/
def text (declared : Declared) (calls : List ColumnCall) (type : String) (default : List String) :
    String :=
  " ".intercalate ([quoteName declared.name, type] ++
    [if allowsNull calls then "NULL" else "NOT NULL"] ++
    (if declared.isNumbered then ["AUTO_INCREMENT", "PRIMARY KEY"] else []) ++
    default ++
    (if isRefreshed calls then ["ON UPDATE CURRENT_TIMESTAMP"] else []) ++
    ((givenComment calls).map fun comment => "COMMENT " ++ quoteLiteral comment).toList ++
    (givenPosition calls).toList)

/-- The fragment of a column after calls on it, where its default is read in a given way. -/
def fragment (declared : Declared) (read : Value → Except Fault Value) (calls : List ColumnCall) :
    Except Fault String := do
  let default ← (givenDefault calls).inWords read
  let type ← declared.type.sql
  return declared.text calls type (← defaultWords default)

/-- The column after calls on it. -/
def column (declared : Declared) (calls : List ColumnCall) : Column where
  name := .text declared.name
  kind := givenKind calls
  type := some declared.type
  definition := .null
  nullability := .bool (allowsNull calls)
  autoIncrement := declared.isNumbered
  primaryKey := declared.isNumbered
  defaultClause := givenDefault calls
  refreshed := isRefreshed calls
  comment := .ofText? (givenComment calls)
  position := givenPosition calls

/-- A column is known from the last call on each slot. -/
theorem column_congr (declared : Declared) {calls others : List ColumnCall}
    (same : ∀ slot, lastOn slot others = lastOn slot calls) :
    declared.column others = declared.column calls := by
  simp only [column, givenKind, givenDefault, allowsNull, isRefreshed, givenComment, givenPosition,
    same]

/-- Whether the type takes the default that a call gives. -/
def takes (declared : Declared) : ColumnCall → Bool
  | .setDefault value => (declared.type.defaultProblems value).isEmpty
  | _ => true

end Declared

/-- Whether the type of a column takes the default that a call gives. -/
def Column.takes (column : Column) : ColumnCall → Bool
  | .setDefault value => (column.defaultProblems value).isEmpty
  | _ => true

theorem Declared.takes_column (declared : Declared) (calls : List ColumnCall) (call : ColumnCall) :
    (declared.column calls).takes call = declared.takes call := by
  cases call <;> rfl

/-- What a documented call makes of its column. -/
def ColumnCall.edit : ColumnCall → Column → Column
  | .nullable value, column => { column with nullability := value }
  | .setDefault value, column => column.withDefault value
  | .defaultRaw expression, column => column.withExpression expression
  | .useCurrent, column => column.withExpression (.text currentMoment)
  | .useCurrentOnUpdate, column => { column with refreshed := true }
  | .comment text, column => { column with comment := text }
  | .after other, column =>
    { column with position := some ("AFTER " ++ quoteName other.plainForm) }
  | .first, column => { column with position := some "FIRST" }
  | .change, column => { column with kind := .modify }
  | .sql, column | .addIndex .., column => column

/-- A call on a column adds to the calls that the column is known from. -/
theorem ColumnCall.edit_column (declared : Declared) (calls : List ColumnCall) {call : ColumnCall}
    (documented : call.isDocumented) :
    call.edit (declared.column calls) = declared.column (calls ++ [call]) := by
  simp only [Declared.column, allowsNull, givenDefault, isRefreshed, givenComment, givenPosition,
    givenKind, lastOn_concat]
  cases call with
  | nullable value =>
    cases value with
    | bool allowed => rfl
    | _ => cases documented
  | defaultRaw expression | comment expression | after expression =>
    cases expression with
    | text text => rfl
    | _ => cases documented
  | setDefault | useCurrent | useCurrentOnUpdate | first | change | sql | addIndex => rfl

/-! ## Calls on a column -/

namespace Blueprint

/-- The call that a move is on the column at a position. -/
def aimed? (blueprint : Blueprint) (index : Nat) : Move → Option ColumnCall
  | .call call =>
    (call.aim? blueprint).bind fun (ref, aimed) =>
      if ref = .attached index then some aimed else none
  | .keep _ => none

/-- Whether a move fails. -/
def fails (blueprint : Blueprint) : Move → Bool
  | .call call => !(blueprint.perform call).result.isOk
  | .keep _ => false

/-- The call that a move is on the column at a position, unless it fails. -/
def made? (blueprint : Blueprint) (index : Nat) (move : Move) : Option ColumnCall :=
  if blueprint.fails move then none else blueprint.aimed? index move

/-- The calls that moves are on the column at a position. -/
def aimedOn (blueprint : Blueprint) (index : Nat) : List Move → List ColumnCall
  | [] => []
  | move :: moves =>
    (blueprint.aimed? index move).toList ++ (blueprint.moved move).aimedOn index moves

/-- The calls that moves are on the column at a position, without those that fail. -/
def madeOn (blueprint : Blueprint) (index : Nat) : List Move → List ColumnCall
  | [] => []
  | move :: moves =>
    (blueprint.made? index move).toList ++ (blueprint.moved move).madeOn index moves

variable {blueprint : Blueprint} {index : Nat} {declared : Declared} {calls : List ColumnCall}

theorem setDefault_of_taken {ref : ColumnRef} {column : Column} {value : Value}
    (found : blueprint.column? ref = some column) (taken : column.defaultProblems value = []) :
    blueprint.setDefault ref value =
      .ok (blueprint.updateColumn ref (Column.withDefault · value)) := by
  simp only [setDefault, found, taken]

theorem setDefault_of_refused {ref : ColumnRef} {column : Column} {value : Value}
    (found : blueprint.column? ref = some column) (refused : column.defaultProblems value ≠ []) :
    ∃ fault, blueprint.setDefault ref value = .error fault := by
  cases outcome : blueprint.setDefault ref value with
  | error fault => exact ⟨fault, rfl⟩
  | ok after =>
    obtain ⟨missing, -⟩ | ⟨other, present, taken, -⟩ := setDefault_cases outcome
    · cases found.symm.trans missing
    · obtain rfl := Option.some.inj (found.symm.trans present)
      exact absurd taken refused

/-- A call that is no modifier leaves the column as it is. -/
theorem callColumn_passes {column : Column}
    (found : blueprint.column? (.attached index) = some column) {call : ColumnCall}
    (other : call.slot? = none) :
    (blueprint.callColumn (.attached index) call).blueprint.column? (.attached index) =
      some column := by
  cases call with
  | sql =>
    rw [callColumn, found]
    exact found
  | addIndex kind name =>
    have leaves : Leaves (fun _ => False) blueprint
        (blueprint.callColumn (.attached index) (.addIndex kind name)).blueprint :=
      attempt_keeps (.refl _) (fun _ => addIndex_leaves) _
    exact leaves.columns _ _ id found
  | _ => cases other

/-- A documented call edits its column unless it fails. A modifier fails only if it is a default
that the type of the column does not take. -/
theorem callColumn_edits_column {column : Column}
    (found : blueprint.column? (.attached index) = some column) {call : ColumnCall}
    (documented : call.isDocumented) :
    let outcome := blueprint.callColumn (.attached index) call
    outcome.blueprint.column? (.attached index) =
        some (if outcome.result.isOk then call.edit column else column) ∧
      ∀ slot, call.slot? = some slot → outcome.result.isOk = column.takes call := by
  intro outcome
  have edited (change : Column → Column) :
      (blueprint.updateColumn (.attached index) change).column? (.attached index) =
        some (change column) := by
    rw [column?_updateColumn, found, Option.map_some]
  cases call with
  | sql | addIndex =>
    refine ⟨?_, fun slot about => by cases about⟩
    rw [callColumn_passes found rfl]
    split <;> rfl
  | setDefault value =>
    by_cases taken : column.defaultProblems value = []
    · have made : outcome = (blueprint.updateColumn (.attached index)
          (Column.withDefault · value)).awaits (.column (.attached index)) := by
        simp only [outcome, callColumn, setDefault_of_taken found taken, attempt]
      have takes : column.takes (.setDefault value) = true := by
        simpa [Column.takes] using taken
      rw [made, takes]
      exact ⟨edited _, fun _ _ => rfl⟩
    · obtain ⟨fault, refused⟩ := setDefault_of_refused found taken
      have made : outcome = blueprint.asked (.error fault) := by
        simp only [outcome, callColumn, refused, attempt]
      have refuses : column.takes (.setDefault value) = false := by
        simpa [Column.takes] using taken
      rw [made, refuses]
      exact ⟨found, fun _ _ => rfl⟩
  | after other =>
    cases other with
    | text other => exact ⟨edited _, fun _ _ => rfl⟩
    | _ => cases documented
  | _ => exact ⟨edited _, fun _ _ => rfl⟩

/-- A documented call that succeeds is one more that the column is known from. A modifier succeeds
unless it is a default that the type does not take. -/
theorem callColumn_column
    (found : blueprint.column? (.attached index) = some (declared.column calls))
    {call : ColumnCall} (documented : call.isDocumented) :
    let outcome := blueprint.callColumn (.attached index) call
    outcome.blueprint.column? (.attached index) =
        some (declared.column (calls ++ if outcome.result.isOk then [call] else [])) ∧
      ∀ slot, call.slot? = some slot → outcome.result.isOk = declared.takes call := by
  intro outcome
  obtain ⟨reached, takes⟩ := callColumn_edits_column found documented
  refine ⟨?_, fun slot about => (takes slot about).trans (declared.takes_column calls call)⟩
  rw [reached, call.edit_column declared calls documented]
  split
  · rfl
  · rw [List.append_nil]

/-! ## Moves -/

/-- A move that is no call on a column leaves the column as it is, if it has a type. -/
theorem moved_passes {column : Column} (found : blueprint.column? (.attached index) = some column)
    (typed : column.isTyped = true) {move : Move} (other : blueprint.aimed? index move = none) :
    (blueprint.moved move).column? (.attached index) = some column := by
  let free (ref : ColumnRef) : Prop := ref ≠ .attached index
  have guarded : ¬ free (.attached index) := not_not.mpr rfl
  have guards : Guards free blueprint := by
    intro ref unfree
    obtain rfl := not_not.mp unfree
    exact ⟨column, found, typed⟩
  cases move with
  | keep values => exact blueprint.keepAll_keepsColumns values _ _ guarded found
  | call call =>
    refine perform_keepsColumns guards call ?_ _ _ guarded found
    rintro ref aimed aim rfl
    simp [aimed?, aim] at other

/-- A move that is a call on a column does what that call does, and fails if that does. -/
theorem moved_aimed {move : Move} {call : ColumnCall}
    (aimed : blueprint.aimed? index move = some call) :
    blueprint.moved move = (blueprint.callColumn (.attached index) call).blueprint ∧
      blueprint.fails move = !(blueprint.callColumn (.attached index) call).result.isOk := by
  cases move with
  | keep values => cases aimed
  | call made =>
    obtain ⟨⟨ref, other⟩, aim, same⟩ := Option.bind_eq_some_iff.mp aimed
    obtain ⟨rfl, rfl⟩ : ref = .attached index ∧ other = call := by simpa using same
    obtain ⟨after, result⟩ := perform_aim aim
    exact ⟨after, congrArg not result⟩

/-- A column is known from the calls on it that succeed, move after move. Which modifiers these are
depends on the type of the column only. -/
theorem moved_column (found : blueprint.column? (.attached index) = some (declared.column calls))
    {move : Move} (documented : ∀ call ∈ blueprint.aimed? index move, call.isDocumented) :
    (blueprint.moved move).column? (.attached index) =
        some (declared.column (calls ++ (blueprint.made? index move).toList)) ∧
      ∀ slot, onSlot slot (blueprint.made? index move).toList =
        (onSlot slot (blueprint.aimed? index move).toList).filter declared.takes := by
  cases aimed : blueprint.aimed? index move with
  | none =>
    have unmade : blueprint.made? index move = none := by simp [made?, aimed]
    rw [unmade, Option.toList_none, List.append_nil]
    exact ⟨moved_passes found rfl aimed, fun _ => rfl⟩
  | some call =>
    obtain ⟨after, fails⟩ := moved_aimed aimed
    obtain ⟨column, takes⟩ := callColumn_column found (documented call aimed)
    have made : (blueprint.made? index move).toList =
        if (blueprint.callColumn (.attached index) call).result.isOk then [call] else [] := by
      rw [made?, fails, aimed]
      cases (blueprint.callColumn (.attached index) call).result.isOk <;> rfl
    rw [made, after]
    refine ⟨column, fun slot => ?_⟩
    by_cases about : call.slot? = some slot
    · rw [takes slot about]
      cases taken : declared.takes call <;> simp [onSlot, about, taken]
    · cases (blueprint.callColumn (.attached index) call).result.isOk <;> simp [onSlot, about]

theorem movedAll_column (found : blueprint.column? (.attached index) = some (declared.column calls))
    {moves : List Move} (documented : ∀ call ∈ blueprint.aimedOn index moves, call.isDocumented) :
    (blueprint.movedAll moves).column? (.attached index) =
        some (declared.column (calls ++ blueprint.madeOn index moves)) ∧
      ∀ slot, onSlot slot (blueprint.madeOn index moves) =
        (onSlot slot (blueprint.aimedOn index moves)).filter declared.takes := by
  induction moves generalizing blueprint calls with
  | nil => exact ⟨by simpa [madeOn] using found, fun _ => rfl⟩
  | cons move moves ih =>
    rw [aimedOn] at documented
    obtain ⟨first, rest⟩ := List.forall_mem_append.mp documented
    have admitted : ∀ call ∈ blueprint.aimed? index move, call.isDocumented :=
      fun call aimed => first call (Option.mem_toList.mpr aimed)
    obtain ⟨column, made⟩ := moved_column found admitted
    obtain ⟨reached, later⟩ := ih column rest
    refine ⟨?_, fun slot => ?_⟩
    · rw [movedAll_cons, reached, madeOn, List.append_assoc]
    · rw [madeOn, aimedOn, onSlot_append, onSlot_append, made slot, later slot,
        List.filter_append]

/-! ## Typed columns -/

/-- A call on the blueprint adds a column at a position with some first calls on it. The default in
a definition is a call, unless it fails, and so are the modifiers of timestamps and soft
deletions. -/
inductive Declares (blueprint : Blueprint) : TableCall → Nat → Declared → List ColumnCall → Prop
  | define {column : TypedColumn} {name : String} {default : Value} {type : ColumnType}
    (documented : column.isDocumented) (typed : blueprint.columnType column = .ok type)
    (added : blueprint.awaiting? (.text name) = .ok none) :
    Declares blueprint (.define column (.text name) default) blueprint.specs.length
      ⟨name, type, column.isNumbered⟩
      (if default ≠ .null ∧ (blueprint.callDefine column (.text name) default).result.isOk then
        [.setDefault default] else [])
  | softDeletes {name : String} (added : blueprint.awaiting? (.text name) = .ok none) :
    Declares blueprint (.softDeletes (.text name)) blueprint.specs.length
      ⟨name, .dateTime, false⟩ [.nullable (.bool true)]
  | foreignId {name : String} (added : blueprint.awaiting? (.text name) = .ok none) :
    Declares blueprint (.foreignId (.text name)) blueprint.specs.length
      ⟨name, .unsignedInteger, false⟩ []
  | created (added : blueprint.awaiting? (.text "created_at") = .ok none) :
    Declares blueprint .timestamps blueprint.specs.length
      ⟨"created_at", .dateTime, false⟩ [.useCurrent]
  | updated {defined : Blueprint} {ref : ColumnRef}
    (made : blueprint.defineMoment (.text "created_at") = .ok (defined, ref)) :
    Declares blueprint .timestamps defined.specs.length
      ⟨"updated_at", .dateTime, false⟩ [.useCurrent, .useCurrentOnUpdate]

/-- A definition that no column awaits adds a column. -/
theorem define_added {name : Value} (added : blueprint.awaiting? name = .ok none)
    (type : ColumnType) :
    blueprint.define name type =
      .ok (blueprint.appendColumn (.typed name type), .attached blueprint.specs.length) := by
  rw [define, added]
  rfl

/-- No column awaits a type after another column has been defined. -/
theorem awaiting?_after_define {name : Value} {type : ColumnType} {defined : Blueprint}
    {ref : ColumnRef} (made : blueprint.define name type = .ok (defined, ref))
    {change : Column → Column} (kept : ∀ column, (change column).type = column.type)
    (other : String) :
    (defined.updateColumn ref change).awaiting? (.text other) = .ok none := by
  obtain ⟨awaited, found⟩ := (defined.updateColumn ref change).awaiting?_text other
  cases awaited with
  | none => exact found
  | some index =>
    obtain ⟨current, column, present, awaits, -⟩ := awaiting?_eq_some found
    obtain ⟨before, there, known, -⟩ := define_column made
    have here : ref = .attached index := by
      obtain ⟨position, awaited, rfl, rfl⟩ | ⟨-, rfl, rfl⟩ := define_cases made
      · obtain ⟨same, -⟩ := awaiting?_eq_some awaited
        exact congrArg ColumnRef.attached (Option.some.inj (same.symm.trans current))
      · exact congrArg ColumnRef.attached (Option.some.inj current)
    rw [← here, column?_updateColumn, there] at present
    obtain rfl := Option.some.inj present
    have typed : (change before).isTyped = true := by simp [Column.isTyped, kept, known]
    cases awaits.2.symm.trans typed

theorem length_specs_updateColumn (blueprint : Blueprint) (ref : ColumnRef)
    (change : Column → Column) :
    (blueprint.updateColumn ref change).specs.length = blueprint.specs.length := by
  cases ref with
  | attached index => exact List.length_modify ..
  | detached index => rfl

/-- The column for the last change comes behind everything there is when the one for the creation
has been defined. -/
theorem addTimestamps_eq {defined : Blueprint} {ref : ColumnRef}
    (made : blueprint.defineMoment (.text "created_at") = .ok (defined, ref)) :
    blueprint.addTimestamps = .ok
      (((defined.updateColumn ref (Column.withExpression · (.text currentMoment))).appendColumn
        (.typed (.text "updated_at") .dateTime)).updateColumn (.attached defined.specs.length)
        fun column => { column.withExpression (.text currentMoment) with refreshed := true }) := by
  have kept (column : Column) :
      (column.withExpression (.text currentMoment)).type = column.type := rfl
  have added := define_added (awaiting?_after_define made kept "updated_at") .dateTime
  rw [length_specs_updateColumn] at added
  exact bind_eq_ok.mpr ⟨_, made, bind_eq_ok.mpr ⟨_, added, rfl⟩⟩

theorem column?_defined (blueprint : Blueprint) (name : String) (type : ColumnType)
    (column : TypedColumn) :
    ((blueprint.appendColumn (.typed (.text name) type)).numbered
        (.attached blueprint.specs.length) column).column? (.attached blueprint.specs.length) =
      some (Declared.column ⟨name, type, column.isNumbered⟩ []) := by
  unfold numbered
  split
  · rename_i numbered
    rw [column?_updateColumn, column?_appendColumn, numbered]
    rfl
  · rename_i unnumbered
    rw [column?_appendColumn, Bool.eq_false_iff.mpr unnumbered]
    rfl

/-- A column is known from its declaration and the first calls right after it has been added. -/
theorem Declares.column {call : TableCall} {first : List ColumnCall}
    (declares : blueprint.Declares call index declared first) :
    (blueprint.callTable call).blueprint.column? (.attached index) =
      some (declared.column first) := by
  cases declares with
  | @define column name default type documented typed added =>
    have begun := blueprint.column?_defined name type column
    have made := callDefine_eq typed (define_added added type) default
    rw [callTable]
    by_cases null : default = .null
    · rw [if_neg fun given => given.1 null, made, if_pos null]
      exact begun
    · have given : ColumnCall.isDocumented (.setDefault default) := rfl
      rw [if_neg null] at made
      simp only [made, ne_eq, null, not_false_eq_true, true_and]
      exact (callColumn_column begun given).1
  | softDeletes added =>
    simp only [callTable, defineMoment, define_added added, awaits, answered]
    rw [column?_updateColumn, column?_appendColumn]
    rfl
  | foreignId added =>
    simp only [callTable, define_added added]
    exact column?_appendColumn _ _
  | created added =>
    have made : blueprint.defineMoment (.text "created_at") = _ := define_added added .dateTime
    have stamped : ((blueprint.appendColumn (.typed (.text "created_at") .dateTime)).updateColumn
        (.attached blueprint.specs.length)
          (Column.withExpression · (.text currentMoment))).column?
            (.attached blueprint.specs.length) =
          some (Declared.column ⟨"created_at", .dateTime, false⟩ [.useCurrent]) := by
      rw [column?_updateColumn, column?_appendColumn]
      rfl
    have apart : blueprint.specs.length ≠
        (blueprint.appendColumn (.typed (.text "created_at") .dateTime)).specs.length := by
      simp [appendColumn]
    simp only [callTable, addTimestamps_eq made, attempt, awaits, answered]
    rw [column?_updateColumn_other apart]
    exact (@appendColumn_leaves (fun _ => False) _ _).columns _ _ id stamped
  | @updated defined ref made =>
    simp only [callTable, addTimestamps_eq made, attempt, awaits, answered]
    rw [column?_updateColumn, ← length_specs_updateColumn defined ref, column?_appendColumn]
    rfl

/-! ## Fragments -/

/-- Values that mention nothing are their own wordings. -/
theorem mapM_words {values : List Value} (plain : ∀ value ∈ values, value.MentionsNothing) :
    values.mapM blueprint.words = .ok values :=
  mapM_eq_ok.mpr (List.forall₂_same.mpr fun value member =>
    blueprint.words_eq_self (plain value member))

/-- The type of a column with a documented sign reads the same in every blueprint. -/
theorem viewedType_of_typed {column : TypedColumn} (documented : column.isDocumented)
    {type : ColumnType} (typed : blueprint.columnType column = .ok type) (other : Blueprint) :
    other.viewedType type = type := by
  cases column with
  | integer unsigned | bigInteger unsigned =>
    cases unsigned with
    | bool unsigned =>
      obtain rfl := Except.ok.inj typed
      rfl
    | _ => cases documented
  | string length | char length =>
    obtain ⟨_, -, same⟩ := bind_eq_ok.mp typed
    obtain rfl := Except.ok.inj same
    rfl
  | decimal precision scale =>
    obtain ⟨-, -, rfl⟩ := ColumnType.decimal_of_ofPrecision typed
    rfl
  | enum values =>
    obtain ⟨elements, -, typed⟩ := bind_eq_ok.mp typed
    obtain ⟨texts, -, typed⟩ := bind_eq_ok.mp typed
    obtain ⟨_, _, -, -, -, rfl⟩ := ColumnType.enum_of_ofValues typed
    rfl
  | _ =>
    obtain rfl := Except.ok.inj typed
    rfl

theorem Declares.viewedType {call : TableCall} {first : List ColumnCall}
    (declares : blueprint.Declares call index declared first) (other : Blueprint) :
    other.viewedType declared.type = declared.type := by
  cases declares with
  | define documented typed added => exact viewedType_of_typed documented typed other
  | softDeletes | foreignId | created | updated => rfl

/-- A column that is known from calls is rendered in the fixed order, whatever its default. -/
theorem sql_column (declared : Declared) (calls : List ColumnCall) (clause : DefaultClause) :
    { declared.column calls with defaultClause := clause : Column }.sql = do
      let type ← declared.type.sql
      return declared.text calls type (← Declared.defaultWords clause) := by
  let column : Column := { declared.column calls with defaultClause := clause }
  have name : column.name.shown = .ok declared.name := rfl
  have type : column.typeClause = declared.type.sql.map ([·]) := rfl
  have default : column.defaultClauses = Declared.defaultWords clause := by
    cases clause <;> rfl
  have definition : column.definitionClause = .ok [] := rfl
  have comment : column.commentClause =
      .ok ((givenComment calls).map fun comment => "COMMENT " ++ quoteLiteral comment).toList := by
    have given : column.comment = .ofText? (givenComment calls) := rfl
    rw [Column.commentClause, given]
    cases givenComment calls <;> rfl
  have nullability : column.nullabilityClause =
      [if allowsNull calls then "NULL" else "NOT NULL"] := rfl
  have key : column.keyClauses =
      if declared.isNumbered then ["AUTO_INCREMENT", "PRIMARY KEY"] else [] := by
    have numbered : column.autoIncrement = declared.isNumbered := rfl
    have keyed : column.primaryKey = declared.isNumbered := rfl
    rw [Column.keyClauses, numbered, keyed]
    cases declared.isNumbered <;> rfl
  change column.sql = _
  rw [Column.sql, Column.clauses, name, type, default, comment, definition, nullability, key]
  cases declared.type.sql with
  | error fault => rfl
  | ok size => cases Declared.defaultWords clause <;> rfl

/-- The fragment of a column that is known from calls puts them in the fixed order. -/
theorem columnSql_column (plain : blueprint.viewedType declared.type = declared.type)
    (calls : List ColumnCall) :
    blueprint.columnSql (declared.column calls) = declared.fragment blueprint.words calls := by
  have viewed : { declared.column calls with
      type := (declared.column calls).type.map blueprint.viewedType
      nullability := blueprint.viewed (declared.column calls).nullability : Column } =
      declared.column calls := by
    simp only [Declared.column, Option.map_some, plain]
    rfl
  have worded : (declared.column calls).inWords blueprint.words =
      ((givenDefault calls).inWords blueprint.words).map fun clause =>
        { declared.column calls with defaultClause := clause } := by
    have name : blueprint.words (.text declared.name) = .ok (.text declared.name) :=
      blueprint.words_eq_self fun _ => rfl
    rw [Column.inWords]
    change (blueprint.words (.text declared.name)).bind _ = _
    rw [name]
    rfl
  rw [columnSql, columnSqlBy, viewed, worded, Declared.fragment]
  cases (givenDefault calls).inWords blueprint.words with
  | error fault => rfl
  | ok clause => exact sql_column declared calls clause

/-- The answer to a call for the fragment of the column at a position. -/
def sqlAt (blueprint : Blueprint) (index : Nat) : Except Fault Value :=
  (blueprint.perform (.column (.attached index) .sql)).result

/-- What a column shows that is known from calls: its fragment and its kind. -/
structure Shows (blueprint : Blueprint) (index : Nat) (declared : Declared)
    (calls : List ColumnCall) : Prop where
  fragment : blueprint.sqlAt index = (declared.fragment blueprint.words calls).map .text
  kind : blueprint.specs[index]?.map Spec.kind = some (givenKind calls)

theorem shows_of_column (found : blueprint.column? (.attached index) = some (declared.column calls))
    (plain : blueprint.viewedType declared.type = declared.type) :
    blueprint.Shows index declared calls where
  fragment := by
    simp only [sqlAt, perform, callColumn, found, asked]
    rw [columnSql_column plain]
  kind := by
    rw [column?_attached.mp found]
    rfl

/-- A default that mentions nothing is read alike in every blueprint, and then the column has a
fragment if its numbers can be written out. -/
theorem fragment_of_plain (declared : Declared)
    (plain : ∀ value, givenDefault calls = .value value → value.MentionsNothing) :
    ∃ result, (∀ blueprint : Blueprint, declared.fragment blueprint.words calls = result) ∧
      GivenIf (declared.column calls).isWritten result := by
  have worded (blueprint : Blueprint) :
      (givenDefault calls).inWords blueprint.words = .ok (givenDefault calls) := by
    obtain given | ⟨value, given⟩ | ⟨expression, given⟩ := givenDefault_cases calls
    · rw [given]
      rfl
    · rw [given, DefaultClause.inWords, blueprint.words_eq_self (plain value given)]
      rfl
    · rw [given]
      rfl
  refine ⟨(declared.column calls).sql, fun blueprint => ?_, ?_⟩
  · rw [Declared.fragment, worded]
    exact (sql_column declared calls (givenDefault calls)).symm
  · have comment : (declared.column calls).comment.IsNote := by
      change (Value.ofText? (givenComment calls)).IsNote
      cases givenComment calls <;> trivial
    exact Column.givenIf_sql_of_notes trivial trivial comment

/-- Moves make documented calls on a column if others do that make the same modifiers. -/
theorem documented_of_onSlot {moves others : List ColumnCall}
    (documented : ∀ call ∈ moves, call.isDocumented)
    (same : ∀ slot, onSlot slot others = onSlot slot moves) :
    ∀ call ∈ others, call.isDocumented := by
  intro call member
  cases about : call.slot? with
  | none => cases call <;> first | rfl | cases about
  | some slot =>
    have present : call ∈ onSlot slot others :=
      List.mem_filter.mpr ⟨member, decide_eq_true about⟩
    rw [same slot] at present
    exact documented call (List.mem_filter.mp present).1

/-- The last call on each slot decides what a column shows. For every blueprint and every column
with a type that a call adds to it, whatever happens afterwards: the fragment of the column puts the
last successful calls on it in the fixed order, and it is a change exactly if one of them makes it
one. A column shows the same after all other moves that make the same modifiers on it slot by slot,
however these are interleaved with each other and with calls on other columns. -/
theorem lastCalls_shown {call : TableCall} {first : List ColumnCall}
    (declares : blueprint.Declares call index declared first) {moves : List Move}
    (documented : ∀ made ∈ (blueprint.callTable call).blueprint.aimedOn index moves,
      made.isDocumented) :
    let start := (blueprint.callTable call).blueprint
    let calls := first ++ start.madeOn index moves
    (start.movedAll moves).Shows index declared calls ∧
      ∀ others,
        (∀ slot, onSlot slot (start.aimedOn index others) =
          onSlot slot (start.aimedOn index moves)) →
        (start.movedAll others).Shows index declared calls ∧
          ((∀ value, givenDefault calls = .value value → value.MentionsNothing) →
            (start.movedAll others).sqlAt index = (start.movedAll moves).sqlAt index ∧
              if (declared.column calls).isWritten then
                ∃ text, (start.movedAll moves).sqlAt index = .ok (.text text)
              else (start.movedAll moves).sqlAt index = .error .badValue) := by
  intro start calls
  obtain ⟨reached, made⟩ := movedAll_column declares.column documented
  have shows := shows_of_column reached (declares.viewedType _)
  refine ⟨shows, fun others same => ?_⟩
  obtain ⟨reached', made'⟩ :=
    movedAll_column declares.column (documented_of_onSlot documented same)
  have alike : declared.column (first ++ start.madeOn index others) = declared.column calls := by
    refine declared.column_congr fun slot => ?_
    rw [lastOn, lastOn, onSlot_append, onSlot_append, made slot, made' slot, same slot]
  have shows' := shows_of_column (alike ▸ reached') (declares.viewedType _)
  refine ⟨shows', fun plain => ?_⟩
  obtain ⟨result, alike, given⟩ := fragment_of_plain declared plain
  rw [shows.fragment, shows'.fragment, alike, alike]
  refine ⟨rfl, ?_⟩
  cases written : (declared.column calls).isWritten with
  | true =>
    obtain ⟨text, rendered⟩ := given.ok.mpr written
    exact ⟨text, by rw [rendered]; rfl⟩
  | false =>
    rw [written] at given
    rw [given.error]
    rfl

/-- The definition of an enumeration with a default. -/
def stateColumn : TableCall :=
  .define (.enum (.list [.text "draft", .text "live"])) (.text "state") (.text "draft")

/-- Modifiers of the enumeration between calls on another column. The first default is refused, and
the next two are replaced. -/
def stateModifiers : List Move :=
  [.call (.column (.attached 1) (.comment (.text "it's"))),
    .call (.column (.attached 1) (.setDefault (.text "gone"))),
    .call (.table (.define (.string (.int 80)) (.text "title") .null)),
    .call (.column (.attached 1) (.nullable (.bool true))),
    .call (.table (.nullable (.bool true))),
    .call (.column (.attached 1) .useCurrent),
    .call (.column (.attached 1) (.addIndex .plain .null)),
    .call (.column (.attached 2) .change),
    .call (.column (.attached 1) (.after (.text "id"))),
    .call (.column (.attached 1) (.setDefault (.text "live"))),
    .call (.column (.attached 1) (.nullable (.bool false))),
    .call (.column (.attached 1) .change)]

/-- The same modifiers of the enumeration, slot by slot, in another order. -/
def stateModifiersSorted : List Move :=
  [.call (.column (.attached 1) .change),
    .call (.column (.attached 1) (.nullable (.bool true))),
    .call (.column (.attached 1) (.nullable (.bool false))),
    .call (.column (.attached 1) (.setDefault (.text "gone"))),
    .call (.column (.attached 1) .useCurrent),
    .call (.column (.attached 1) (.setDefault (.text "live"))),
    .call (.column (.attached 1) (.after (.text "id"))),
    .call (.column (.attached 1) (.comment (.text "it's")))]

theorem stateModifiers_shown :
    let start := (((empty "" "posts").appendColumn
      (.bare (.text "body") .modify)).callTable stateColumn).blueprint
    let text := "`state` ENUM('draft','live') NOT NULL DEFAULT 'live' COMMENT 'it''s' AFTER `id`"
    (∀ call ∈ start.aimedOn 1 stateModifiers, call.isDocumented) ∧
      (start.movedAll stateModifiers).sqlAt 1 = .ok (.text text) ∧
      (start.movedAll stateModifiersSorted).sqlAt 1 = .ok (.text text) ∧
      (start.movedAll stateModifiersSorted).specs[1]?.map Spec.kind = some .modify := by
  intro start text
  have declares : ((empty "" "posts").appendColumn (.bare (.text "body") .modify)).Declares
      stateColumn 1 ⟨"state", .enum ["draft", "live"], false⟩ _ := .define rfl rfl rfl
  have documented : ∀ call ∈ start.aimedOn 1 stateModifiers, call.isDocumented := by
    decide +kernel
  have same (slot : Slot) : onSlot slot (start.aimedOn 1 stateModifiersSorted) =
      onSlot slot (start.aimedOn 1 stateModifiers) := by
    cases slot <;> decide +kernel
  obtain ⟨-, others⟩ := lastCalls_shown declares documented
  obtain ⟨sorted, alike⟩ := others stateModifiersSorted same
  have rendered : (start.movedAll stateModifiers).sqlAt 1 = .ok (.text text) := by decide +kernel
  obtain ⟨shown, -⟩ := alike fun value given => by
    have live : some (Value.text "live") = some value :=
      (congrArg DefaultClause.value? given : _ = some value)
    obtain rfl := Option.some.inj live
    exact fun _ => rfl
  exact ⟨documented, rendered, shown.trans rendered, sorted.kind⟩

end Blueprint

end Tablewright
