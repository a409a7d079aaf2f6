import Tablewright.Proofs.Blueprint.Spared

/-! # Calls on the column defined last

Some calls are known to a blueprint and to its columns. A blueprint makes them on the column defined
last, so they are as good as calls on that column: they leave the same blueprint and fail alike.
Only what they answer differs, and a call with the wrong arguments names another callee. All other
calls that a column gets go on to the blueprint as they are, and so do those of a foreign key.
-/

namespace Tablewright

/-! ## Arguments bound for two callees -/

/-- The mismatch of arguments as another callee has it. -/
def Mismatch.on (callee : String) : Mismatch → Mismatch
  | .missingArguments _ names => .missingArguments callee names
  | .extraArguments _ least most given => .extraArguments callee least most given
  | .unknownKeyword _ keyword => .unknownKeyword callee keyword
  | .repeatedArgument _ name => .repeatedArgument callee name
  | mismatch => mismatch

variable {α β γ δ : Type}

/-- Whether two callees succeed alike, or fail alike: with one fault, or with a mismatch of
arguments that each has as its own. -/
inductive Alike (callee other : String) (alike : α → β → Prop) :
    Except Fault α → Except Fault β → Prop where
  | done {value : α} {value' : β} (same : alike value value') :
    Alike callee other alike (.ok value) (.ok value')
  | refused (mismatch : Mismatch) :
    Alike callee other alike (.error (.wrongType (mismatch.on callee)))
      (.error (.wrongType (mismatch.on other)))
  | failed (fault : Fault) : Alike callee other alike (.error fault) (.error fault)

namespace Alike

variable {callee other : String} {alike : α → β → Prop}
  {result : Except Fault α} {result' : Except Fault β}

theorem bind (first : Alike callee other alike result result') {next : α → Except Fault γ}
    {next' : β → Except Fault δ} {further : γ → δ → Prop}
    (each : ∀ value value', alike value value' →
      Alike callee other further (next value) (next' value')) :
    Alike callee other further (result >>= next) (result' >>= next') := by
  cases first with
  | done same => exact each _ _ same
  | refused mismatch => exact .refused mismatch
  | failed fault => exact .failed fault

theorem mapOther (first : Alike callee other alike result result') {change : β → δ}
    {further : α → δ → Prop}
    (each : ∀ value value', alike value value' → further value (change value')) :
    Alike callee other further result (do return change (← result')) := by
  cases first with
  | done same => exact .done (each _ _ same)
  | refused mismatch => exact .refused mismatch
  | failed fault => exact .failed fault

theorem forM {entries : List α} {check check' : α → Except Fault Unit}
    (each : ∀ entry ∈ entries, Alike callee other Eq (check entry) (check' entry)) :
    Alike callee other Eq (entries.forM check) (entries.forM check') := by
  induction entries with
  | nil => exact .done rfl
  | cons entry entries ih =>
    obtain ⟨first, rest⟩ := List.forall_mem_cons.mp each
    exact first.bind fun _ _ _ => ih rest

end Alike

namespace Signature

variable (signature : Signature) (callee other : String)

/-- A keyword is checked alike for every callee with the signature. -/
theorem checkKeyword_alike (positions : Nat) (keyword : String) :
    Alike callee other Eq (signature.checkKeyword callee positions keyword)
      (signature.checkKeyword other positions keyword) := by
  unfold checkKeyword
  dsimp only
  split_ifs
  · exact .done rfl
  · exact .refused (.repeatedArgument callee keyword)
  · exact .refused (.unknownKeyword callee keyword)

/-- The arguments of a call are bound alike for every callee with the signature. -/
theorem bind_alike (arguments : List Value) (keywords : List (String × Value)) :
    Alike callee other Eq (signature.bind callee arguments keywords)
      (signature.bind other arguments keywords) := by
  have checked : Alike callee other Eq
      (keywords.forM fun entry => signature.checkKeyword callee arguments.length entry.1)
      (keywords.forM fun entry => signature.checkKeyword other arguments.length entry.1) :=
    .forM fun entry _ => signature.checkKeyword_alike callee other arguments.length entry.1
  unfold Signature.bind
  refine checked.bind fun _ _ _ => ?_
  by_cases many : signature.positional.length < arguments.length
  · dsimp only
    rw [if_pos many, if_pos many]
    exact .refused (.extraArguments callee _ _ _)
  · dsimp only
    rw [if_neg many, if_neg many]
    split_ifs
    · exact .done rfl
    · exact .refused (.missingArguments callee _)

variable {callee other}

/-- A parameter that is left out gets what stands for it, in front of what the other parameters
get. -/
theorem bind_leftOut {name : String} (fallback : Value) (rest : List Parameter)
    {keywords : List (String × Value)} (absent : ∀ entry ∈ keywords, entry.1 ≠ name) :
    Alike callee other
      (fun taken taken' => taken = fallback :: taken' ∧ taken'.length ≤ rest.length)
      (Signature.bind ⟨.optional name fallback :: rest, []⟩ callee [] keywords)
      (Signature.bind ⟨rest, []⟩ other [] keywords) := by
  have unfound : keywords.lookup name = none :=
    List.lookup_eq_none_iff.mpr fun entry member => bne_iff_ne.mpr (absent entry member).symm
  have checked : Alike callee other Eq
      (keywords.forM fun entry =>
        checkKeyword ⟨.optional name fallback :: rest, []⟩ callee 0 entry.1)
      (keywords.forM fun entry => checkKeyword ⟨rest, []⟩ other 0 entry.1) := by
    refine .forM fun entry member => ?_
    have same := checkKeyword_alike ⟨rest, []⟩ callee other 0 entry.1
    unfold checkKeyword at same ⊢
    simpa [Parameter.optional, (absent entry member).symm] using same
  unfold Signature.bind
  refine checked.bind fun _ _ _ => ?_
  simp only [Parameter.optional, List.length_nil, Nat.not_lt_zero, if_false, List.drop_zero,
    List.append_nil, List.nil_append, List.filter_cons, List.filterMap_cons, unfound,
    Option.none_or, Option.isNone_some, Bool.false_eq_true]
  split_ifs
  · exact .done ⟨rfl, List.length_filterMap_le _ _⟩
  · exact .refused (.missingArguments callee _)

end Signature

/-! ## Calls on the column defined last -/

/-- Whether a call on the blueprint is the given one on the column defined last: a modifier, or an
index on that column alone. -/
inductive TableCall.OnLast : TableCall → ColumnCall → Prop where
  | modifier {call : TableCall} {passed : ColumnCall} (same : call.passedOn? = some passed) :
    OnLast call passed
  | index (kind : IndexKind) (name : Value) :
    OnLast (.addIndex kind .null name) (.addIndex kind name)

namespace Method

variable {callee other : String} {parameter : Parameter} {arguments : List Value}
  {keywords : List (String × Value)}

theorem nullary_alike {call : TableCall} {passed : ColumnCall} (last : call.OnLast passed) :
    Alike callee other TableCall.OnLast ((nullary call).call callee arguments keywords)
      ((nullary passed).call other arguments keywords) :=
  (Signature.bind_alike _ callee other arguments keywords).bind fun _ _ _ => .done last

theorem unary_alike {make : Value → TableCall} {make' : Value → ColumnCall}
    (last : ∀ value, (make value).OnLast (make' value)) :
    Alike callee other TableCall.OnLast ((unary parameter make).call callee arguments keywords)
      ((unary parameter make').call other arguments keywords) := by
  refine (Signature.bind_alike _ callee other arguments keywords).bind ?_
  rintro values - rfl
  rcases values with - | ⟨value, - | ⟨next, values⟩⟩
  · exact .failed .badTarget
  · exact .done (last value)
  · exact .failed .badTarget

/-- A method whose first parameter is left out is alike to one without that parameter. -/
theorem binary_leftOut {name : String} {make : Value → Value → TableCall}
    {make' : Value → ColumnCall} (absent : ∀ entry ∈ keywords, entry.1 ≠ name)
    (last : ∀ value, (make .null value).OnLast (make' value)) :
    Alike callee other TableCall.OnLast
      ((binary (.optional name .null) parameter make).call callee [] keywords)
      ((unary parameter make').call other [] keywords) := by
  refine (Signature.bind_leftOut .null [parameter] absent).bind ?_
  rintro - values ⟨rfl, -⟩
  rcases values with - | ⟨value, - | ⟨next, values⟩⟩
  · exact .failed .badTarget
  · exact .done (last value)
  · exact .failed .badTarget

theorem unary_leftOut {name : String} {make : Value → TableCall} {passed : ColumnCall}
    (absent : ∀ entry ∈ keywords, entry.1 ≠ name) (last : (make .null).OnLast passed) :
    Alike callee other TableCall.OnLast
      ((unary (.optional name .null) make).call callee [] keywords)
      ((nullary passed).call other [] keywords) := by
  refine (Signature.bind_leftOut .null [] absent).bind ?_
  rintro - values ⟨rfl, none⟩
  obtain rfl := List.length_eq_zero_iff.mp (Nat.le_zero.mp none)
  exact .done last

end Method

namespace Script

/-- Whether a call by name on a blueprint is on the column defined last: a modifier, or an index for
which no columns are given. -/
def IsTail {α β : Type} (method : String) (arguments : List α) (keywords : List (String × β)) :
    Prop :=
  method ∈ ["nullable", "default", "comment", "after", "first"] ∨
    method ∈ ["index", "unique", "primary"] ∧ arguments = [] ∧ "columns" ∉ keywords.map (·.1)

variable {method : String} {arguments : List Value} {keywords : List (String × Value)}

/-- A call by name on the column defined last is the same call whether it is made on the blueprint
or on the column. -/
theorem tableCall_tail (tail : IsTail method arguments keywords) (blueprint : Blueprint)
    (ref : ColumnRef) :
    Alike ("Blueprint." ++ method) ("ColumnDefinition." ++ method)
      (fun call call' => ∃ passed, call.OnLast passed ∧ call' = .column ref passed)
      (tableCall blueprint method arguments keywords)
      (columnCall blueprint ref method arguments keywords) := by
  have onColumn {found : Method TableCall} {found' : Method ColumnCall}
      (known : tableMethod? method = some found) (known' : columnMethod? method = some found')
      (undropped : method ≠ "drop_column")
      (alike : Alike ("Blueprint." ++ method) ("ColumnDefinition." ++ method) TableCall.OnLast
        (found.call ("Blueprint." ++ method) arguments keywords)
        (found'.call ("ColumnDefinition." ++ method) arguments keywords)) :
      Alike ("Blueprint." ++ method) ("ColumnDefinition." ++ method)
        (fun call call' => ∃ passed, call.OnLast passed ∧ call' = .column ref passed)
        (tableCall blueprint method arguments keywords)
        (columnCall blueprint ref method arguments keywords) := by
    unfold tableCall columnCall
    dsimp only
    rw [if_neg undropped, known, known']
    exact alike.mapOther fun _ passed last => ⟨passed, last, rfl⟩
  rcases tail with modifier | ⟨index, rfl, unnamed⟩
  · simp only [List.mem_cons, List.not_mem_nil, or_false] at modifier
    rcases modifier with rfl | rfl | rfl | rfl | rfl
    · exact onColumn rfl rfl (by decide) (Method.unary_alike fun _ => .modifier rfl)
    · exact onColumn rfl rfl (by decide) (Method.unary_alike fun _ => .modifier rfl)
    · exact onColumn rfl rfl (by decide) (Method.unary_alike fun _ => .modifier rfl)
    · exact onColumn rfl rfl (by decide) (Method.unary_alike fun _ => .modifier rfl)
    · exact onColumn rfl rfl (by decide) (Method.nullary_alike (.modifier rfl))
  · have absent : ∀ entry ∈ keywords, entry.1 ≠ "columns" :=
      fun entry member same => unnamed (List.mem_map.mpr ⟨entry, member, same⟩)
    simp only [List.mem_cons, List.not_mem_nil, or_false] at index
    rcases index with rfl | rfl | rfl
    · exact onColumn rfl rfl (by decide) (Method.binary_leftOut absent fun _ => .index .plain _)
    · exact onColumn rfl rfl (by decide) (Method.binary_leftOut absent fun _ => .index .unique _)
    · exact onColumn rfl rfl (by decide) (Method.unary_leftOut absent (.index .primary .null))

end Script

/-! ## Effects on the blueprint -/

/-- Whether two calls leave one blueprint, note the same, and end alike. -/
structure SameEffect (ends : Except Fault Value → Except Fault Value → Prop)
    (outcome other : CallOutcome) : Prop where
  blueprint : other.blueprint = outcome.blueprint
  notices : other.notices = outcome.notices
  result : ends outcome.result other.result

/-- Whether one answer is the blueprint and the other one of its columns, each to go on with. -/
def HandsOn (answer answer' : Value) : Prop :=
  answer = .ofTarget .blueprint ∧ ∃ index, answer' = .ofColumn (.attached index)

namespace Blueprint

variable {blueprint : Blueprint} {callee other : String} {index : Nat}

theorem attempt_sameEffect (changed : Except Fault Blueprint) :
    SameEffect (Alike callee other HandsOn) (blueprint.attempt changed .blueprint)
      (blueprint.attempt changed (.column (.attached index))) := by
  cases changed with
  | ok changed => exact ⟨rfl, rfl, .done ⟨rfl, index, rfl⟩⟩
  | error fault => exact ⟨rfl, rfl, .failed fault⟩

/-- Without columns given, an index is on the column defined last. -/
theorem addIndex_current (current : blueprint.current = some index) {column : String}
    (named : blueprint.columnName (.attached index) = .text column) (kind : IndexKind)
    (name : Value) :
    blueprint.addIndex kind .null name =
      blueprint.addIndex kind (blueprint.columnName (.attached index)) name := by
  have indexed : blueprint.indexColumns .null =
      blueprint.indexColumns (blueprint.columnName (.attached index)) := by
    rw [named]
    unfold columnName at named
    cases found : blueprint.column? (.attached index) with
    | none =>
      rw [found] at named
      cases named
    | some last =>
      rw [found] at named
      change last.name = .text column at named
      simp [indexColumns, currentColumn?, current, found, named]
  rw [addIndex, addIndex, indexed]

/-- A call on the column defined last has the effect of that call on that column. -/
theorem callTable_onLast {call : TableCall} {passed : ColumnCall} (last : call.OnLast passed)
    (current : blueprint.current = some index) {column : String}
    (named : blueprint.columnName (.attached index) = .text column) :
    SameEffect (Alike callee other HandsOn) (blueprint.callTable call)
      (blueprint.callColumn (.attached index) passed) := by
  cases last with
  | index kind name =>
    simp only [callTable, callColumn]
    rw [addIndex_current current named]
    exact attempt_sameEffect _
  | modifier same =>
    cases call with
    | setDefault value | after other =>
      obtain rfl := Option.some.inj same
      simp only [callTable, onCurrent, current, callColumn]
      exact attempt_sameEffect _
    | nullable value | comment text | first =>
      obtain rfl := Option.some.inj same
      simp only [callTable, editCurrent, onCurrent, current]
      exact ⟨rfl, rfl, .done ⟨rfl, index, rfl⟩⟩
    | _ => cases same

/-- Without a column, a call on the column defined last is idle: it answers the blueprint. -/
theorem callTable_onLast_idle {call : TableCall} {passed : ColumnCall} (last : call.OnLast passed)
    (unset : blueprint.current = none) :
    blueprint.callTable call = blueprint.awaits .blueprint := by
  cases last with
  | index kind name => simp only [callTable, addIndex, indexColumns, currentColumn?, unset]; rfl
  | modifier same =>
    cases call with
    | nullable value | setDefault value | comment text | after other | first =>
      simp only [callTable, editCurrent, onCurrent, unset]
    | _ => cases same

end Blueprint

namespace Script

variable {blueprint : Blueprint} {method : String} {arguments : List Value}
  {keywords : List (String × Value)}

/-- The outcome of a call by name, which may come to no call at all. -/
def performed (blueprint : Blueprint) : Except Fault Call → CallOutcome
  | .ok call => blueprint.perform call
  | .error fault => blueprint.asked (.error fault)

theorem invoke_blueprint (blueprint : Blueprint) (method : String) (arguments : List Value)
    (keywords : List (String × Value)) :
    invoke blueprint .blueprint method arguments keywords =
      performed blueprint (Call.table <$> tableCall blueprint method arguments keywords) := rfl

theorem invoke_column (blueprint : Blueprint) (ref : ColumnRef) (method : String)
    (arguments : List Value) (keywords : List (String × Value)) :
    invoke blueprint (.column ref) method arguments keywords =
      performed blueprint (columnCall blueprint ref method arguments keywords) := rfl

theorem invoke_key (blueprint : Blueprint) (index : Nat) (method : String)
    (arguments : List Value) (keywords : List (String × Value)) :
    invoke blueprint (.key index) method arguments keywords =
      performed blueprint (keyCall blueprint index method arguments keywords) := rfl

/-- A call by name on the column defined last has the effect of the same call on that column. -/
theorem invoke_tail (tail : IsTail method arguments keywords) {index : Nat}
    (current : blueprint.current = some index) {column : String}
    (named : blueprint.columnName (.attached index) = .text column) :
    SameEffect (Alike ("Blueprint." ++ method) ("ColumnDefinition." ++ method) HandsOn)
      (invoke blueprint .blueprint method arguments keywords)
      (invoke blueprint (.column (.attached index)) method arguments keywords) := by
  have alike := tableCall_tail tail blueprint (.attached index)
  rw [invoke_blueprint, invoke_column]
  generalize tableCall blueprint method arguments keywords = made at alike ⊢
  generalize columnCall blueprint (.attached index) method arguments keywords = made' at alike ⊢
  cases alike with
  | done same =>
    obtain ⟨passed, last, rfl⟩ := same
    exact Blueprint.callTable_onLast last current named
  | refused mismatch => exact ⟨rfl, rfl, .refused mismatch⟩
  | failed fault => exact ⟨rfl, rfl, .failed fault⟩

/-- Without a column, a call by name on the column defined last leaves the blueprint as it is, and
answers it unless the arguments are wrong. -/
theorem invoke_tail_idle (tail : IsTail method arguments keywords)
    (unset : blueprint.current = none) :
    ∃ result, invoke blueprint .blueprint method arguments keywords = ⟨result, blueprint, []⟩ ∧
      ∀ answer, result = .ok answer → answer = .ofTarget .blueprint := by
  have alike := tableCall_tail tail blueprint (.attached 0)
  rw [invoke_blueprint]
  generalize tableCall blueprint method arguments keywords = made at alike ⊢
  generalize columnCall blueprint (.attached 0) method arguments keywords = made' at alike
  cases alike with
  | done same =>
    obtain ⟨passed, last, -⟩ := same
    exact ⟨_, Blueprint.callTable_onLast_idle last unset, fun _ answered =>
      (Except.ok.inj answered).symm⟩
  | refused mismatch => exact ⟨_, rfl, by rintro _ ⟨⟩⟩
  | failed fault => exact ⟨_, rfl, by rintro _ ⟨⟩⟩

/-! ## Calls that go on to the blueprint -/

/-- Whether a method is one of the blueprint and neither of columns nor of foreign keys. -/
def IsPassedOn (method : String) : Prop :=
  ((tableMethod? method).isSome ∨ method = "drop_column") ∧
    (columnMethod? method).isNone ∧ (keyMethod? method).isNone

end Script

/-- Whether calls on a target can go on to the blueprint: it is a column or a foreign key on one. -/
def Target.IsPart (blueprint : Blueprint) : Target → Prop
  | .column _ => True
  | .key index => ∃ key ref,
    blueprint.foreignKeys[index]? = some key ∧ key.column = .ofColumn ref
  | .blueprint | .spec _ => False

namespace Script

variable {blueprint : Blueprint} {method : String} {arguments : List Value}
  {keywords : List (String × Value)}

/-- No field of a column or a foreign key goes by the name of a method of the blueprint, and no such
name is hidden. -/
theorem tableMethod_unhidden (blueprint : Blueprint)
    (known : (tableMethod? method).isSome ∨ method = "drop_column") :
    (∀ column, columnField? blueprint column method = none) ∧
      (∀ key, keyField? blueprint key method = none) ∧ method.startsWith "_" = false := by
  rcases known with known | rfl
  · -- Each name of a method is compared to all names of fields.
    revert known
    fun_cases tableMethod? method
    all_goals
      intro known
      first
        | exact ⟨fun _ => rfl, fun _ => rfl, by decide +kernel⟩
        | cases known
  · exact ⟨fun _ => rfl, fun _ => rfl, by decide +kernel⟩

theorem columnCall_isPassedOn (blueprint : Blueprint) (ref : ColumnRef)
    (passed : IsPassedOn method) :
    columnCall blueprint ref method arguments keywords =
      Call.table <$> tableCall blueprint method arguments keywords := by
  obtain ⟨known, foreignToColumns, -⟩ := passed
  obtain ⟨noField, -, shown⟩ := tableMethod_unhidden blueprint known
  have unhidden : (blueprint.column? ref).bind (columnField? blueprint · method) = none := by
    rw [Option.bind_eq_none_iff]
    exact fun column _ => noField column
  unfold columnCall
  rw [Option.isNone_iff_eq_none.mp foreignToColumns]
  dsimp only
  rw [unhidden, shown]
  rfl

/-- A method of the blueprint alone is called with one outcome on the blueprint, on any of its
columns, and on any foreign key that is on a column. -/
theorem invoke_isPassedOn {target : Target} (part : target.IsPart blueprint)
    (passed : IsPassedOn method) :
    invoke blueprint target method arguments keywords =
      invoke blueprint .blueprint method arguments keywords := by
  rw [invoke_blueprint]
  cases target with
  | blueprint | spec index => cases part
  | column ref => rw [invoke_column, columnCall_isPassedOn blueprint ref passed]
  | key index =>
    obtain ⟨key, ref, found, on⟩ := part
    obtain ⟨-, noField, shown⟩ := tableMethod_unhidden blueprint passed.1
    rw [invoke_key, ← columnCall_isPassedOn blueprint ref passed]
    unfold keyCall
    rw [Option.isNone_iff_eq_none.mp passed.2.2, found]
    dsimp only
    rw [noField key, shown, on]
    rfl

end Script

end Tablewright
