import Tablewright.Proofs.Script.Tails

/-! # Rephrased scripts

One declaration can be spelled in several ways: a call on the column defined last can be made on the
blueprint or on that column, and a call on the blueprint can be made on any column or foreign key
that passes it on. Scripts that differ in this way only run in step. At every point they leave one
blueprint, with its specs, its columns and its foreign keys, and every call fails in one as it does
in the other.
-/

namespace Tablewright.Script

variable {options method : String} {blueprint : Blueprint} {answers others : Answers}
  {given given' : List Argument} {named named' : List (String × Argument)}

/-! ## Rephrased calls -/

/-- Whether two instructions are one, as soon as the answers that they refer to are in place. -/
inductive SameInstruction (answers others : Answers) : Instruction → Instruction → Prop where
  | invoke (method : String) {given given' : List Argument}
    {named named' : List (String × Argument)}
    (positional : arguments others given' = arguments answers given)
    (keyword : keywordArguments others named' = keywordArguments answers named) :
    SameInstruction answers others (.invoke method given named) (.invoke method given' named')
  | read (name : String) : SameInstruction answers others (.read name) (.read name)
  | quote : SameInstruction answers others .quote .quote
  | quoteSpecs : SameInstruction answers others .quoteSpecs .quoteSpecs
  | create : SameInstruction answers others .create .create
  | alter : SameInstruction answers others .alter .alter
  | append (kind : SpecKind) {column column' newName newName' : Argument} (text : String)
    (isConstraint : Bool) (sameColumn : argument others column' = argument answers column)
    (sameName : argument others newName' = argument answers newName) :
    SameInstruction answers others (.append kind column text newName isConstraint)
      (.append kind column' text newName' isConstraint)

/-- Whether an instruction may be followed on another target with one outcome: on the same one, or
on the blueprint for a call that is passed on to it. -/
inductive Redirected (blueprint : Blueprint) (instruction : Instruction)
    (target target' : Except Fault Target) : Prop where
  | kept (same : target' = target)
  | passedOn {method : String} {given : List Argument} {named : List (String × Argument)}
    {owner : Target} (invoked : instruction = .invoke method given named)
    (passed : IsPassedOn method) (onPart : target = .ok owner) (part : owner.IsPart blueprint)
    (onBlueprint : target' = .ok .blueprint)

/-- Whether an instruction is a call by name on the blueprint, on the column defined last, and is to
be followed on that column, which has a text for a name. -/
structure MovesToColumn (blueprint : Blueprint) (method : String) (instruction : Instruction)
    (target target' : Except Fault Target) : Prop where
  tail : ∃ given named, instruction = .invoke method given named ∧ IsTail method given named
  onBlueprint : target = .ok .blueprint
  onColumn : ∃ index column, blueprint.current = some index ∧
    blueprint.columnName (.attached index) = .text column ∧
    target' = .ok (.column (.attached index))

/-- How a call of a rephrased script comes about: from the call that it stands for, from a call on
the column defined last, or for asking which column that is. -/
inductive Phrase where
  | same
  | onColumn (method : String)
  | look

/-- Whether a script is another one rephrased, from a blueprint and what earlier calls answered in
either. Each of its calls stands for one of the other script, on the same target or on another one,
and in between it may ask the blueprint for the column defined last. -/
inductive Rephrased (options : String) : Blueprint → Answers → Answers →
    List Phrase → List ScriptCall → List ScriptCall → Prop where
  | done {blueprint : Blueprint} {answers others : Answers} :
    Rephrased options blueprint answers others [] [] []
  | same {blueprint : Blueprint} {answers others : Answers} {call other : ScriptCall}
    {phrases : List Phrase} {calls rest : List ScriptCall}
    (instruction : SameInstruction answers others call.instruction other.instruction)
    (redirected : Redirected blueprint call.instruction (receiver answers call.target)
      (receiver others other.target))
    (further : Rephrased options (answered (step options blueprint answers call)).1
      (answers ++ [(answered (step options blueprint answers call)).2])
      (others ++ [(answered (step options blueprint others other)).2]) phrases calls rest) :
    Rephrased options blueprint answers others (.same :: phrases) (call :: calls) (other :: rest)
  | onColumn {blueprint : Blueprint} {answers others : Answers} {call other : ScriptCall}
    {method : String} {phrases : List Phrase} {calls rest : List ScriptCall}
    (instruction : SameInstruction answers others call.instruction other.instruction)
    (moves : MovesToColumn blueprint method call.instruction (receiver answers call.target)
      (receiver others other.target))
    (further : Rephrased options (answered (step options blueprint answers call)).1
      (answers ++ [(answered (step options blueprint answers call)).2])
      (others ++ [(answered (step options blueprint others other)).2]) phrases calls rest) :
    Rephrased options blueprint answers others (.onColumn method :: phrases) (call :: calls)
      (other :: rest)
  | look {blueprint : Blueprint} {answers others : Answers} {target : Option Int}
    {phrases : List Phrase} {calls rest : List ScriptCall}
    (onBlueprint : receiver others target = .ok .blueprint)
    (further : Rephrased options blueprint answers
      (others ++ [(answered (step options blueprint others ⟨target, .read "current"⟩)).2])
      phrases calls rest) :
    Rephrased options blueprint answers others (.look :: phrases) calls
      (⟨target, .read "current"⟩ :: rest)

/-! ## Outcomes in step -/

/-- Whether the outcomes of a rephrased script are in step with those of the other one, from a
blueprint. A call that stands for another has its very outcome: the blueprint and all in it, what is
noted, and the answer or the fault. A call that is moved to the column defined last differs from the
other only in handing on that column, and in the callee that has got wrong arguments. To look at the
blueprint has no effect. -/
inductive InStep : Blueprint → List Phrase → List CallOutcome → List CallOutcome → Prop where
  | done {blueprint : Blueprint} : InStep blueprint [] [] []
  | same {blueprint : Blueprint} {phrases : List Phrase} {outcome : CallOutcome}
    {outcomes others : List CallOutcome}
    (further : InStep (answered outcome).1 phrases outcomes others) :
    InStep blueprint (.same :: phrases) (outcome :: outcomes) (outcome :: others)
  | onColumn {blueprint : Blueprint} {method : String} {phrases : List Phrase}
    {outcome other : CallOutcome} {outcomes others : List CallOutcome}
    (effect : SameEffect
      (Alike ("Blueprint." ++ method) ("ColumnDefinition." ++ method) HandsOn) outcome other)
    (further : InStep (answered outcome).1 phrases outcomes others) :
    InStep blueprint (.onColumn method :: phrases) (outcome :: outcomes) (other :: others)
  | look {blueprint : Blueprint} {phrases : List Phrase} {answer : Value}
    {outcomes others : List CallOutcome} (further : InStep blueprint phrases outcomes others) :
    InStep blueprint (.look :: phrases) outcomes (blueprint.answered answer :: others)

/-! ## Arguments -/

theorem keepAll_length (blueprint : Blueprint) (values : List Value) :
    (blueprint.keepAll values).2.length = values.length := by
  induction values generalizing blueprint with
  | nil => rfl
  | cons value values ih => exact congrArg (· + 1) (ih (blueprint.keep value).1)

theorem keepKeywords_names (blueprint : Blueprint) (keywords : List (String × Value)) :
    (keepKeywords blueprint keywords).2.map (·.1) = keywords.map (·.1) := by
  have length : (keywords.map (·.1)).length =
      (blueprint.keepAll (keywords.map (·.2))).2.length := by
    rw [keepAll_length, List.length_map, List.length_map]
  exact List.map_fst_zip (Nat.le_of_eq length)

theorem keywordArguments_names {keywords : List (String × Value)}
    (found : keywordArguments answers named = .ok keywords) :
    keywords.map (·.1) = named.map (·.1) := by
  have each := mapM_eq_ok.mp found
  clear found
  induction each with
  | nil => rfl
  | cons entry _ ih =>
    obtain ⟨value, -, same⟩ := bind_eq_ok.mp entry
    rw [List.map_cons, List.map_cons, ih, ← Except.ok.inj same]

/-- With its arguments in place, a call on the column defined last is still one. -/
theorem IsTail.placed (tail : IsTail method given named) {values : List Value}
    {keywords : List (String × Value)} (positional : arguments answers given = .ok values)
    (keyword : keywordArguments answers named = .ok keywords) :
    IsTail method (blueprint.keepAll values).2
      (keepKeywords (blueprint.keepAll values).1 keywords).2 := by
  refine tail.imp_right ?_
  rintro ⟨index, rfl, unnamed⟩
  obtain rfl := Except.ok.inj positional
  refine ⟨index, rfl, ?_⟩
  rwa [keepKeywords_names, keywordArguments_names keyword]

/-! ## Steps -/

theorem follow_same {instruction instruction' : Instruction}
    (same : SameInstruction answers others instruction instruction') (target : Target) :
    follow options blueprint others target instruction' =
      follow options blueprint answers target instruction := by
  cases same with
  | invoke method positional keyword => simp only [follow, positional, keyword]
  | append kind text isConstraint sameColumn sameName => simp only [follow, sameColumn, sameName]
  | _ => rfl

/-- Lists that are kept leave the columns and the foreign keys alone. -/
theorem keepPlaced_lists (blueprint : Blueprint) (values : List Value)
    (keywords : List (String × Value)) :
    ∃ lists, (keepKeywords (blueprint.keepAll values).1 keywords).1 = { blueprint with lists } := by
  obtain ⟨first, kept⟩ := Blueprint.keepAll_lists blueprint values
  rw [kept]
  exact Blueprint.keepAll_lists { blueprint with lists := first } (keywords.map (·.2))

/-- Following a call on the column defined last has the effect of following it on that column. -/
theorem follow_tail (options : String) (answers : Answers) (tail : IsTail method given named)
    {index : Nat} (current : blueprint.current = some index) {column : String}
    (name : blueprint.columnName (.attached index) = .text column) :
    SameEffect (Alike ("Blueprint." ++ method) ("ColumnDefinition." ++ method) HandsOn)
      (follow options blueprint answers .blueprint (.invoke method given named))
      (follow options blueprint answers (.column (.attached index))
        (.invoke method given named)) := by
  simp only [follow]
  cases positional : arguments answers given with
  | error fault => exact ⟨rfl, rfl, .failed fault⟩
  | ok values =>
    cases keyword : keywordArguments answers named with
    | error fault => exact ⟨rfl, rfl, .failed fault⟩
    | ok keywords =>
      dsimp only
      have placed : IsTail method (blueprint.keepAll values).2
          (keepKeywords (blueprint.keepAll values).1 keywords).2 := tail.placed positional keyword
      obtain ⟨lists, kept⟩ := keepPlaced_lists blueprint values keywords
      rw [kept]
      exact invoke_tail placed current name

/-- Following a call that is passed on comes to the same on a part of the blueprint. -/
theorem follow_isPassedOn (options : String) (answers : Answers) {owner : Target}
    (part : owner.IsPart blueprint) (passed : IsPassedOn method) :
    follow options blueprint answers .blueprint (.invoke method given named) =
      follow options blueprint answers owner (.invoke method given named) := by
  simp only [follow]
  cases arguments answers given with
  | error fault => rfl
  | ok values =>
    cases keywordArguments answers named with
    | error fault => rfl
    | ok keywords =>
      dsimp only
      obtain ⟨lists, kept⟩ := keepPlaced_lists blueprint values keywords
      rw [kept]
      refine (invoke_isPassedOn ?_ passed).symm
      cases owner <;> exact part

/-- A call that is redirected has the very outcome that it has on its own target. -/
theorem step_redirected (options : String) {call other : ScriptCall}
    (instruction : SameInstruction answers others call.instruction other.instruction)
    (redirected : Redirected blueprint call.instruction (receiver answers call.target)
      (receiver others other.target)) :
    step options blueprint others other = step options blueprint answers call := by
  unfold step
  cases redirected with
  | kept same =>
    rw [same]
    split
    · exact follow_same instruction _
    · rfl
  | passedOn invoked passed onPart part onBlueprint =>
    rw [onPart, onBlueprint]
    dsimp only
    rw [follow_same instruction, invoked]
    exact follow_isPassedOn options answers part passed

/-- A call that is moved to the column defined last has the effect that it has on the blueprint. -/
theorem step_movesToColumn (options : String) {call other : ScriptCall}
    (instruction : SameInstruction answers others call.instruction other.instruction)
    (moves : MovesToColumn blueprint method call.instruction (receiver answers call.target)
      (receiver others other.target)) :
    SameEffect (Alike ("Blueprint." ++ method) ("ColumnDefinition." ++ method) HandsOn)
      (step options blueprint answers call) (step options blueprint others other) := by
  obtain ⟨⟨given, named, invoked, tail⟩, onBlueprint, onColumn⟩ := moves
  obtain ⟨index, column, current, name, onColumn⟩ := onColumn
  unfold step
  rw [onBlueprint, onColumn]
  dsimp only
  rw [follow_same instruction, invoked]
  exact follow_tail options answers tail current name

/-- After a call that is moved, both scripts go on with one blueprint. -/
theorem answered_blueprint {callee callee' : String} {outcome other : CallOutcome}
    (effect : SameEffect (Alike callee callee' HandsOn) outcome other) :
    (answered other).1 = (answered outcome).1 := by
  unfold answered
  rw [effect.blueprint]
  have ends := effect.result
  generalize outcome.result = result at ends ⊢
  generalize other.result = result' at ends ⊢
  cases ends with
  | done hands =>
    obtain ⟨onBlueprint, index, onColumn⟩ := hands
    rw [onBlueprint, onColumn]
    rfl
  | refused mismatch => rfl
  | failed fault => rfl

/-- To ask for the column defined last has no effect. -/
theorem step_look (options : String) (blueprint : Blueprint) {target : Option Int}
    (onBlueprint : receiver others target = .ok .blueprint) :
    ∃ answer, step options blueprint others ⟨target, .read "current"⟩ = blueprint.answered answer ∧
      (blueprint.keep answer).1 = blueprint := by
  refine ⟨(blueprint.current.map fun index => .ofColumn (.attached index)).getD .null, ?_, ?_⟩
  · unfold step
    rw [onBlueprint]
    rfl
  · cases blueprint.current <;> rfl

/-! ## Scripts -/

theorem outcomes_cons (options : String) (blueprint : Blueprint) (answers : Answers)
    (call : ScriptCall) (calls : List ScriptCall) :
    outcomes options blueprint answers (call :: calls) = step options blueprint answers call ::
      outcomes options (answered (step options blueprint answers call)).1
        (answers ++ [(answered (step options blueprint answers call)).2]) calls := rfl

/-- A rephrased script runs in step with the other one. -/
theorem Rephrased.inStep {phrases : List Phrase} {calls rest : List ScriptCall}
    (rephrased : Rephrased options blueprint answers others phrases calls rest) :
    InStep blueprint phrases (outcomes options blueprint answers calls)
      (outcomes options blueprint others rest) := by
  induction rephrased with
  | done => exact .done
  | same instruction redirected further ih =>
    have outcome := step_redirected options instruction redirected
    rw [outcome] at ih
    rw [outcomes_cons, outcomes_cons, outcome]
    exact .same ih
  | onColumn instruction moves further ih =>
    have effect := step_movesToColumn options instruction moves
    rw [outcomes_cons, outcomes_cons, answered_blueprint effect]
    exact .onColumn effect ih
  | @look blueprint answers others target phrases calls rest onBlueprint further ih =>
    obtain ⟨answer, looked, kept⟩ := step_look options blueprint onBlueprint
    have goesOn : (answered (blueprint.answered answer)).1 = blueprint := kept
    rw [looked] at ih
    rw [outcomes_cons, looked, goesOn]
    exact .look ih

/-- Calls on the blueprint, on its columns and on its foreign keys agree. A rephrased script runs in
step with the other one, from any blueprint and any earlier answers. Without a column, a call on the
column defined last changes nothing, and answers the blueprint unless its arguments are wrong. -/
theorem rephrased_agree (options : String) :
    (∀ blueprint answers others phrases calls rest,
      Rephrased options blueprint answers others phrases calls rest →
      InStep blueprint phrases (outcomes options blueprint answers calls)
        (outcomes options blueprint others rest)) ∧
    ∀ (blueprint : Blueprint) (method : String) (values : List Value)
      (keywords : List (String × Value)), IsTail method values keywords →
      blueprint.current = none →
      ∃ result, invoke blueprint .blueprint method values keywords = ⟨result, blueprint, []⟩ ∧
        ∀ answer, result = .ok answer → answer = .ofTarget .blueprint :=
  ⟨fun _ _ _ _ _ _ rephrased => rephrased.inStep,
    fun _ _ _ _ tail unset => invoke_tail_idle tail unset⟩

/-- Columns and a foreign key that are declared in one chain, and an index on the column defined
last. The last call is on the first column again. -/
def chainedCalls : List ScriptCall :=
  [⟨none, .invoke "string" [.value (.text "title")] []⟩,
    ⟨some 0, .invoke "foreign_id" [.value (.text "author_id")] []⟩,
    ⟨some 1, .invoke "timestamps" [] []⟩,
    ⟨none, .invoke "index" [] [("name", .value (.text "recent"))]⟩,
    ⟨some 0, .invoke "nullable" [] []⟩]

/-- The same declarations, each on its own, and the index on the column that it is for. -/
def separateCalls : List ScriptCall :=
  [⟨none, .invoke "string" [.value (.text "title")] []⟩,
    ⟨none, .invoke "foreign_id" [.value (.text "author_id")] []⟩,
    ⟨none, .invoke "timestamps" [] []⟩,
    ⟨none, .read "current"⟩,
    ⟨some 3, .invoke "index" [] [("name", .value (.text "recent"))]⟩,
    ⟨some 0, .invoke "nullable" [] []⟩]

/-- How the separate calls come about from those in the chain. -/
def separatePhrases : List Phrase :=
  [.same, .same, .same, .look, .onColumn "index", .same]

theorem separateCalls_rephrased :
    Rephrased "" (.empty "" "posts") [] [] separatePhrases chainedCalls separateCalls := by
  refine .same (.invoke "string" rfl rfl) (.kept rfl) ?_
  refine .same (.invoke "foreign_id" rfl rfl) ?_ ?_
  · refine .passedOn rfl ⟨.inl rfl, rfl, rfl⟩
      (?_ : _ = Except.ok (Target.column (.attached 0))) trivial rfl
    decide +kernel
  refine .same (.invoke "timestamps" rfl rfl) ?_ ?_
  · refine .passedOn rfl ⟨.inl rfl, rfl, rfl⟩ (?_ : _ = Except.ok (Target.key 0))
      ⟨.start (.ofColumn (.attached 1)), .attached 1, ?_, rfl⟩ rfl
    · decide +kernel
    · decide +kernel
  refine .look rfl (.onColumn (.invoke "index" rfl rfl) ?_ ?_)
  · exact ⟨⟨_, _, rfl, .inr (by decide)⟩, rfl, 3, "updated_at", by decide +kernel,
      by decide +kernel, by decide +kernel⟩
  exact .same (.invoke "nullable" rfl rfl) (.kept (by decide +kernel)) .done

theorem separateCalls_agree :
    Rephrased "" (.empty "" "posts") [] [] separatePhrases chainedCalls separateCalls ∧
      InStep (.empty "" "posts") separatePhrases (outcomes "" (.empty "" "posts") [] chainedCalls)
        (outcomes "" (.empty "" "posts") [] separateCalls) ∧
      ∃ result, invoke (.empty "" "posts") .blueprint "unique" [] [] =
          ⟨result, .empty "" "posts", []⟩ ∧
        ∀ answer, result = .ok answer → answer = .ofTarget .blueprint := by
  refine ⟨separateCalls_rephrased, ?_, ?_⟩
  · exact (rephrased_agree "").1 _ _ _ _ _ _ separateCalls_rephrased
  · exact (rephrased_agree "").2 _ "unique" [] [] (.inr (by decide)) rfl

end Tablewright.Script
