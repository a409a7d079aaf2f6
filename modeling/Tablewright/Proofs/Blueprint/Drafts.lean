import Tablewright.Proofs.Blueprint.Pending
import Tablewright.Proofs.Blueprint.Rendered
import Tablewright.Proofs.Blueprint.Spared

/-! # Drafts of foreign keys

A foreign key is a draft until the blueprint is finalized. Any number of drafts can be open at once,
and calls on them may come in any order, between each other and between other calls. Every draft is
known from its own column and its own last calls. The finalization adds one constraint for each
complete draft behind all specs, in the order in which the drafts were opened, and notes each of the
others. After that, calls on the drafts do nothing that shows.
-/

namespace Tablewright

/-! ## Drafts -/

namespace KeyCall

/-- The column that a call refers to. -/
def referenced? : KeyCall → Option String
  | .references (.text column) => some column
  | _ => none

/-- The table that a call refers to, without the prefix. -/
def table? : KeyCall → Option String
  | .on (.text table) => some table
  | _ => none

/-- An action as it is written. -/
def written? : Value → Option String
  | .text action => some (Text.upper (Text.trim action))
  | .action action => some action.keyword
  | _ => none

/-- What a call says about a deletion. -/
def deleteAction? : KeyCall → Option String
  | .onDelete action => written? action
  | _ => none

/-- What a call says about an update. -/
def updateAction? : KeyCall → Option String
  | .onUpdate action => written? action
  | _ => none

/-- Whether the argument of a call is of its documented type. -/
def isDocumented : KeyCall → Bool
  | .references (.text _) | .on (.text _) => true
  | .onDelete action | .onUpdate action => (written? action).isSome
  | .constraintName | .sql => true
  | _ => false

end KeyCall

/-- A foreign key as it is told: its column and the calls on it. -/
structure Draft where
  column : String
  calls : List KeyCall

namespace Draft

/-- The last thing of a kind that was said about the draft. -/
def last? (draft : Draft) (said? : KeyCall → Option String) : Option String :=
  (draft.calls.filterMap said?).getLast?

/-- The draft after one more call. -/
def add (draft : Draft) (call : KeyCall) : Draft :=
  { draft with calls := draft.calls ++ [call] }

/-- Whether the last column is not empty, and the last table is not with its prefix. -/
def isComplete (tablePrefix : String) (draft : Draft) : Bool :=
  match draft.last? KeyCall.referenced?, draft.last? KeyCall.table? with
  | some column, some table => column != "" && tablePrefix ++ table != ""
  | _, _ => false

/-- The constraint that a complete draft becomes in a table with a prefix. -/
def constraint (tablePrefix name : String) (draft : Draft) : String :=
  "CONSTRAINT " ++ quoteName (tablePrefix ++ name ++ "_" ++ draft.column ++ "_fk") ++
    " FOREIGN KEY (" ++ quoteName draft.column ++ ") REFERENCES " ++
    quoteName (tablePrefix ++ (draft.last? KeyCall.table?).getD "") ++ " (" ++
    quoteName ((draft.last? KeyCall.referenced?).getD "") ++ ")" ++
    ForeignKey.actionClause "DELETE" (draft.last? KeyCall.deleteAction?) ++
    ForeignKey.actionClause "UPDATE" (draft.last? KeyCall.updateAction?)

/-- The constraints of the complete ones among drafts. -/
def constraints (tablePrefix name : String) (drafts : List Draft) : List Spec :=
  (drafts.filter (isComplete tablePrefix)).map fun draft =>
    .constraint (draft.constraint tablePrefix name)

/-- The notices about the others. -/
def omissions (tablePrefix name : String) (drafts : List Draft) : List Notice :=
  (drafts.filter fun draft => !draft.isComplete tablePrefix).map fun draft =>
    .incompleteKey (tablePrefix ++ name) draft.column

theorem constraints_cons (tablePrefix name : String) (draft : Draft) (drafts : List Draft) :
    constraints tablePrefix name (draft :: drafts) =
      (if draft.isComplete tablePrefix then
        [Spec.constraint (draft.constraint tablePrefix name)] else []) ++
        constraints tablePrefix name drafts := by
  unfold constraints
  cases complete : draft.isComplete tablePrefix <;> simp [complete]

theorem omissions_cons (tablePrefix name : String) (draft : Draft) (drafts : List Draft) :
    omissions tablePrefix name (draft :: drafts) =
      (if draft.isComplete tablePrefix then []
        else [.incompleteKey (tablePrefix ++ name) draft.column]) ++
        omissions tablePrefix name drafts := by
  unfold omissions
  cases complete : draft.isComplete tablePrefix <;> simp [complete]

/-- Notices about incomplete drafts are of the lowest severity. -/
theorem omissions_severity (tablePrefix name : String) (drafts : List Draft) :
    ∀ notice ∈ omissions tablePrefix name drafts, notice.severity = .debug := by
  intro notice member
  obtain ⟨draft, -, rfl⟩ := List.mem_map.mp member
  rfl

theorem last?_add (draft : Draft) (call : KeyCall) (said? : KeyCall → Option String) :
    (draft.add call).last? said? = (said? call).or (draft.last? said?) := by
  rw [last?, add, List.filterMap_append, List.getLast?_append]
  cases found : said? call <;> simp [found, last?]

end Draft

/-- What a documented call makes of its foreign key. -/
def KeyCall.edit (tablePrefix : String) : KeyCall → ForeignKey → ForeignKey
  | .references column, key => { key with referencedColumn := column }
  | .on table, key => { key with referencedTable := some (tablePrefix ++ table.plainForm) }
  | .onDelete action, key => { key with deleteAction := written? action }
  | .onUpdate action, key => { key with updateAction := written? action }
  | .constraintName, key | .sql, key => key

theorem Column.Edit.name {gives : ColumnType → Prop} {column edited : Column}
    (edit : column.Edit gives edited) : edited.name = column.name := by
  cases edit with
  | typed => rfl
  | default => rfl
  | clause same => exact same

namespace Blueprint

/-- The column that a call opens a draft on, if it is given by a text or is one with a text for its
name. -/
def opens? (blueprint : Blueprint) : TableCall → Option String
  | .foreignId (.text column) | .foreign (.text column) => some column
  | .foreign (.mention (.target (.column ref))) =>
    match blueprint.columnName ref with
    | .text column => some column
    | _ => none
  | _ => none

/-- The drafts after a move. -/
def drafted (blueprint : Blueprint) (drafts : List Draft) : Move → List Draft
  | .call (.table call) => drafts ++ (blueprint.opens? call).toList.map (⟨·, []⟩)
  | .call (.key index call) => drafts.modify index (Draft.add · call)
  | .call (.column ..) | .keep _ => drafts

/-- The drafts after moves in turn. -/
def draftedAll (blueprint : Blueprint) (drafts : List Draft) : List Move → List Draft
  | [] => drafts
  | move :: moves => (blueprint.moved move).draftedAll (blueprint.drafted drafts move) moves

/-- Whether a move does not finalize, and opens drafts and makes calls on them only with documented
arguments. It may be anything else. -/
def admits (blueprint : Blueprint) : Move → Bool
  | .call (.table call) =>
    match call with
    | .foreignId _ | .foreign _ => (blueprint.opens? call).isSome
    | .finalize | .toCreate _ | .toAlter => false
    | _ => true
  | .call (.key _ call) => call.isDocumented
  | .call (.column ..) | .keep _ => true

/-- Whether all moves in turn are such. -/
def admitsAll (blueprint : Blueprint) : List Move → Bool
  | [] => true
  | move :: moves => blueprint.admits move && (blueprint.moved move).admitsAll moves

variable {blueprint : Blueprint}

/-! ## What stays -/

/-- Whether there is a column of the name. -/
def Names (blueprint : Blueprint) (ref : ColumnRef) (name : Value) : Prop :=
  ∃ column, blueprint.column? ref = some column ∧ column.name = name

theorem Names.columnName {ref : ColumnRef} {name : Value} (names : blueprint.Names ref name) :
    blueprint.columnName ref = name := by
  obtain ⟨column, found, named⟩ := names
  simp only [Blueprint.columnName, found, Option.map_some, Option.getD_some, named]

theorem names_of_columnName {ref : ColumnRef} {name : String}
    (named : blueprint.columnName ref = .text name) : blueprint.Names ref (.text name) := by
  unfold columnName at named
  cases found : blueprint.column? ref with
  | none => simp [found] at named
  | some column => exact ⟨column, found, by simpa [found] using named⟩

/-- A column keeps its name. -/
theorem Edit.names {gives : ColumnType → Prop} {edited : Blueprint} {ref : ColumnRef} {name : Value}
    (edit : Edit gives blueprint edited) (names : blueprint.Names ref name) :
    edited.Names ref name := by
  obtain ⟨column, found, named⟩ := names
  have kept (columns : KeepsColumns (fun _ => False) blueprint edited) : edited.Names ref name :=
    ⟨column, columns ref column id found, named⟩
  cases edit with
  | plain spec => exact kept (appendPlain_leaves spec).columns
  | column added => exact kept (appendColumn_leaves _).columns
  | @update position change each =>
    by_cases here : ref = position
    · subst here
      refine ⟨change column, ?_, (each column found).name.trans named⟩
      rw [column?_updateColumn, found]
      rfl
    · refine ⟨column, ?_, named⟩
      rw [column?_updateColumn_ne here]
      exact found
  | opened column => exact kept (openKey_keepsColumns _ _)
  | openedDetached name => exact kept (openDetachedKey_keepsColumns _ _)
  | key | settled | kept => exact kept fun other _ _ present => by cases other <;> exact present

/-- The table and its prefix stay. -/
theorem Edit.table {gives : ColumnType → Prop} {edited : Blueprint}
    (edit : Edit gives blueprint edited) :
    edited.name = blueprint.name ∧ edited.tablePrefix = blueprint.tablePrefix := by
  cases edit with
  | @update ref change each => cases ref <;> exact ⟨rfl, rfl⟩
  | _ => exact ⟨rfl, rfl⟩

theorem Edits.table {gives : ColumnType → Prop} {edited : Blueprint}
    (edits : Edits gives blueprint edited) :
    edited.name = blueprint.name ∧ edited.tablePrefix = blueprint.tablePrefix := by
  let same (reached : Blueprint) : Prop :=
    reached.name = blueprint.name ∧ reached.tablePrefix = blueprint.tablePrefix
  have kept : same edited := edits.keeps
    (fun _ _ edit kept => ⟨edit.table.1.trans kept.1, edit.table.2.trans kept.2⟩) ⟨rfl, rfl⟩
  exact kept

/-! ## Drafts and foreign keys -/

/-- Whether a foreign key is what is known of a draft. -/
structure IsKeyOf (blueprint : Blueprint) (key : ForeignKey) (draft : Draft) : Prop where
  column : ∃ ref, key.column = .ofColumn ref ∧ blueprint.Names ref (.text draft.column)
  referenced : key.referencedColumn = .ofText? (draft.last? KeyCall.referenced?)
  table : key.referencedTable =
    (draft.last? KeyCall.table?).map (blueprint.tablePrefix ++ ·)
  deleteAction : key.deleteAction = draft.last? KeyCall.deleteAction?
  updateAction : key.updateAction = draft.last? KeyCall.updateAction?

/-- Whether the foreign keys are drafts, and none of them is finalized. -/
structure Tracks (blueprint : Blueprint) (drafts : List Draft) : Prop where
  keys : List.Forall₂ blueprint.IsKeyOf blueprint.foreignKeys drafts
  rounds : blueprint.finalizations = []

theorem IsKeyOf.mono {edited : Blueprint} {key : ForeignKey} {draft : Draft}
    (isKey : blueprint.IsKeyOf key draft)
    (names : ∀ ref name, blueprint.Names ref name → edited.Names ref name)
    (tablePrefix : edited.tablePrefix = blueprint.tablePrefix) : edited.IsKeyOf key draft := by
  obtain ⟨ref, same, named⟩ := isKey.column
  exact { isKey with
    column := ⟨ref, same, names ref _ named⟩
    table := by rw [tablePrefix, isKey.table] }

/-- Edits leave a foreign key what it is of a draft. -/
theorem IsKeyOf.edits {gives : ColumnType → Prop} {edited : Blueprint} {key : ForeignKey}
    {draft : Draft} (isKey : blueprint.IsKeyOf key draft) (edits : Edits gives blueprint edited) :
    edited.IsKeyOf key draft :=
  isKey.mono (fun _ _ names => edits.keeps (fun _ _ edit kept => edit.names kept) names)
    edits.table.2

/-- A call that says something about a draft says the same about the foreign key. -/
theorem IsKeyOf.add {key : ForeignKey} {draft : Draft} (isKey : blueprint.IsKeyOf key draft)
    {call : KeyCall} (documented : call.isDocumented) :
    blueprint.IsKeyOf (call.edit blueprint.tablePrefix key) (draft.add call) := by
  constructor
  case column =>
    cases call <;> exact isKey.column
  case referenced =>
    rw [Draft.last?_add]
    cases call with
    | references column =>
      cases column with
      | text column => rfl
      | _ => cases documented
    | _ => exact isKey.referenced
  case table =>
    rw [Draft.last?_add]
    cases call with
    | on table =>
      cases table with
      | text table => rfl
      | _ => cases documented
    | _ => exact isKey.table
  case deleteAction =>
    rw [Draft.last?_add]
    cases call with
    | onDelete action =>
      cases action with
      | text action | action action => rfl
      | _ => cases documented
    | _ => exact isKey.deleteAction
  case updateAction =>
    rw [Draft.last?_add]
    cases call with
    | onUpdate action =>
      cases action with
      | text action | action action => rfl
      | _ => cases documented
    | _ => exact isKey.updateAction

theorem callKey_eq (blueprint : Blueprint) (index : Nat) {call : KeyCall}
    (documented : call.isDocumented) :
    (blueprint.callKey index call).blueprint =
      blueprint.updateKey index (call.edit blueprint.tablePrefix) := by
  have unchanged : blueprint.updateKey index (fun key => key) = blueprint := by
    rw [updateKey]
    exact congrArg (fun foreignKeys => { blueprint with foreignKeys }) (List.modify_id index _)
  cases call with
  | references column => rfl
  | on table =>
    cases table with
    | text table => rfl
    | _ => cases documented
  | onDelete action | onUpdate action =>
    cases action with
    | text action | action action => rfl
    | _ => cases documented
  | constraintName | sql =>
    rw [callKey, askKey_blueprint]
    exact unchanged.symm

theorem forall₂_modify {α β : Type} {relation : α → β → Prop} {change : α → α} {same : β → β}
    (each : ∀ left right, relation left right → relation (change left) (same right))
    {lefts : List α} {rights : List β} (all : List.Forall₂ relation lefts rights) (index : Nat) :
    List.Forall₂ relation (lefts.modify index change) (rights.modify index same) := by
  induction all generalizing index with
  | nil => simp
  | cons first rest ih =>
    cases index with
    | zero => exact .cons (each _ _ first) rest
    | succ index => exact .cons first (ih index)

/-! ## Opened drafts -/

/-- A text can always be defined. -/
theorem define_text (blueprint : Blueprint) (name : String) (type : ColumnType) :
    ∃ defined ref, blueprint.define (.text name) type = .ok (defined, ref) := by
  obtain ⟨awaited, found⟩ := blueprint.awaiting?_text name
  rw [define, found]
  cases awaited with
  | none => exact ⟨_, _, rfl⟩
  | some index => exact ⟨_, _, rfl⟩

/-- The column that is defined has the name. -/
theorem define_names {name : String} {type : ColumnType} {defined : Blueprint} {ref : ColumnRef}
    (made : blueprint.define (.text name) type = .ok (defined, ref)) :
    defined.Names ref (.text name) := by
  obtain ⟨index, awaited, rfl, rfl⟩ | ⟨-, rfl, rfl⟩ := define_cases made
  · obtain ⟨-, column, found, -, named⟩ := awaiting?_text_eq_some.mp awaited
    refine ⟨column.withType type, ?_, named⟩
    rw [column?_updateColumn, column?_attached.mpr found]
    rfl
  · exact ⟨_, column?_appendColumn _ _, rfl⟩

/-- Whether a blueprint has one more foreign key than another, on a column of a name. -/
structure Opens (before after : Blueprint) (column : String) : Prop where
  keys : ∃ ref, after.foreignKeys = before.foreignKeys ++ [ForeignKey.start (.ofColumn ref)] ∧
    after.Names ref (.text column)
  rounds : after.finalizations = before.finalizations

theorem openKey_opens {ref : ColumnRef} {column : String}
    (names : blueprint.Names ref (.text column)) :
    Opens blueprint (blueprint.openKey (.ofColumn ref)) column := by
  obtain ⟨found, present, named⟩ := names
  have kept : KeepsColumns (fun _ => False) blueprint (blueprint.openKey (.ofColumn ref)) :=
    openKey_keepsColumns blueprint _
  exact ⟨⟨ref, rfl, found, kept ref found id present, named⟩, rfl⟩

theorem openDetachedKey_opens (blueprint : Blueprint) (column : String) :
    Opens blueprint (blueprint.openDetachedKey column) column := by
  have added : (blueprint.openDetachedKey column).column? (.detached blueprint.detached.length) =
      some (.bare (.text column) .add) :=
    List.getElem?_concat_length
  exact ⟨⟨_, rfl, _, added, rfl⟩, rfl⟩

/-- A call that opens a draft opens a foreign key. -/
theorem callTable_opens {call : TableCall} {column : String}
    (opens : blueprint.opens? call = some column) :
    Opens blueprint (blueprint.callTable call).blueprint column := by
  cases call with
  | foreignId given =>
    cases given with
    | text name =>
      obtain rfl := Option.some.inj opens
      obtain ⟨defined, ref, made⟩ := blueprint.define_text name .unsignedInteger
      have guards : Guards (fun _ => True) blueprint := fun _ guarded => absurd trivial guarded
      have leaves := (define_leaves guards made).2
      obtain ⟨⟨opened, keys, names⟩, rounds⟩ := openKey_opens (define_names made)
      simp only [callTable, made]
      exact ⟨⟨opened, leaves.keys ▸ keys, names⟩, rounds.trans leaves.rounds⟩
    | _ => cases opens
  | «foreign» given =>
    cases given with
    | text name =>
      obtain rfl := Option.some.inj opens
      exact openDetachedKey_opens blueprint name
    | mention something =>
      cases something with
      | target target =>
        cases target with
        | column ref =>
          simp only [opens?] at opens
          split at opens
          · rename_i name named
            obtain rfl := Option.some.inj opens
            exact openKey_opens (names_of_columnName named)
          · cases opens
        | _ => cases opens
      | _ => cases opens
    | _ => cases opens
  | _ => cases opens

/-! ## Moves -/

theorem Tracks.keep {drafts : List Draft} (tracks : blueprint.Tracks drafts) {edited : Blueprint}
    {gives : ColumnType → Prop} (edits : Edits gives blueprint edited)
    (keys : edited.foreignKeys = blueprint.foreignKeys)
    (rounds : edited.finalizations = blueprint.finalizations) : edited.Tracks drafts := by
  refine ⟨?_, rounds.trans tracks.rounds⟩
  rw [keys]
  exact tracks.keys.imp fun _ _ isKey => isKey.edits edits

theorem Tracks.open {drafts : List Draft} (tracks : blueprint.Tracks drafts) {edited : Blueprint}
    {gives : ColumnType → Prop} (edits : Edits gives blueprint edited) {column : String}
    (opens : Opens blueprint edited column) : edited.Tracks (drafts ++ [⟨column, []⟩]) := by
  obtain ⟨⟨ref, keys, names⟩, rounds⟩ := opens
  refine ⟨?_, rounds.trans tracks.rounds⟩
  rw [keys]
  have earlier : List.Forall₂ edited.IsKeyOf blueprint.foreignKeys drafts :=
    tracks.keys.imp fun _ _ isKey => isKey.edits edits
  have opened : edited.IsKeyOf (ForeignKey.start (.ofColumn ref)) ⟨column, []⟩ :=
    ⟨⟨ref, rfl, names⟩, rfl, rfl, rfl, rfl⟩
  exact List.rel_append earlier (.cons opened .nil)

/-- Every admitted move leaves the foreign keys drafts. -/
theorem Tracks.moved {drafts : List Draft} (tracks : blueprint.Tracks drafts) {move : Move}
    (admitted : blueprint.admits move) :
    (blueprint.moved move).Tracks (blueprint.drafted drafts move) := by
  have guards : Guards (fun _ => True) blueprint := fun _ guarded => absurd trivial guarded
  cases move with
  | keep values =>
    obtain ⟨lists, same⟩ := keepAll_lists blueprint values
    have edits : Edits (fun _ => False) blueprint { blueprint with lists } :=
      (Edit.kept lists).edits
    rw [Blueprint.moved, same]
    exact tracks.keep edits rfl rfl
  | call call =>
    have edits := blueprint.perform_edits call
    cases call with
    | column ref made =>
      have leaves := @callColumn_leaves (fun _ => True) blueprint ref trivial made
      exact tracks.keep edits leaves.keys leaves.rounds
    | key index made =>
      have same := blueprint.callKey_eq index admitted
      change (blueprint.callKey index made).blueprint.Tracks _
      change Edits _ blueprint (blueprint.callKey index made).blueprint at edits
      rw [same] at edits ⊢
      have keys := forall₂_modify (fun _ _ isKey => IsKeyOf.add isKey admitted) tracks.keys index
      exact ⟨keys.imp fun _ _ isKey => isKey.edits edits, tracks.rounds⟩
    | table made =>
      change (blueprint.callTable made).blueprint.Tracks _
      cases opens : blueprint.opens? made with
      | some column =>
        have added : blueprint.drafted drafts (.call (.table made)) = drafts ++ [⟨column, []⟩] := by
          simp only [drafted, opens, Option.toList_some, List.map_cons, List.map_nil]
        rw [added]
        exact tracks.open edits (callTable_opens opens)
      | none =>
        have other : ¬ made.IsForKeys := by
          intro forKeys
          cases made <;> first | exact forKeys | simp [admits, opens] at admitted
        have leaves := callTable_leaves guards made (fun _ _ _ => trivial) other
        have kept : blueprint.drafted drafts (.call (.table made)) = drafts := by
          simp only [drafted, opens, Option.toList_none, List.map_nil, List.append_nil]
        rw [kept]
        exact tracks.keep edits leaves.keys leaves.rounds

theorem Tracks.movedAll {drafts : List Draft} (tracks : blueprint.Tracks drafts)
    {moves : List Move} (admitted : blueprint.admitsAll moves) :
    (blueprint.movedAll moves).Tracks (blueprint.draftedAll drafts moves) := by
  induction moves generalizing blueprint drafts with
  | nil => exact tracks
  | cons move moves ih =>
    obtain ⟨first, rest⟩ := Bool.and_eq_true_iff.mp admitted
    exact ih (tracks.moved first) rest

/-! ## Finalization -/

theorem isComplete_iff {key : ForeignKey} {draft : Draft} (isKey : blueprint.IsKeyOf key draft) :
    blueprint.isComplete key = draft.isComplete blueprint.tablePrefix := by
  rw [isComplete, isKey.referenced, isKey.table, Draft.isComplete]
  cases draft.last? KeyCall.referenced? with
  | none => rfl
  | some column =>
    cases draft.last? KeyCall.table? with
    | none => simp
    | some table => rfl

theorem shown_text (blueprint : Blueprint) (text : String) :
    blueprint.shown (.text text) = .ok text :=
  blueprint.shown_note (trivial : (Value.text text).IsNote)

theorem keyColumnText_eq {key : ForeignKey} {draft : Draft} (isKey : blueprint.IsKeyOf key draft) :
    blueprint.keyColumnText key = .ok draft.column := by
  obtain ⟨ref, same, names⟩ := isKey.column
  have name : blueprint.keyColumnName key = .ok (.text draft.column) := by
    rw [← names.columnName, keyColumnName, same]
    rfl
  rw [keyColumnText, name]
  exact blueprint.shown_text draft.column

theorem keySql_eq {key : ForeignKey} {draft : Draft} (isKey : blueprint.IsKeyOf key draft)
    (complete : draft.isComplete blueprint.tablePrefix) :
    blueprint.keySql key = .ok (draft.constraint blueprint.tablePrefix blueprint.name) := by
  have column := keyColumnText_eq isKey
  unfold Draft.isComplete at complete
  split at complete
  · rename_i referenced table refers tabled
    have shown : blueprint.shown key.referencedColumn = .ok referenced := by
      rw [isKey.referenced, refers]
      exact blueprint.shown_text referenced
    have target : key.tableText = blueprint.tablePrefix ++ table := by
      rw [ForeignKey.tableText, ForeignKey.tableValue, isKey.table, tabled]
      rfl
    unfold keySql constraintName Draft.constraint
    rw [column, shown, target, isKey.deleteAction, isKey.updateAction, refers, tabled]
    rfl
  · cases complete

/-- Drafts become constraints or notices, each by itself, in their order. -/
theorem settleKeys_eq {keys : List ForeignKey} {drafts : List Draft}
    (each : List.Forall₂ blueprint.IsKeyOf keys drafts) :
    blueprint.settleKeys keys =
      ⟨.ok (),
        { blueprint with
          specs := blueprint.specs ++
            Draft.constraints blueprint.tablePrefix blueprint.name drafts },
        Draft.omissions blueprint.tablePrefix blueprint.name drafts⟩ := by
  induction keys generalizing blueprint drafts with
  | nil =>
    cases each
    simp [settleKeys, Draft.constraints, Draft.omissions]
  | cons key keys ih =>
    obtain _ | ⟨isKey, rest⟩ := each
    rename_i draft drafts
    rw [settleKeys, isComplete_iff isKey, Draft.constraints_cons, Draft.omissions_cons]
    cases complete : draft.isComplete blueprint.tablePrefix with
    | true =>
      let text := draft.constraint blueprint.tablePrefix blueprint.name
      have edits : Edits (fun _ => False) blueprint (blueprint.appendConstraint text) :=
        (constraint_edit text).edits
      have settled := ih (rest.imp fun _ _ isKey => isKey.edits edits)
      rw [keySql_eq isKey complete]
      simp only [if_true]
      rw [settled]
      simp [appendConstraint, text]
    | false =>
      rw [keyColumnText_eq isKey]
      simp [ih rest, table]

/-- What a finalization does with drafts. It succeeds; behind the specs there are then the
constraints of the complete drafts in the order in which these were opened, and nothing else is
different in the specs; there is a notice for each of the others. No foreign key is pending any
more, and calls on foreign keys make no difference to that: the specs stay, and another finalization
adds nothing and notes nothing. -/
structure Settles (reached : Blueprint) (tablePrefix name : String) (drafts : List Draft) :
    Prop where
  result : reached.finalize.result = .ok ()
  specs : reached.finalize.blueprint.specs =
    reached.specs ++ Draft.constraints tablePrefix name drafts
  notices : reached.finalize.notices = Draft.omissions tablePrefix name drafts
  debug : ∀ notice ∈ reached.finalize.notices, notice.severity = .debug
  current : reached.finalize.blueprint.current = reached.current
  pending : reached.finalize.blueprint.pendingKeys = []
  afterwards : ∀ later : List (Nat × KeyCall),
    let further := reached.finalize.blueprint.movedAll
      (later.map fun (index, call) => .call (.key index call))
    further.specs = reached.finalize.blueprint.specs ∧
      further.current = reached.current ∧ further.pendingKeys = [] ∧
      further.finalize.result = .ok () ∧
      further.finalize.blueprint.specs = reached.finalize.blueprint.specs ∧
      further.finalize.notices = []

theorem pendingKeys_closeRound (blueprint : Blueprint) : blueprint.closeRound.pendingKeys = [] := by
  simp [pendingKeys, finalized, closeRound]

/-- Without pending foreign keys a finalization does nothing that shows. -/
theorem finalize_of_none (none : blueprint.pendingKeys = []) :
    blueprint.finalize = ⟨.ok (), blueprint.closeRound, []⟩ := by
  rw [finalize, none]
  rfl

/-- Calls on foreign keys change no specs and open no keys. -/
theorem movedAll_keys (calls : List (Nat × KeyCall)) (none : blueprint.pendingKeys = []) :
    let further := blueprint.movedAll (calls.map fun (index, call) => .call (.key index call))
    further.specs = blueprint.specs ∧ further.current = blueprint.current ∧
      further.pendingKeys = [] := by
  induction calls generalizing blueprint with
  | nil => exact ⟨rfl, rfl, none⟩
  | cons call calls ih =>
    obtain ⟨foreignKeys, length, same⟩ := blueprint.callKey_specs call.1 call.2
    have step : blueprint.moved (.call (.key call.1 call.2)) = { blueprint with foreignKeys } :=
      same
    have still : { blueprint with foreignKeys : Blueprint }.pendingKeys = [] := by
      have enough := List.drop_eq_nil_iff.mp none
      exact List.drop_eq_nil_iff.mpr (length ▸ enough)
    rw [List.map_cons, movedAll_cons, step]
    exact ih still

/-- Foreign keys of drafts are settled by a finalization. -/
theorem Tracks.settles {drafts : List Draft} (tracks : blueprint.Tracks drafts) :
    blueprint.Settles blueprint.tablePrefix blueprint.name drafts := by
  have pending : blueprint.pendingKeys = blueprint.foreignKeys := by
    rw [pendingKeys, finalized, tracks.rounds]
    rfl
  have outcome : blueprint.finalize =
      ⟨.ok (),
        { blueprint with
          specs := blueprint.specs ++
            Draft.constraints blueprint.tablePrefix blueprint.name drafts : Blueprint }.closeRound,
        Draft.omissions blueprint.tablePrefix blueprint.name drafts⟩ := by
    rw [finalize, pending, settleKeys_eq tracks.keys]
  have closed : blueprint.finalize.blueprint.pendingKeys = [] := by
    rw [outcome]
    exact pendingKeys_closeRound _
  refine ⟨?_, ?_, ?_, ?_, ?_, closed, fun later => ?_⟩
  · rw [outcome]
  · rw [outcome]
    rfl
  · rw [outcome]
  · rw [outcome]
    exact Draft.omissions_severity _ _ drafts
  · rw [outcome]
    rfl
  · intro further
    obtain ⟨specs, current, none⟩ := movedAll_keys later closed
    have again : further.finalize = ⟨.ok (), further.closeRound, []⟩ := finalize_of_none none
    refine ⟨specs, ?_, none, ?_, ?_, ?_⟩
    · rw [current, outcome]
      rfl
    · rw [again]
    · rw [again]
      exact specs
    · rw [again]

/-- The table and its prefix stay through any history. -/
theorem movedAll_table (blueprint : Blueprint) (moves : List Move) :
    (blueprint.movedAll moves).name = blueprint.name ∧
      (blueprint.movedAll moves).tablePrefix = blueprint.tablePrefix := by
  let same (reached : Blueprint) : Prop :=
    reached.name = blueprint.name ∧ reached.tablePrefix = blueprint.tablePrefix
  have kept : same (blueprint.movedAll moves) := movedAll_keeps
    (fun _ _ _ edit kept => ⟨edit.table.1.trans kept.1, edit.table.2.trans kept.2⟩) ⟨rfl, rfl⟩ moves
  exact kept

/-- The first finalization settles every draft by itself. For every blueprint and every history in
which nothing is finalized: the constraints come behind all specs that there are by then, in the
order in which their drafts were opened, each made of its own column and its own last calls, however
the calls on different drafts were interleaved with each other and with all other calls. -/
theorem finalize_settles (tablePrefix name : String) {moves : List Move}
    (admitted : (empty tablePrefix name).admitsAll moves) :
    ((empty tablePrefix name).movedAll moves).Settles tablePrefix name
      ((empty tablePrefix name).draftedAll [] moves) := by
  have initially : (empty tablePrefix name).Tracks [] := ⟨.nil, rfl⟩
  have settles := (initially.movedAll admitted).settles
  obtain ⟨named, prefixed⟩ := (empty tablePrefix name).movedAll_table moves
  rw [named, prefixed] at settles
  exact settles

/-- Four drafts whose calls cross. The second is completed before the first, the third lacks a
table, and the fourth has a table but no column to refer to. -/
def crossedDrafts : List Move :=
  [.call (.table (.foreignId (.text "author_id"))),
    .call (.table (.define (.string (.int 80)) (.text "title") .null)),
    .call (.table (.foreign (.text "editor_id"))),
    .call (.key 1 (.references (.text "id"))),
    .call (.table (.foreignId (.text "site_id"))),
    .call (.key 1 (.on (.text "users"))),
    .call (.key 0 (.on (.text "people"))),
    .call (.column (.attached 0) (.nullable (.bool true))),
    .call (.key 2 (.references (.text "id"))),
    .call (.key 0 (.references (.text "uuid"))),
    .call (.key 0 (.onDelete (.action .cascade))),
    .call (.key 1 (.onUpdate (.text " set null "))),
    .call (.table (.foreign (.ofColumn (.attached 1)))),
    .call (.key 3 (.on (.text "titles"))),
    .call (.key 0 (.on (.text "users"))),
    .call (.key 1 (.onDelete (.text " ")))]

theorem crossedDrafts_settled :
    let reached := (empty "app_" "posts").movedAll crossedDrafts
    (empty "app_" "posts").admitsAll crossedDrafts ∧
      reached.finalize.blueprint.specs = reached.specs ++
        [.constraint ("CONSTRAINT `app_posts_author_id_fk` FOREIGN KEY (`author_id`) " ++
            "REFERENCES `app_users` (`uuid`) ON DELETE CASCADE"),
          .constraint ("CONSTRAINT `app_posts_editor_id_fk` FOREIGN KEY (`editor_id`) " ++
            "REFERENCES `app_users` (`id`) ON UPDATE SET NULL")] ∧
      reached.finalize.notices =
        [.incompleteKey "app_posts" "site_id", .incompleteKey "app_posts" "title"] := by
  intro reached
  have admitted : (empty "app_" "posts").admitsAll crossedDrafts := by decide +kernel
  have settles := finalize_settles "app_" "posts" admitted
  refine ⟨admitted, ?_, ?_⟩
  · rw [settles.specs]
    exact congrArg _ (by decide +kernel)
  · rw [settles.notices]
    decide +kernel

end Blueprint

end Tablewright
