import Tablewright.Proofs.Blueprint.Documented
import Tablewright.Proofs.Statement.Words

/-! # Legible columns

The fragment of a column is its clauses in a fixed order, most of which may be left out. Defaults
and comments may look like any of the clauses. Still, a fragment can be read in one way only: a
name, a literal and a number are one word each, and behind the type every clause begins with a
keyword of its own. So all that a column tells the server is known from its fragment, as long as its
names have no marks, its lengths are whole numbers, and its default is null, a truth value, a whole
number, a text or the current moment.
-/

namespace Tablewright

/-! ## Types -/

/-- Whether a value is a whole number. Truth values are whole numbers, too. -/
def Value.isWhole : Value → Bool
  | .int _ | .bool _ => true
  | _ => false

theorem Value.isWord_plainForm {value : Value} (whole : value.isWhole) :
    IsWord value.plainForm := by
  cases value with
  | int number => exact isWord_toString number
  | bool value => cases value <;> decide
  | _ => cases whole

namespace ColumnType

/-- The declaration of a type apart from its sign. -/
def baseSql : ColumnType → Except Fault String
  | .integer size _ => .ok size.sql
  | .bigInteger _ => .ok IntegerSize.big.sql
  | type => type.sql

/-- Whether a type is unsigned. -/
def isUnsigned : ColumnType → Bool
  | .integer _ unsigned | .bigInteger unsigned => unsigned.isTruthy
  | _ => false

/-- The words behind the declaration of a type that say that it is unsigned. -/
def signWords (type : ColumnType) : List String :=
  flagWords type.isUnsigned ["UNSIGNED"]

/-- A type is declared by one word, and one more if it is unsigned. -/
theorem sql_eq_words (type : ColumnType) :
    type.sql = type.baseSql.map fun base => " ".intercalate (base :: type.signWords) := by
  have signed (size : IntegerSize) (unsigned : Value) :
      " ".intercalate (size.sql :: flagWords unsigned.isTruthy ["UNSIGNED"]) =
        withSign size unsigned := by
    unfold withSign flagWords
    split
    · simp [String.intercalate_cons_cons, String.append_assoc]
    · simp
  have alone (result : Except Fault String) :
      result = result.map fun base => " ".intercalate [base] := by
    cases result <;> simp [Except.map]
  cases type with
  | integer size unsigned => exact congrArg Except.ok (signed size unsigned).symm
  | bigInteger unsigned => exact congrArg Except.ok (signed .big unsigned).symm
  | _ => exact alone _

/-- Whether the lengths and the numbers of digits in a type are whole numbers. -/
def isMeasured : ColumnType → Bool
  | .string length | .char length => length.isWhole
  | .decimal precision scale => precision.isWhole && scale.isWhole
  | _ => true

theorem isMeasured_mapSign (type : ColumnType) (change : Value → Value) :
    (type.mapSign change).isMeasured = type.isMeasured := by
  cases type <;> rfl

/-- The declaration of a measured type is one word and its sign. -/
theorem isWord_baseSql {type : ColumnType} (measured : type.isMeasured) {base : String}
    (declared : type.baseSql = .ok base) : IsWord base := by
  have sizes (size : IntegerSize) : IsWord size.sql := by cases size <;> decide
  have closes : IsWord ")" := by decide
  have sized {opening : String} (opens : IsWord opening) {length : Value} (whole : length.isWhole)
      {text : String} (written : length.shown = .ok text) : IsWord (opening ++ text ++ ")") := by
    obtain ⟨-, rfl⟩ := Value.shown_eq_ok.mp written
    exact (opens.append (Value.isWord_plainForm whole)).append closes
  cases type with
  | string length | char length =>
    obtain ⟨text, written, same⟩ := bind_eq_ok.mp declared
    obtain rfl := Except.ok.inj same
    exact sized (by decide) measured written
  | decimal precision scale =>
    obtain ⟨digits, places⟩ := Bool.and_eq_true_iff.mp measured
    obtain ⟨first, written, declared⟩ := bind_eq_ok.mp declared
    obtain ⟨second, fraction, same⟩ := bind_eq_ok.mp declared
    obtain rfl := Except.ok.inj same
    obtain ⟨-, rfl⟩ := Value.shown_eq_ok.mp written
    have opens : IsWord "DECIMAL(" := by decide
    have comma : IsWord "," := by decide
    exact sized ((opens.append (Value.isWord_plainForm digits)).append comma) places fraction
  | enum values =>
    obtain rfl := Except.ok.inj declared
    have opens : IsWord "ENUM(" := by decide
    exact (opens.append (isWord_literals values)).append closes
  | integer size unsigned =>
    obtain rfl := Except.ok.inj declared
    exact sizes size
  | bigInteger unsigned =>
    obtain rfl := Except.ok.inj declared
    exact sizes .big
  | text size =>
    obtain rfl := Except.ok.inj declared
    cases size <;> decide
  | float double =>
    obtain rfl := Except.ok.inj declared
    cases double <;> decide
  | boolean | binary | json | date | time | dateTime | timestamp =>
    obtain rfl := Except.ok.inj declared
    decide

end ColumnType

/-! ## Defaults -/

/-- Whether a default is null, a truth value, a whole number or a text. -/
def Value.isPlainDefault : Value → Bool
  | .null | .bool _ | .int _ | .text _ => true
  | _ => false

/-- The literal of a plain default is one word. -/
theorem Value.isWord_defaultLiteral {value : Value} (plain : value.isPlainDefault)
    {literal : String} (written : defaultLiteral value = .ok literal) : IsWord literal := by
  cases value with
  | null =>
    obtain rfl := Except.ok.inj written
    decide
  | bool value =>
    obtain rfl := Except.ok.inj written
    cases value <;> decide
  | int number =>
    obtain ⟨-, rfl⟩ := Value.shown_eq_ok.mp written
    exact isWord_toString number
  | text text =>
    obtain rfl := Except.ok.inj written
    exact isWord_quoteLiteral text
  | _ => cases plain

/-- Of the plain defaults, only a text is written with the literal of a text. -/
theorem Value.eq_text_of_defaultLiteral {value : Value} (plain : value.isPlainDefault)
    {text : String} (same : defaultLiteral value = .ok (quoteLiteral text)) :
    value = .text text := by
  have marked := singleMark_mem_quoteLiteral text
  cases value with
  | null =>
    rw [← Except.ok.inj same] at marked
    exact absurd marked (by decide)
  | bool value =>
    rw [← Except.ok.inj same] at marked
    cases value <;> exact absurd marked (by decide)
  | int number =>
    obtain ⟨-, written⟩ := Value.shown_eq_ok.mp same
    rw [← written] at marked
    exact absurd (digits_toString number _ marked) (by decide)
  | text other => rw [quoteLiteral_inj (Except.ok.inj same)]
  | _ => cases plain

namespace DefaultClause

/-- The words of a default. -/
def words : DefaultClause → Except Fault (List String)
  | .none => .ok []
  | .value given => do return ["DEFAULT", ← defaultLiteral given]
  | .expression given => do return ["DEFAULT", ← given.shown]

/-- The text that a default is, if it is one. -/
def text? : DefaultClause → Option String
  | .value (.text text) => some text
  | _ => Option.none

/-- Whether a default is a plain value or the current moment. -/
def isLegible : DefaultClause → Bool
  | .none => true
  | .value given => given.isPlainDefault
  | .expression given => given = .text currentMoment

/-- A legible default reads like the literal of a text only if it is that text. -/
theorem text?_eq_some_iff {clause : DefaultClause} (legible : clause.isLegible) {text : String} :
    clause.text? = some text ↔ clause.words = .ok ["DEFAULT", quoteLiteral text] := by
  cases clause with
  | none => simp [text?, words]
  | value value =>
    constructor
    · intro given
      cases value with
      | text other =>
        obtain rfl := Option.some.inj given
        rfl
      | _ => cases given
    · intro same
      obtain ⟨literal, written, same⟩ := bind_eq_ok.mp same
      obtain rfl : literal = quoteLiteral text :=
        (List.cons.inj (List.cons.inj (Except.ok.inj same)).2).1
      rw [Value.eq_text_of_defaultLiteral legible written]
      rfl
  | expression expression =>
    obtain rfl : expression = .text currentMoment := of_decide_eq_true legible
    refine ⟨fun given => (by cases given), fun same => ?_⟩
    have literal : currentMoment = quoteLiteral text :=
      (List.cons.inj (List.cons.inj (Except.ok.inj same)).2).1
    have marked : Text.singleMark ∈ currentMoment.toList :=
      literal ▸ singleMark_mem_quoteLiteral text
    exact absurd marked (by decide)

/-- A legible default is its keyword and one word. -/
theorem isWord_words {clause : DefaultClause} (legible : clause.isLegible) {given : List String}
    (written : clause.words = .ok given) : ∀ word ∈ given, IsWord word := by
  have keyword : IsWord "DEFAULT" := by decide
  cases clause with
  | none =>
    obtain rfl := Except.ok.inj written
    simp
  | value value =>
    obtain ⟨literal, literally, same⟩ := bind_eq_ok.mp written
    obtain rfl := Except.ok.inj same
    simpa using ⟨keyword, Value.isWord_defaultLiteral legible literally⟩
  | expression expression =>
    obtain rfl : expression = .text currentMoment := of_decide_eq_true legible
    obtain rfl := Except.ok.inj written
    decide

/-- The words of a default stand in the clause with their keyword. -/
theorem words_fit {clause : DefaultClause} {given : List String}
    (written : clause.words = .ok given) : Fits [("DEFAULT", 1)] given := by
  cases clause with
  | none =>
    obtain rfl := Except.ok.inj written
    exact .absent
  | value value =>
    obtain ⟨literal, -, same⟩ := bind_eq_ok.mp written
    obtain rfl := Except.ok.inj same
    exact .clause (List.mem_singleton.mpr rfl)
  | expression expression =>
    obtain ⟨text, -, same⟩ := bind_eq_ok.mp written
    obtain rfl := Except.ok.inj same
    exact .clause (List.mem_singleton.mpr rfl)

theorem givenIf_words (clause : DefaultClause) : GivenIf clause.isWritten clause.words := by
  cases clause with
  | none => exact givenIf_ok []
  | value value => exact (givenIf_defaultLiteral value).map _
  | expression expression => exact expression.givenIf_shown.map _

end DefaultClause

/-! ## Positions and comments -/

theorem Position.isWord_words {position : Position}
    (unmarked : ∀ name, position = .after name → Unmarked name) :
    ∀ word ∈ position.words, IsWord word := by
  cases position with
  | first => decide
  | after name =>
    have keyword : IsWord "AFTER" := by decide
    simpa [words] using ⟨keyword, isWord_quoteName (unmarked name rfl)⟩

/-- The words of a comment. -/
def commentWords : Option String → List String
  | none => []
  | some comment => ["COMMENT", quoteLiteral comment]

/-- The words of a position, if there is one. -/
def positionWords : Option Position → List String
  | none => []
  | some position => position.words

/-- The words that allow or forbid null. -/
def nullabilityWords (nullability : Value) : List String :=
  if nullability = .null then [] else if nullability.isTruthy then ["NULL"] else ["NOT", "NULL"]

theorem isWord_nullabilityWords (nullability : Value) :
    ∀ word ∈ nullabilityWords nullability, IsWord word := by
  unfold nullabilityWords
  split
  · simp
  · split <;> decide

theorem isWord_commentWords (comment : Option String) :
    ∀ word ∈ commentWords comment, IsWord word := by
  cases comment with
  | none => simp [commentWords]
  | some comment =>
    have keyword : IsWord "COMMENT" := by decide
    simpa [commentWords] using ⟨keyword, isWord_quoteLiteral comment⟩

/-! ## Columns -/

/-- The keywords of the clauses behind the type of a column, and how many words follow each. -/
def clauseForms : List Keywords :=
  [[("UNSIGNED", 0)], [("NULL", 0), ("NOT", 1)], [("AUTO_INCREMENT", 0)], [("PRIMARY", 1)],
    [("DEFAULT", 1)], [("ON", 2)], [("COMMENT", 1)], [("FIRST", 0), ("AFTER", 1)]]

theorem clauseForms_apart : (clauseForms.flatten.map Prod.fst).Nodup := by
  decide

namespace Column

/-- Whether the names in a column have no marks, the lengths in its type are whole numbers, and its
default is a plain value or the current moment. -/
structure IsLegible (column : Column) : Prop where
  name : Unmarked column.name.plainForm
  type : ∃ type, column.type = some type ∧ type.isMeasured
  default : column.defaultClause.isLegible
  position : ∀ name, column.position = some ("AFTER " ++ quoteName name) → Unmarked name

/-- What a column tells: its name, the declaration of its type, whether null is allowed, whether it
is numbered and a key, its default as it is written and the text that this is, whether it is
refreshed, its comment, and its position. -/
structure Told where
  name : Value
  type : Option (Except Fault String)
  nullability : Value
  autoIncrement : Bool
  primaryKey : Bool
  default : Except Fault (List String)
  defaultText : Option String
  refreshed : Bool
  comment : Value
  position : Option String
deriving DecidableEq

/-- What the column tells. -/
def told (column : Column) : Told where
  name := column.name
  type := column.type.map ColumnType.sql
  nullability := column.nullability
  autoIncrement := column.autoIncrement
  primaryKey := column.primaryKey
  default := column.defaultClauses
  defaultText := column.defaultClause.text?
  refreshed := column.refreshed
  comment := column.comment
  position := column.position

/-- A column with its parts by name: its name and type, its comment and its position, with the
declaration of the type apart from its sign and the words of the default. -/
structure Spells (column : Column) (name : String) (type : ColumnType) (base : String)
    (default : List String) (comment : Option String) (position : Option Position) : Prop where
  name : column.name = .text name
  base : type.baseSql = .ok base
  default : column.defaultClause.words = .ok default
  type : column.type = some type
  comment : column.comment = .ofText? comment
  position : column.position = position.map fun position => " ".intercalate position.words

/-- The words of the clauses behind the type of a column. -/
def clauseWords (column : Column) (type : ColumnType) (default : List String)
    (comment : Option String) (position : Option Position) : List (List String) :=
  [type.signWords,
    nullabilityWords column.nullability,
    flagWords column.autoIncrement ["AUTO_INCREMENT"],
    flagWords column.primaryKey ["PRIMARY", "KEY"],
    default,
    flagWords column.refreshed ["ON", "UPDATE", currentMoment],
    commentWords comment,
    positionWords position]

variable {column : Column} {name : String} {type : ColumnType} {base : String}
  {default : List String} {comment : Option String} {position : Option Position}

/-! ### Words -/

theorem nullabilityClause_eq (column : Column) :
    column.nullabilityClause = joined (nullabilityWords column.nullability) := by
  unfold nullabilityClause nullabilityWords
  split
  · rfl
  · split <;> rfl

theorem keyClauses_eq (column : Column) :
    column.keyClauses =
      joined (flagWords column.autoIncrement ["AUTO_INCREMENT"]) ++
        joined (flagWords column.primaryKey ["PRIMARY", "KEY"]) := by
  unfold keyClauses
  cases column.autoIncrement <;> cases column.primaryKey <;> rfl

theorem defaultClauses_eq (column : Column) :
    column.defaultClauses = column.defaultClause.words.map joined := by
  have two (result : Except Fault String) :
      (result.map fun word => ["DEFAULT " ++ word]) =
        (do return ["DEFAULT", ← result] : Except Fault (List String)).map joined := by
    cases result with
    | error fault => rfl
    | ok word => simp [joined, String.intercalate_cons_cons, Except.map, bind, Except.bind, pure,
        Except.pure]
  unfold defaultClauses
  cases column.defaultClause with
  | none => rfl
  | value value => exact two _
  | expression expression => exact two _

theorem refreshClause_eq (column : Column) :
    column.refreshClause = joined (flagWords column.refreshed ["ON", "UPDATE", currentMoment]) := by
  unfold refreshClause
  cases column.refreshed <;> rfl

theorem Spells.commentClause (spells : column.Spells name type base default comment position) :
    column.commentClause = .ok (joined (commentWords comment)) := by
  rw [Column.commentClause, spells.comment]
  cases comment with
  | none => rfl
  | some comment => simp [Value.ofText?, joined, commentWords, String.intercalate_cons_cons]

theorem Spells.positionClause (spells : column.Spells name type base default comment position) :
    column.position.toList = joined (positionWords position) := by
  rw [spells.position]
  cases position with
  | none => rfl
  | some position => cases position <;> rfl

/-- The fragment of a column is its words with spaces between them. -/
theorem Spells.sql (spells : column.Spells name type base default comment position)
    (definition : column.definition = .null) :
    column.sql = .ok (" ".intercalate (quoteName name :: base ::
      (column.clauseWords type default comment position).flatten)) := by
  have declared : column.typeClause = .ok (joined (base :: type.signWords)) := by
    rw [typeClause, definition, spells.type]
    simp only [type.sql_eq_words, spells.base]
    rfl
  have defaulted : column.defaultClauses = .ok (joined default) := by
    rw [defaultClauses_eq, spells.default]
    rfl
  have named : column.name.shown = .ok name := by
    rw [spells.name, Value.shown_text]
  have defined : column.definitionClause = .ok [] := by
    rw [definitionClause, definition]
  have clauses : column.clauses = .ok (([quoteName name] :: (base :: type.signWords) ::
      (column.clauseWords type default comment position).tail).flatMap joined) := by
    rw [Column.clauses, named, declared, defaulted, spells.commentClause, defined,
      nullabilityClause_eq, keyClauses_eq, refreshClause_eq, spells.positionClause]
    simp [clauseWords, joined, bind, Except.bind, pure, Except.pure]
  rw [Column.sql, clauses]
  change Except.ok _ = _
  rw [intercalate_joined]
  rfl

/-- The clauses of a column stand in the fixed order. -/
theorem Spells.clauseWords_fit (spells : column.Spells name type base default comment position) :
    List.Forall₂ Fits clauseForms (column.clauseWords type default comment position) := by
  have nullability : Fits [("NULL", 0), ("NOT", 1)] (nullabilityWords column.nullability) := by
    unfold nullabilityWords
    split
    · exact .absent
    · split <;> exact .clause (by decide)
  have default := DefaultClause.words_fit spells.default
  have remark : Fits [("COMMENT", 1)] (commentWords comment) := by
    cases comment with
    | none => exact .absent
    | some comment => exact .clause (List.mem_singleton.mpr rfl)
  have place : Fits [("FIRST", 0), ("AFTER", 1)] (positionWords position) := by
    cases position with
    | none => exact .absent
    | some position =>
      cases position with
      | first => exact .clause (by decide)
      | after name => exact .clause (List.mem_cons_of_mem _ (List.mem_singleton.mpr rfl))
  exact .cons (fits_flagWords _ _ []) (.cons nullability (.cons (fits_flagWords _ _ [])
    (.cons (fits_flagWords _ _ ["KEY"]) (.cons default
      (.cons (fits_flagWords _ _ ["UPDATE", currentMoment]) (.cons remark (.cons place .nil)))))))

/-- All words of a legible column are words. -/
theorem Spells.isWord (spells : column.Spells name type base default comment position)
    (legible : column.IsLegible) :
    ∀ word ∈ quoteName name :: base :: (column.clauseWords type default comment position).flatten,
      IsWord word := by
  obtain ⟨known, typed, measured⟩ := legible.type
  obtain rfl := Option.some.inj (spells.type.symm.trans typed)
  have unmarked : Unmarked name := by
    have named := legible.name
    rw [spells.name] at named
    exact named
  have place : ∀ word ∈ positionWords position, IsWord word := by
    cases position with
    | none => simp [positionWords]
    | some position =>
      refine Position.isWord_words fun name after => legible.position name ?_
      rw [spells.position, after]
      rfl
  have each : ∀ clause ∈ column.clauseWords type default comment position,
      ∀ word ∈ clause, IsWord word := by
    simp only [clauseWords, List.forall_mem_cons]
    exact ⟨isWord_flagWords _ (by decide), isWord_nullabilityWords _,
      isWord_flagWords _ (by decide), isWord_flagWords _ (by decide),
      DefaultClause.isWord_words legible.default spells.default, isWord_flagWords _ (by decide),
      isWord_commentWords _, place, by simp⟩
  refine List.forall_mem_cons.mpr ⟨isWord_quoteName unmarked,
    List.forall_mem_cons.mpr
      ⟨ColumnType.isWord_baseSql measured spells.base, fun word member => ?_⟩⟩
  obtain ⟨clause, among, inside⟩ := List.mem_flatten.mp member
  exact each clause among word inside

/-! ### What the words tell -/

/-- A column that is documented and can be written out has its parts by name, if it has a type. -/
theorem IsDocumented.spells (documented : column.IsDocumented) (known : column.type = some type)
    (written : column.isWritten) :
    ∃ name base default comment position,
      column.Spells name type base default comment position := by
  obtain ⟨name, named⟩ := documented.name
  obtain ⟨comment, remark⟩ := documented.comment
  obtain ⟨position, place⟩ := documented.position
  obtain ⟨typed, defaulted⟩ := Bool.and_eq_true_iff.mp written
  rw [typeIsWritten, documented.definition, known] at typed
  obtain ⟨text, declared⟩ := type.givenIf_sql.ok.mpr typed
  rw [type.sql_eq_words] at declared
  obtain ⟨base, declared, -⟩ := map_eq_ok.mp declared
  obtain ⟨default, given⟩ := column.defaultClause.givenIf_words.ok.mpr defaulted
  exact ⟨name, base, default, comment, position, named, declared, given, known, remark, place⟩

variable {other : Column} {name' : String} {type' : ColumnType} {base' : String}
  {default' : List String} {comment' : Option String} {position' : Option Position}

theorem nullability_of_words (documented : column.IsDocumented) (documented' : other.IsDocumented)
    (same : nullabilityWords column.nullability = nullabilityWords other.nullability) :
    column.nullability = other.nullability := by
  obtain null | ⟨allowed, given⟩ := documented.nullability
  · obtain null' | ⟨allowed', given'⟩ := documented'.nullability
    · rw [null, null']
    · rw [null, given'] at same
      cases allowed' <;> cases same
  · obtain null' | ⟨allowed', given'⟩ := documented'.nullability
    · rw [given, null'] at same
      cases allowed <;> cases same
    · rw [given, given'] at same ⊢
      cases allowed <;> cases allowed' <;> simp [nullabilityWords, Value.isTruthy] at same ⊢

theorem comment_of_words (same : commentWords comment = commentWords comment') :
    comment = comment' := by
  cases comment with
  | none =>
    cases comment' with
    | none => rfl
    | some comment' => cases same
  | some comment =>
    cases comment' with
    | none => cases same
    | some comment' => rw [quoteLiteral_inj (List.cons.inj (List.cons.inj same).2).1]

theorem position_of_words (same : positionWords position = positionWords position') :
    position.map (fun position => " ".intercalate position.words) =
      position'.map fun position => " ".intercalate position.words := by
  cases position with
  | none =>
    cases position' with
    | none => rfl
    | some position' => cases position' <;> cases same
  | some position =>
    cases position' with
    | none => cases position <;> cases same
    | some position' =>
      have words : position.words = position'.words := same
      rw [Option.map_some, Option.map_some, words]

/-- Columns with the same words tell the same. -/
theorem Spells.told_of_words (spells : column.Spells name type base default comment position)
    (spells' : other.Spells name' type' base' default' comment' position')
    (documented : column.IsDocumented) (documented' : other.IsDocumented)
    (legible : column.IsLegible) (legible' : other.IsLegible)
    (named : quoteName name = quoteName name') (typed : base = base')
    (clauses : column.clauseWords type default comment position =
      other.clauseWords type' default' comment' position') : column.told = other.told := by
  simp only [clauseWords, List.cons.injEq, and_true] at clauses
  obtain ⟨sign, nullability, increment, key, default, refreshed, remark, place⟩ := clauses
  have sql : type.sql = type'.sql := by
    rw [type.sql_eq_words, type'.sql_eq_words, spells.base, spells'.base, typed, sign]
  have text : column.defaultClause.text? = other.defaultClause.text? := by
    refine Option.ext fun text => ?_
    rw [DefaultClause.text?_eq_some_iff legible.default,
      DefaultClause.text?_eq_some_iff legible'.default, spells.default, spells'.default, default]
  simp only [told, Told.mk.injEq]
  refine ⟨?_, ?_, nullability_of_words documented documented' nullability, flagWords_inj increment,
    flagWords_inj key, ?_, text, flagWords_inj refreshed, ?_, ?_⟩
  · rw [spells.name, spells'.name, quoteName_inj named]
  · rw [spells.type, spells'.type, Option.map_some, Option.map_some, sql]
  · rw [defaultClauses_eq, defaultClauses_eq, spells.default, spells'.default, default]
  · rw [spells.comment, spells'.comment, comment_of_words remark]
  · rw [spells.position, spells'.position, position_of_words place]

/-- Columns that tell the same have the same fragment. -/
theorem sql_of_told (definition : column.definition = .null)
    (definition' : other.definition = .null) (same : column.told = other.told) :
    column.sql = other.sql := by
  obtain ⟨name, type, nullability, increment, key, default, -, refreshed, comment, position⟩ :=
    Told.mk.inj same
  have typed : column.typeClause = other.typeClause := by
    have clause (described : Column) (plain : described.definition = .null) :
        described.typeClause =
          ((described.type.map ColumnType.sql).map (·.map ([·]))).getD (.ok []) := by
      rw [typeClause, plain]
      cases described.type <;> rfl
    rw [clause column definition, clause other definition', type]
  have remark : column.commentClause = other.commentClause := by
    simp only [commentClause, comment]
  have defined : column.definitionClause = other.definitionClause := by
    rw [definitionClause, definitionClause, definition, definition']
  simp only [Column.sql, clauses, typed, defined, remark, nullabilityClause, keyClauses,
    refreshClause, name, nullability, increment, key, default, refreshed, position]

/-- A documented column has a fragment if its numbers can be written out. -/
theorem IsDocumented.givenIf_sql (documented : column.IsDocumented) :
    GivenIf column.isWritten column.sql := by
  have name : column.name.IsNote := by
    obtain ⟨name, named⟩ := documented.name
    exact named ▸ trivial
  have comment : column.comment.IsNote := by
    obtain ⟨comment, remark⟩ := documented.comment
    rw [remark]
    cases comment <;> trivial
  exact givenIf_sql_of_notes name (documented.definition ▸ trivial) comment

/-- Legible columns, of which one can be written out, have the same fragment exactly if they tell
the same. -/
theorem sql_eq_iff_told (documented : column.IsDocumented) (legible : column.IsLegible)
    (documented' : other.IsDocumented) (legible' : other.IsLegible) (written : column.isWritten) :
    column.sql = other.sql ↔ column.told = other.told := by
  refine ⟨fun same => ?_, sql_of_told documented.definition documented'.definition⟩
  obtain ⟨type, known, -⟩ := legible.type
  obtain ⟨type', known', -⟩ := legible'.type
  obtain ⟨name, base, default, comment, position, spells⟩ := documented.spells known written
  have fragment := spells.sql documented.definition
  have written' : other.isWritten := documented'.givenIf_sql.ok.mp ⟨_, same.symm.trans fragment⟩
  obtain ⟨name', base', default', comment', position', spells'⟩ :=
    documented'.spells known' written'
  rw [fragment, spells'.sql documented'.definition, Except.ok.injEq] at same
  have words := words_of_intercalate (spells.isWord legible) (spells'.isWord legible') same
  obtain ⟨named, behind⟩ := List.cons.inj words
  obtain ⟨typed, flat⟩ := List.cons.inj behind
  exact spells.told_of_words spells' documented documented' legible legible' named typed
    (clauses_of_flatten clauseForms_apart spells.clauseWords_fit spells'.clauseWords_fit flat)

end Column

/-! ## Columns of a blueprint -/

namespace Blueprint

/-- The column with its type as it reads in the blueprint. -/
def viewedColumn (blueprint : Blueprint) (column : Column) : Column :=
  { column with type := column.type.map blueprint.viewedType }

/-- What a column tells in the blueprint. -/
def told (blueprint : Blueprint) (column : Column) : Column.Told :=
  (blueprint.viewedColumn column).told

variable {blueprint : Blueprint} {column : Column}

theorem viewedColumn_isLegible (blueprint : Blueprint) (legible : column.IsLegible) :
    (blueprint.viewedColumn column).IsLegible := by
  obtain ⟨type, known, measured⟩ := legible.type
  refine ⟨legible.name, ⟨blueprint.viewedType type, ?_, ?_⟩, legible.default, legible.position⟩
  · rw [viewedColumn, known]
    rfl
  · rw [viewedType, ColumnType.isMeasured_mapSign, measured]

theorem viewedColumn_isDocumented (blueprint : Blueprint) (documented : column.IsDocumented) :
    (blueprint.viewedColumn column).IsDocumented :=
  ⟨documented.name, documented.definition, documented.nullability, documented.comment,
    documented.position⟩

/-- The words of a legible column do not depend on the blueprint, its type apart. -/
theorem columnSql_legible (documented : column.IsDocumented) (legible : column.IsLegible) :
    blueprint.columnSql column = (blueprint.viewedColumn column).sql := by
  obtain ⟨name, named⟩ := documented.name
  have text : blueprint.words (.text name) = .ok (.text name) :=
    blueprint.words_eq_self fun _ => rfl
  have default : column.defaultClause.inWords blueprint.words = .ok column.defaultClause := by
    have plain := legible.default
    cases given : column.defaultClause with
    | none => rfl
    | value value =>
      rw [given] at plain
      have worded : blueprint.words value = .ok value := by
        refine blueprint.words_eq_self fun _ => ?_
        cases value with
        | null | bool _ | int _ | text _ => rfl
        | _ => cases plain
      rw [DefaultClause.inWords, worded]
      rfl
    | expression expression =>
      rw [given] at plain
      obtain rfl : expression = .text currentMoment := of_decide_eq_true plain
      have worded : blueprint.words (.text currentMoment) = .ok (.text currentMoment) :=
        blueprint.words_eq_self fun _ => rfl
      rw [DefaultClause.inWords, worded]
      rfl
  have viewed : blueprint.viewed column.nullability = column.nullability := by
    obtain null | ⟨allowed, given⟩ := documented.nullability
    · rw [null]
      rfl
    · rw [given]
      rfl
  have worded : (blueprint.viewedColumn column).inWords blueprint.words =
      .ok (blueprint.viewedColumn column) := by
    change (blueprint.words column.name).bind _ = _
    rw [named, text]
    change (column.defaultClause.inWords blueprint.words).bind _ = _
    rw [default, ← named]
    rfl
  have same : { column with
      type := column.type.map blueprint.viewedType
      nullability := blueprint.viewed column.nullability : Column } =
      blueprint.viewedColumn column := by
    rw [viewed]
    rfl
  rw [columnSql, columnSqlBy, same, worded]
  rfl

/-- The fragment that a legible column shows is that of the column as it reads in the blueprint. -/
theorem sqlAt_legible {index : Nat} (found : blueprint.column? (.attached index) = some column)
    (documented : column.IsDocumented) (legible : column.IsLegible) :
    blueprint.sqlAt index = (blueprint.viewedColumn column).sql.map .text := by
  simp only [sqlAt, perform, callColumn, found, asked]
  rw [columnSql_legible documented legible]

theorem isWritten_viewedColumn (blueprint : Blueprint) (column : Column) :
    (blueprint.viewedColumn column).isWritten = column.isWritten :=
  column.isWritten_mapSign blueprint.viewed column.nullability

/-- A legible column shows a fragment exactly if its numbers can be written out. -/
theorem exists_sqlAt_legible {index : Nat}
    (found : blueprint.column? (.attached index) = some column)
    (documented : column.IsDocumented) (legible : column.IsLegible) :
    (∃ text, blueprint.sqlAt index = .ok (.text text)) ↔ column.isWritten := by
  rw [sqlAt_legible found documented legible, ← isWritten_viewedColumn blueprint column,
    ← (viewedColumn_isDocumented blueprint documented).givenIf_sql.ok]
  simp

/-- The fragment of a column determines the column. For every two legible columns, in any blueprints
and at any positions, that come about by documented calls, whatever else happens there: a column has
a fragment exactly if its numbers can be written out, and the fragments are then the same exactly if
the columns tell the same. A default that is a text is part of what a column tells, so it is never
taken for another default or for a clause behind it. -/
theorem legible_sqlAt_eq_iff {other : Blueprint} {index index' : Nat} {column' : Column}
    (makes : Makes index blueprint) (found : blueprint.column? (.attached index) = some column)
    (legible : column.IsLegible) (makes' : Makes index' other)
    (found' : other.column? (.attached index') = some column') (legible' : column'.IsLegible) :
    ((∃ text, blueprint.sqlAt index = .ok (.text text)) ↔ column.isWritten) ∧
      ((∃ text, other.sqlAt index' = .ok (.text text)) ↔ column'.isWritten) ∧
      (column.isWritten →
        (blueprint.sqlAt index = other.sqlAt index' ↔
          blueprint.told column = other.told column')) := by
  have documented := makes.documentedAt.2 column found
  have documented' := makes'.documentedAt.2 column' found'
  refine ⟨exists_sqlAt_legible found documented legible,
    exists_sqlAt_legible found' documented' legible', fun written => ?_⟩
  have determines := Column.sql_eq_iff_told (viewedColumn_isDocumented blueprint documented)
    (viewedColumn_isLegible blueprint legible) (viewedColumn_isDocumented other documented')
    (viewedColumn_isLegible other legible')
    ((isWritten_viewedColumn blueprint column).trans written)
  rw [sqlAt_legible found documented legible, sqlAt_legible found' documented' legible', told, told,
    ← determines]
  cases (blueprint.viewedColumn column).sql <;> cases (other.viewedColumn column').sql <;>
    simp [Except.map]

/-- A definition of a title with a default. -/
def titleColumn (default : String) : TableCall :=
  .define (.string (.int 80)) (.text "title") (.text default)

/-- A change of a title that is announced, gets a comment, and is then defined. -/
def commentedTitle : List Move :=
  [.call (.table (.comment (.text "b"))), .call (.table (titleColumn "a"))]

/-- A default that looks like a comment is told from a comment. -/
theorem titles_told_apart :
    let disguised := ((empty "" "posts").callTable (titleColumn "a' COMMENT 'b")).blueprint
    let announced := ((empty "" "posts").callTable (.modifyColumn (.text "title"))).blueprint
    let commented := announced.movedAll commentedTitle
    disguised.sqlAt 0 =
        .ok (.text "`title` VARCHAR(80) NOT NULL DEFAULT 'a'' COMMENT ''b'") ∧
      commented.sqlAt 0 =
        .ok (.text "`title` VARCHAR(80) NOT NULL DEFAULT 'a' COMMENT 'b'") ∧
      disguised.sqlAt 0 ≠ commented.sqlAt 0 := by
  intro disguised announced commented
  let title : Column := .typed (.text "title") (.string (.int 80))
  have makes : Makes 0 disguised := .begun rfl (Nat.le_refl 0) (by decide +kernel)
  have found : disguised.column? (.attached 0) =
      some { title with defaultClause := .value (.text "a' COMMENT 'b") } := by decide +kernel
  have legible : Column.IsLegible
      { title with defaultClause := .value (.text "a' COMMENT 'b") } :=
    ⟨by decide, ⟨_, rfl, rfl⟩, rfl, fun name given => by cases given⟩
  have begun : Makes 0 announced := .begun rfl (Nat.le_refl 0) (by decide +kernel)
  have makes' : Makes 0 commented := begun.movedAll (by decide +kernel)
  have found' : commented.column? (.attached 0) =
      some { title with
        kind := .modify
        defaultClause := .value (.text "a")
        comment := .text "b" } := by decide +kernel
  have legible' : Column.IsLegible
      { title with kind := .modify, defaultClause := .value (.text "a"), comment := .text "b" } :=
    ⟨by decide, ⟨_, rfl, rfl⟩, rfl, fun name given => by cases given⟩
  obtain ⟨-, -, determines⟩ := legible_sqlAt_eq_iff makes found legible makes' found' legible'
  exact ⟨by decide +kernel, by decide +kernel, (determines rfl).not.mpr (by decide +kernel)⟩

end Blueprint

end Tablewright
