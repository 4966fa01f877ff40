/-
# TableModel.Proofs.Schema.PrimaryKey — a table's statement has one primary key

A table gets its primary key in one of two places: the column that counts up carries it, or it is a
constraint of its own. Which of them, is up to the schema, and that it is never both and never neither
rests on what validation guarantees: what counts up is a column, no two columns have one name, and the
key is that column alone. The words are counted in the text itself, so names and literals must not
contain them; what cannot happen then is that they come about where two pieces meet.
-/
import TableModel.Proofs.Schema.Unambiguous
import TableModel.Proofs.Text.Occurrences

namespace TableModel

open Text

/-- The words that make a primary key. -/
def keyWords : List Char := "PRIMARY KEY".toList

/-! ## The words in the pieces of a statement -/

namespace ColumnClause

/-- The words stand in the name, in the flag for counting up, and in the literal. -/
theorem occurrences_text (clause : ColumnClause) :
    occurrences keyWords clause.text.toList
      = occurrences keyWords clause.name.toList + ((if clause.autoIncrement then 1 else 0)
        + (clause.default.map fun literal => occurrences keyWords literal.toList).getD 0) := by
  obtain ⟨name, type, autoIncrement, notNull, unique, default⟩ := clause
  have lower : ∀ rest, Stops keyWords.contains (type.word.toList ++ rest) := by
    intro rest
    cases type <;> exact stops_cons.mpr (by decide)
  have closed : Sealed keyWords type.word.toList ∧ occurrences keyWords type.word.toList = 0 := by
    cases type <;> decide
  have blank : occurrences keyWords (name.toList ++ " ".toList) = occurrences keyWords name.toList :=
    occurrences_append (not_straddles_of_last (by decide))
  have literal : occurrences keyWords (SelfDelimiting.writeOption " DEFAULT ".toList String.toList default)
      = (default.map fun literal => occurrences keyWords literal.toList).getD 0 := by
    cases default with
    | none => rfl
    | some literal =>
      have keyword : occurrences keyWords " DEFAULT ".toList = 0 := by decide
      rw [SelfDelimiting.writeOption, occurrences_sealed (by decide), keyword, Nat.zero_add]
      rfl
  have flags : occurrences keyWords " PRIMARY KEY AUTOINCREMENT".toList = 1 ∧
      occurrences keyWords " NOT NULL".toList = 0 ∧ occurrences keyWords " UNIQUE".toList = 0 := by
    decide
  rw [toList_text, ← List.append_assoc, occurrences_stops (lower _), blank,
    occurrences_sealed closed.1, closed.2, writeExtras, occurrences_flag (by decide),
    occurrences_flag (by decide), occurrences_flag (by decide), literal, flags.1, flags.2.1,
    flags.2.2, ite_self, ite_self, Nat.zero_add, Nat.zero_add, Nat.zero_add]

/-- The clause of a column that counts up. -/
theorem text_of_autoIncrement {clause : ColumnClause} (counts : clause.autoIncrement = true) :
    ∃ extras, clause.text
      = clause.name ++ " " ++ clause.type.word ++ " PRIMARY KEY AUTOINCREMENT" ++ extras := by
  unfold text
  rw [if_pos counts, String.append_assoc, String.append_assoc]
  exact ⟨_, rfl⟩

end ColumnClause

/-- A closing parenthesis is no character of the words. -/
theorem stops_parenthesis (rest : List Char) : Stops keyWords.contains (")".toList ++ rest) := by
  have other : keyWords.contains ')' = false := by decide
  exact stops_cons.mpr other

/-- Between commas the words stand in the items only. -/
theorem occurrences_commas {α : Type} (write : α → List Char) (items : List α) :
    occurrences keyWords (SelfDelimiting.writeJoined ", ".toList write items)
      = (items.map fun item => occurrences keyWords (write item)).sum := by
  have comma : ∀ rest, Stops keyWords.contains (", ".toList ++ rest) := by
    intro rest
    have other : keyWords.contains ',' = false := by decide
    exact stops_cons.mpr other
  exact occurrences_writeJoined (by decide) comma (by decide) items

/-- Names without the words do not make them in a list. -/
theorem occurrences_names {names : List String}
    (free : ∀ name ∈ names, occurrences keyWords name.toList = 0) :
    occurrences keyWords ((String.intercalate ", " names).toList ++ ")".toList) = 0 := by
  have joined := occurrences_commas String.toList names
  rw [SelfDelimiting.writeJoined, ← String.toList_intercalate] at joined
  have none : (names.map fun name => occurrences keyWords name.toList).sum = 0 := by
    rw [List.sum_eq_zero_iff_forall_eq_nat, List.forall_mem_map]
    exact free
  have closing : occurrences keyWords ")".toList = 0 := by decide
  have seam := stops_parenthesis []
  rw [List.append_nil] at seam
  rw [occurrences_stops seam, joined, none, closing]

/-- A constraint is the primary key. -/
def TableConstraint.isPrimaryKey : TableConstraint → Bool
  | primaryKey _ => true
  | unique _ => false

/-- A constraint of names without the words has them when it is the primary key. -/
theorem TableConstraint.occurrences_text {constraint : TableConstraint}
    (free : ∀ name ∈ constraint.columns, occurrences keyWords name.toList = 0) :
    occurrences keyWords constraint.text.toList = if constraint.isPrimaryKey then 1 else 0 := by
  have keyword : occurrences keyWords "PRIMARY KEY (".toList = 1 ∧
      occurrences keyWords "UNIQUE (".toList = 0 := by decide
  have names := occurrences_names free
  cases constraint with
  | primaryKey columns =>
    rw [TableConstraint.columns] at names
    rw [text, String.toList_append, String.toList_append, List.append_assoc,
      occurrences_sealed (by decide), keyword.1, names]
    rfl
  | unique columns =>
    rw [TableConstraint.columns] at names
    rw [text, String.toList_append, String.toList_append, List.append_assoc,
      occurrences_sealed (by decide), keyword.2, names]
    rfl

/-- In a statement whose table's name does not have the words they stand in its parts only. -/
theorem CreateTable.occurrences_text {statement : CreateTable}
    (free : occurrences keyWords statement.table.toList = 0) :
    occurrences keyWords statement.text.toList
      = (statement.columns.map fun clause => occurrences keyWords clause.text.toList).sum
        + (statement.constraints.map fun constraint =>
          occurrences keyWords constraint.text.toList).sum := by
  have quoted : ∀ rest, Stops keyWords.contains ("` (".toList ++ rest) := by
    intro rest
    have other : keyWords.contains '`' = false := by decide
    exact stops_cons.mpr other
  have fixed : occurrences keyWords "CREATE TABLE `".toList = 0 ∧
      occurrences keyWords "` (".toList = 0 ∧ occurrences keyWords ")".toList = 0 ∧
      occurrences keyWords " WITHOUT ROWID".toList = 0 ∧ occurrences keyWords ";".toList = 0 := by
    decide
  rw [toList_text, toList_joinedParts, occurrences_sealed (by decide), occurrences_stops (quoted _), free,
    occurrences_sealed (by decide), occurrences_stops (stops_parenthesis _), occurrences_commas,
    occurrences_sealed (by decide), occurrences_flag (by decide), fixed.1, fixed.2.1, fixed.2.2.1,
    fixed.2.2.2.1, fixed.2.2.2.2, ite_self, allParts, List.map_append, List.sum_append, List.map_map,
    List.map_map]
  simp only [Nat.zero_add, Nat.add_zero]
  rfl

/-! ## The words in the statement of a schema -/

/-- A sum of ones counts. -/
theorem sum_map_eq_countP {α : Type} {items : List α} {number : α → Nat} {counted : α → Bool}
    (each : ∀ item ∈ items, number item = if counted item then 1 else 0) :
    (items.map number).sum = items.countP counted := by
  induction items with
  | nil => rfl
  | cons item items ih =>
    rw [List.forall_mem_cons] at each
    rw [List.map_cons, List.sum_cons, List.countP_cons, each.1, ih each.2, Nat.add_comm]

namespace Schema

/-- The words are in none of the names and literals that a schema writes into its statement. -/
structure KeyFree (schema : Schema) : Prop where
  table : ¬ keyWords <:+: schema.tableName.shown.toList
  columns : ∀ name ∈ schema.columnNames, ¬ keyWords <:+: name.shown.toList
  defaults : ∀ entry ∈ schema.columns, ∀ value, entry.2.defaultValue = some value →
    ¬ keyWords <:+: value.sqlLiteral.toList

theorem occurrences_of_free {text : List Char} (free : ¬ keyWords <:+: text) :
    occurrences keyWords text = 0 :=
  (occurrences_eq_zero (by decide)).mpr free

/-- A name that is shown without the words does not have them. -/
theorem occurrences_content {name : Label} (free : ¬ keyWords <:+: name.shown.toList) :
    occurrences keyWords name.content.toList = 0 := by
  cases name with
  | plain text => exact occurrences_of_free free
  | columnType type => exact occurrences_of_free free
  | statementKind kind => cases kind <;> decide

/-- Keys and groups do not have the words, since they name columns. -/
theorem KeyFree.occurrences_contents {schema : Schema} (free : schema.KeyFree) {names : List Label}
    (listed : ∀ name ∈ names, name.IsAmong schema.columnNames) :
    ∀ content ∈ names.map Label.content, occurrences keyWords content.toList = 0 := by
  rw [List.forall_mem_map]
  intro name member
  obtain ⟨column, declared, same⟩ := listed name member
  rw [← same]
  exact occurrences_content (free.columns column declared)

/-- The words stand where a column counts up, and in the constraint of the primary key. -/
theorem occurrences_createTableText {schema : Schema} (consistent : schema.Consistent)
    (free : schema.KeyFree) :
    occurrences keyWords schema.createTableText.toList
      = schema.columns.countP (fun entry => schema.autoIncrement.any entry.1.same)
        + if schema.autoIncrement.isNone then 1 else 0 := by
  have columns : (schema.createTable.columns.map fun clause =>
      occurrences keyWords clause.text.toList).sum
      = schema.columns.countP fun entry => schema.autoIncrement.any entry.1.same := by
    rw [createTable, List.map_map]
    refine sum_map_eq_countP fun entry member => ?_
    have name := occurrences_of_free (free.columns entry.1 (List.mem_map_of_mem member))
    rw [Function.comp_apply, ColumnClause.occurrences_text, columnClause, name, Nat.zero_add]
    cases default : entry.2.defaultValue with
    | none => rfl
    | some value =>
      have literal := occurrences_of_free (free.defaults entry member value default)
      simp [literal]
  have constraints : (schema.createTable.constraints.map fun constraint =>
      occurrences keyWords constraint.text.toList).sum
      = schema.constraints.countP TableConstraint.isPrimaryKey := by
    refine sum_map_eq_countP fun constraint member => TableConstraint.occurrences_text ?_
    rcases List.mem_append.mp member with member | member
    · split at member
      · obtain rfl := List.mem_singleton.mp member
        exact free.occurrences_contents consistent.primaryKeys.2
      · cases member
    · obtain ⟨group, given, rfl⟩ := List.mem_map.mp member
      exact free.occurrences_contents (consistent.uniqueKeys group given).2
  have keys : schema.constraints.countP TableConstraint.isPrimaryKey
      = if schema.autoIncrement.isNone then 1 else 0 := by
    have groups : (schema.uniqueKeys.map fun group =>
        TableConstraint.unique (group.map Label.content)).countP TableConstraint.isPrimaryKey = 0 := by
      rw [List.countP_eq_zero, List.forall_mem_map]
      intro group _ h
      cases h
    rw [Schema.constraints, List.countP_append, groups]
    cases schema.autoIncrement <;> rfl
  have table : occurrences keyWords schema.createTable.table.toList = 0 :=
    occurrences_of_free free.table
  rw [createTableText, CreateTable.occurrences_text table, columns, constraints, keys]

/-! ## One primary key -/

/-- What counts up is one of the columns, the only one of its name, and an integer. -/
theorem exists_counting {options columns : Value} {schema : Schema} {name : Label}
    (accepted : ofDefinition options columns = .ok schema)
    (counts : schema.autoIncrement = some name) :
    ∃ before entry after, schema.columns = before ++ entry :: after ∧
      entry.1.content = name.content ∧ entry.2.type = .integer ∧
      ∀ other ∈ before ++ after, other.1.content ≠ name.content := by
  obtain ⟨given, declared, parts, rules⟩ := ofDefinition_eq_ok.mp accepted
  have effective := Value.label?_eq_some.mp (parts.autoIncrement.trans counts)
  rcases rules.autoIncrement.counts with absent | ⟨other, hother, -, -, column, found, integer⟩
  · rw [effective] at absent
    cases absent
  · obtain rfl := Value.label.inj (effective.symm.trans hother)
    obtain ⟨entry, hentry, rfl⟩ := Option.map_eq_some_iff.mp found
    obtain ⟨same, before, after, split, earlier⟩ := List.find?_eq_some_iff_append.mp hentry
    rw [Label.same_iff] at same
    refine ⟨before, entry, after, split, same, integer, ?_⟩
    -- the first column of the name is the only one, as names are different
    have distinct := distinct_collect declared
    rw [parts.columns, split] at distinct
    have later := (List.pairwise_cons.mp (List.pairwise_append.mp distinct).2.1).1
    rw [List.forall_mem_append]
    constructor
    · intro other member equal
      have different := earlier other member
      rw [Label.same_iff.mpr equal] at different
      cases different
    · intro other member
      rw [← same]
      exact (later other member).symm

/-- Either one column counts up, or the key has a constraint of its own. -/
theorem one_place_for_key {options columns : Value} {schema : Schema}
    (accepted : ofDefinition options columns = .ok schema) :
    (schema.columns.countP fun entry => schema.autoIncrement.any entry.1.same)
      + (if schema.autoIncrement.isNone then 1 else 0) = 1 := by
  cases counts : schema.autoIncrement with
  | none => simp
  | some name =>
    obtain ⟨before, entry, after, split, same, -, others⟩ := exists_counting accepted counts
    rw [List.forall_mem_append] at others
    have none : ∀ {entries : List (Label × Column)},
        (∀ other ∈ entries, other.1.content ≠ name.content) →
        entries.countP (fun entry => (some name).any entry.1.same) = 0 := by
      intro entries different
      rw [List.countP_eq_zero]
      intro other member
      simpa using different other member
    have found : (some name).any entry.1.same = true := by simpa using same
    rw [split, List.countP_append, List.countP_cons, none others.1, none others.2, if_pos found]
    rfl

/-- The definition of a column in the statement. -/
def columnText (schema : Schema) (entry : Label × Column) : String :=
  (columnClause schema.autoIncrement entry).text

/-- The constraints of the unique groups in the statement. -/
def groupTexts (schema : Schema) : List String :=
  schema.uniqueKeys.map fun group =>
    "UNIQUE (" ++ String.intercalate ", " (group.map Label.content) ++ ")"

/-- A statement that creates the table with the given definitions and constraints. -/
def textOf (schema : Schema) (parts : List String) (ending : String) : String :=
  "CREATE TABLE `" ++ schema.tableName.shown ++ "` (" ++ String.intercalate ", " parts ++ ")" ++ ending

/-- The statement of a schema has one primary key. -/
structure HasOneKey (schema : Schema) : Prop where
  once : occurrences "PRIMARY KEY".toList schema.createTableText.toList = 1
  /-- What counts up is a column that is the only primary key and says so behind its type. -/
  counting : ∀ name, schema.autoIncrement = some name → ∃ before entry after extras,
    schema.columns = before ++ entry :: after ∧ entry.1.content = name.content ∧
      (∃ key, schema.primaryKeys = [key] ∧ key.content = name.content) ∧
      schema.columnText entry = entry.1.shown ++ " integer" ++ " PRIMARY KEY AUTOINCREMENT" ++ extras ∧
      schema.createTableText = schema.textOf
        (before.map schema.columnText ++ schema.columnText entry :: after.map schema.columnText
          ++ schema.groupTexts) ";" ∧
      ¬ " WITHOUT ROWID;".toList <:+ schema.createTableText.toList
  /-- Otherwise the primary key is a constraint and stands behind the last column. -/
  listed : schema.autoIncrement = none → schema.createTableText = schema.textOf
    (schema.columns.map schema.columnText
      ++ ("PRIMARY KEY (" ++ String.intercalate ", " (schema.primaryKeys.map Label.content) ++ ")")
        :: schema.groupTexts)
    (if isFalse schema.withoutRowid then ";" else " WITHOUT ROWID;")

/-- The parts of the statement are the columns, the key unless a column carries it, and the groups. -/
theorem parts_createTable (schema : Schema) :
    schema.createTable.parts = schema.columns.map schema.columnText
      ++ ((if schema.autoIncrement.isNone then ["PRIMARY KEY ("
          ++ String.intercalate ", " (schema.primaryKeys.map Label.content) ++ ")"] else [])
        ++ schema.groupTexts) := by
  have columns : schema.createTable.columns.map ColumnClause.text
      = schema.columns.map schema.columnText := by
    rw [createTable, List.map_map]
    exact List.map_congr_left fun _ _ => rfl
  have constraints : schema.createTable.constraints.map TableConstraint.text
      = (if schema.autoIncrement.isNone then ["PRIMARY KEY ("
          ++ String.intercalate ", " (schema.primaryKeys.map Label.content) ++ ")"] else [])
        ++ schema.groupTexts := by
    rw [createTable, Schema.constraints, List.map_append, List.map_map]
    cases schema.autoIncrement <;> rfl
  rw [CreateTable.parts, columns, constraints]

theorem createTableText_eq_textOf (schema : Schema) :
    schema.createTableText = schema.textOf schema.createTable.parts
      (if schema.autoIncrement.isNone && !isFalse schema.withoutRowid then " WITHOUT ROWID;"
        else ";") := by
  have ending : (if schema.createTable.withoutRowid then " WITHOUT ROWID" else "") ++ ";"
      = if schema.autoIncrement.isNone && !isFalse schema.withoutRowid then " WITHOUT ROWID;"
        else ";" := by
    rw [createTable]
    cases schema.autoIncrement.isNone && !isFalse schema.withoutRowid <;> rfl
  unfold createTableText CreateTable.text textOf
  rw [String.append_assoc, ending]
  rfl

/-- A statement with a single parenthesis before its end does not leave row numbers out. -/
theorem not_withoutRowid_textOf (schema : Schema) (parts : List String) :
    ¬ " WITHOUT ROWID;".toList <:+ (schema.textOf parts ";").toList := by
  rintro ⟨front, h⟩
  have ending : " WITHOUT ROWID;".toList = " WITHOUT ROWI".toList ++ "D;".toList := by decide
  have length : "D;".toList.length = (")".toList ++ ";".toList).length := by decide
  have different : "D;".toList ≠ ")".toList ++ ";".toList := by decide
  unfold textOf at h
  rw [String.toList_append, String.toList_append, List.append_assoc, ending,
    ← List.append_assoc] at h
  exact different (List.append_inj' h length).2

/-- An accepted schema has one primary key in its statement. -/
theorem one_primary_key {options columns : Value} {schema : Schema}
    (accepted : ofDefinition options columns = .ok schema) (free : schema.KeyFree) :
    schema.HasOneKey where
  once := by
    have counted := occurrences_createTableText (consistent_of_ofDefinition accepted) free
    rw [one_place_for_key accepted] at counted
    exact counted
  counting := by
    intro name counts
    obtain ⟨before, entry, after, split, same, integer, -⟩ := exists_counting accepted counts
    have sole := (consistent_of_ofDefinition accepted).autoIncrement name counts
    have flag : (columnClause schema.autoIncrement entry).autoIncrement = true := by
      rw [columnClause, counts]
      simpa using same
    obtain ⟨extras, definition⟩ := ColumnClause.text_of_autoIncrement flag
    have text := schema.createTableText_eq_textOf
    rw [parts_createTable, counts, split, List.map_append, List.map_cons] at text
    refine ⟨before, entry, after, extras, split, same, sole, ?_, ?_, ?_⟩
    · have word : " integer" = " " ++ entry.2.type.word := by rw [integer]; rfl
      rw [columnText, definition, word, ← String.append_assoc]
      rfl
    · simpa using text
    · rw [text]
      exact schema.not_withoutRowid_textOf _
  listed := by
    intro none
    rw [createTableText_eq_textOf, parts_createTable, none]
    cases isFalse schema.withoutRowid <;> rfl

/-- A table whose names and literals almost have the words where they meet, with the key in the column
that counts up or in a constraint. -/
def keyTable (counts : Bool) : Schema where
  tableName := .plain "KEY"
  columns := [(.plain "PRIMARY", ⟨.integer, false, false, false, false, none⟩),
    (.plain "KEY", ⟨.text, false, false, false, false, some (.text "PRIMARY ")⟩)]
  primaryKeys := [.plain "PRIMARY"]
  autoIncrement := if counts then some (.plain "PRIMARY") else none
  uniqueKeys := [[.plain "PRIMARY", .plain "KEY"]]
  withoutRowid := .null

/-- The options of the table. -/
def keyOptions (counts : Bool) : Value :=
  .map [(.text "table_name", .text "KEY"), (.text "primary_keys", .text "PRIMARY"),
    (.text "auto_increment", if counts then .text "PRIMARY" else .null),
    (.text "unique_keys", .list [.list [.text "PRIMARY", .text "KEY"]])]

/-- The columns of the table. -/
def keyColumns : Value :=
  .map [(.text "PRIMARY", .map [(.text "type", .text "int")]),
    (.text "KEY", .map [(.text "type", .text "text"), (.text "default_value", .text "PRIMARY ")])]

theorem keyTable_has_one_primary_key :
    (ofDefinition (keyOptions true) keyColumns = .ok (keyTable true) ∧ (keyTable true).KeyFree ∧
      (keyTable true).HasOneKey) ∧
    ofDefinition (keyOptions false) keyColumns = .ok (keyTable false) ∧ (keyTable false).KeyFree ∧
      (keyTable false).HasOneKey := by
  have free : ∀ counts, (keyTable counts).KeyFree := by
    intro counts
    have literals : ∀ entry ∈ (keyTable counts).columns, ∀ value ∈ entry.2.defaultValue,
        ¬ keyWords <:+: value.sqlLiteral.toList := by
      cases counts <;> decide
    cases counts with
    | true => exact ⟨by decide, by decide, literals⟩
    | false => exact ⟨by decide, by decide, literals⟩
  have counting : ofDefinition (keyOptions true) keyColumns = .ok (keyTable true) := rfl
  have listed : ofDefinition (keyOptions false) keyColumns = .ok (keyTable false) := rfl
  exact ⟨⟨counting, free true, one_primary_key counting (free true)⟩,
    listed, free false, one_primary_key listed (free false)⟩

end Schema

end TableModel
