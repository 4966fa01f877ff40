/-
# TableModel.Proofs.Schema.Unambiguous — a table's statement determines the table

Two schemas that validation has accepted and that have the same statement describe the same table:
the same name, the same columns with their types, flags and default literals, the same column that
counts up, the same primary key and the same unique groups. Names have to be identifiers, since they
are written without quotation marks; default values may be anything.

The statement says some of this indirectly. The column that counts up is the one that carries the
primary key, and a table has no constraint for its primary key exactly when there is such a column.
That nothing is lost by this rests on what validation guarantees: a column that counts up is the only
primary key, and every name in a key or group is the name of a column.
-/
import TableModel.Proofs.Schema.Layout
import TableModel.Proofs.Schema.WellFormed
import TableModel.Proofs.Value.PlainName

namespace TableModel

open Text

namespace Schema

/-! ## What validation guarantees -/

/-- The parts of a schema agree: keys and groups are lists of columns and not empty, and what counts
up is the only key. -/
structure Consistent (schema : Schema) : Prop where
  columns : schema.columns ≠ []
  primaryKeys : schema.primaryKeys ≠ [] ∧ ∀ key ∈ schema.primaryKeys, key.IsAmong schema.columnNames
  autoIncrement : ∀ name, schema.autoIncrement = some name →
    ∃ key, schema.primaryKeys = [key] ∧ key.content = name.content
  uniqueKeys : ∀ group ∈ schema.uniqueKeys,
    group ≠ [] ∧ ∀ name ∈ group, name.IsAmong schema.columnNames

theorem GivesGroups.consistent {columns : List (Label × Column)} {value : Value}
    {groups : List (List Label)} (h : GivesGroups columns value groups) :
    ∀ group ∈ groups, group ≠ [] ∧ ∀ name ∈ group, name.IsAmong (columns.map Prod.fst) := by
  cases h with
  | absent => simp
  | sequence shape each =>
    clear shape
    induction each with
    | nil => simp
    | cons first _ ih => exact List.forall_mem_cons.mpr ⟨first.2, ih⟩

/-- Every schema that validation yields is consistent. -/
theorem consistent_of_ofDefinition {options columns : Value} {schema : Schema}
    (accepted : ofDefinition options columns = .ok schema) : schema.Consistent := by
  obtain ⟨given, declared, parts, rules⟩ := ofDefinition_eq_ok.mp accepted
  have keys := parts.primaryKeys.ne_nil
  refine ⟨?_, ⟨keys, rules.keys.exist⟩, ?_, parts.uniqueKeys.consistent⟩
  · -- some key is a column
    intro empty
    obtain ⟨key, hkey⟩ := List.exists_mem_of_ne_nil _ keys
    obtain ⟨other, hother, -⟩ := rules.keys.exist key hkey
    simp [empty] at hother
  · intro name hname
    have effective := Value.label?_eq_some.mp (parts.autoIncrement.trans hname)
    rcases rules.autoIncrement.counts with absent | ⟨other, hother, -, sole, -⟩
    · rw [absent] at effective
      simp at effective
    · obtain rfl := Value.label.inj (hother.symm.trans effective)
      exact sole

end Schema

/-! ## What a statement says -/

namespace CreateTable

/-- The column that counts up: it carries the primary key. -/
def autoIncrement (statement : CreateTable) : Option String :=
  (statement.columns.find? ColumnClause.autoIncrement).map ColumnClause.name

/-- The primary key: the first constraint, or else the column that counts up. -/
def primaryKeys (statement : CreateTable) : List String :=
  match statement.constraints with
  | .primaryKey columns :: _ => columns
  | _ => statement.autoIncrement.toList

/-- The groups of unique columns. -/
def uniqueKeys (statement : CreateTable) : List (List String) :=
  statement.constraints.filterMap fun
    | .unique columns => some columns
    | .primaryKey _ => none

end CreateTable

namespace Schema

/-- The names of a schema are identifiers: its table and its columns. -/
structure PlainNames (schema : Schema) : Prop where
  table : (Value.label schema.tableName).IsPlainName
  columns : ∀ name ∈ schema.columnNames, (Value.label name).IsPlainName

theorem shown_eq_content {name : Label} (plain : (Value.label name).IsPlainName) :
    name.shown = name.content := by
  obtain ⟨text, htext, -⟩ := Value.isPlainName_iff.mp plain
  obtain rfl := Value.label.inj htext
  rfl

/-- The column that counts up can be told from the statement. -/
theorem autoIncrement_createTable {schema : Schema} (consistent : schema.Consistent)
    (plain : schema.PlainNames) :
    schema.createTable.autoIncrement = schema.autoIncrement.map Label.content := by
  unfold CreateTable.autoIncrement createTable
  rw [List.find?_map]
  cases hauto : schema.autoIncrement with
  | none => simp [Function.comp_def, columnClause]
  | some name =>
    obtain ⟨key, hkeys, hkey⟩ := consistent.autoIncrement name hauto
    obtain ⟨label, hlabel, hcontent⟩ := consistent.primaryKeys.2 key (by simp [hkeys])
    obtain ⟨entry, hentry, rfl⟩ := List.mem_map.mp hlabel
    -- the key that counts up is a column, so some clause has the flag
    have counts : ((schema.columns.find? (ColumnClause.autoIncrement ∘ columnClause (some name)))).isSome
        = true := by
      rw [List.find?_isSome]
      exact ⟨entry, hentry, by simp [columnClause, hcontent, hkey]⟩
    obtain ⟨found, hfound⟩ := Option.isSome_iff_exists.mp counts
    have same : found.1.content = name.content := by
      simpa [columnClause] using List.find?_some hfound
    have hplain := plain.columns found.1 (List.mem_map_of_mem (List.mem_of_find?_eq_some hfound))
    simp [hfound, columnClause, shown_eq_content hplain, same]

/-- The primary key can be told from the statement. -/
theorem primaryKeys_createTable {schema : Schema} (consistent : schema.Consistent)
    (plain : schema.PlainNames) :
    schema.createTable.primaryKeys = schema.primaryKeys.map Label.content := by
  have counts := autoIncrement_createTable consistent plain
  unfold CreateTable.primaryKeys
  rw [counts]
  cases hauto : schema.autoIncrement with
  | none => simp [createTable, constraints, hauto]
  | some name =>
    obtain ⟨key, hkeys, hkey⟩ := consistent.autoIncrement name hauto
    -- the constraints are groups, if there are any
    cases hunique : schema.uniqueKeys <;>
      simp [createTable, constraints, hauto, hunique, hkeys, hkey]

/-- The unique groups can be told from the statement. -/
theorem uniqueKeys_createTable (schema : Schema) :
    schema.createTable.uniqueKeys = schema.uniqueKeys.map (List.map Label.content) := by
  unfold CreateTable.uniqueKeys
  cases hauto : schema.autoIncrement <;>
    simp [createTable, constraints, hauto, List.filterMap_map]

/-- The statement of a consistent schema with plain names can be read back. -/
theorem plain_createTable {schema : Schema} (consistent : schema.Consistent)
    (plain : schema.PlainNames) : schema.createTable.Plain := by
  -- keys and groups name columns, so their contents are identifiers too
  have listed : ∀ {names : List Label},
      names ≠ [] ∧ (∀ name ∈ names, name.IsAmong schema.columnNames) →
      names.map Label.content ≠ [] ∧
        ∀ column ∈ names.map Label.content, isIdentifier column = true := by
    rintro names ⟨hne, hnames⟩
    refine ⟨by simpa using hne, List.forall_mem_map.mpr fun name hname => ?_⟩
    obtain ⟨other, hother, hcontent⟩ := hnames name hname
    have hplain := plain.columns other hother
    rw [← hcontent, ← shown_eq_content hplain]
    exact hplain.identifier
  refine ⟨plain.table.identifier, by simpa [createTable] using consistent.columns, ?_, ?_⟩
  · intro clause hclause
    obtain ⟨entry, hentry, rfl⟩ := List.mem_map.mp hclause
    refine ⟨(plain.columns entry.1 (List.mem_map_of_mem hentry)).identifier, ?_⟩
    intro literal hliteral
    obtain ⟨value, -, rfl⟩ := Option.map_eq_some_iff.mp hliteral
    exact isLiteral_sqlLiteral value
  · intro constraint hconstraint
    rcases List.mem_append.mp hconstraint with hconstraint | hconstraint
    · split at hconstraint
      · obtain rfl := List.mem_singleton.mp hconstraint
        exact listed consistent.primaryKeys
      · simp at hconstraint
    · obtain ⟨group, hgroup, rfl⟩ := List.mem_map.mp hconstraint
      exact listed (consistent.uniqueKeys group hgroup)

/-! ## The table of a statement -/

/-- Two columns have the same name, type and flags, and the same literal as default value or none. -/
structure SameColumn (entry other : Label × Column) : Prop where
  name : entry.1 = other.1
  type : entry.2.type = other.2.type
  notNull : entry.2.notNull = other.2.notNull
  unique : entry.2.unique = other.2.unique
  default : entry.2.defaultValue.map Value.sqlLiteral = other.2.defaultValue.map Value.sqlLiteral

/-- Two schemas describe the same table. The names of keys and groups are the same by content. -/
structure SameTable (schema other : Schema) : Prop where
  tableName : schema.tableName = other.tableName
  columns : List.Forall₂ SameColumn schema.columns other.columns
  autoIncrement : schema.autoIncrement.map Label.content = other.autoIncrement.map Label.content
  primaryKeys : schema.primaryKeys.map Label.content = other.primaryKeys.map Label.content
  uniqueKeys :
    schema.uniqueKeys.map (List.map Label.content) = other.uniqueKeys.map (List.map Label.content)
  withoutRowid : schema.createTable.withoutRowid = other.createTable.withoutRowid

/-- Plain labels that show the same are the same. -/
theorem eq_of_shown_eq {name other : Label} (plain : (Value.label name).IsPlainName)
    (plain' : (Value.label other).IsPlainName) (same : name.shown = other.shown) : name = other := by
  have h := plain.eq_text
  rw [show (Value.label name).shown = other.shown from same] at h
  exact Value.label.inj (h.trans plain'.eq_text.symm)

/-- Columns with the same clauses are the same. -/
theorem sameColumns {autoIncrement autoIncrement' : Option Label}
    {columns others : List (Label × Column)}
    (plain : ∀ name ∈ columns.map Prod.fst, (Value.label name).IsPlainName)
    (plain' : ∀ name ∈ others.map Prod.fst, (Value.label name).IsPlainName)
    (same : columns.map (columnClause autoIncrement) = others.map (columnClause autoIncrement')) :
    List.Forall₂ SameColumn columns others := by
  induction columns generalizing others with
  | nil =>
    obtain rfl : others = [] := by simpa using same.symm
    exact .nil
  | cons entry rest ih =>
    cases others with
    | nil => simp at same
    | cons other others =>
      rw [List.map_cons, List.map_cons, List.cons.injEq] at same
      rw [List.map_cons, List.forall_mem_cons] at plain plain'
      refine .cons ?_ (ih plain.2 plain'.2 same.2)
      obtain ⟨name, type, -, notNull, unique, default⟩ := ColumnClause.mk.inj same.1
      exact ⟨eq_of_shown_eq plain.1 plain'.1 name, type, notNull, unique, default⟩

/-- Accepted schemas with plain names that have the same statement describe the same table. -/
theorem createTableText_determines_table {options columns options' columns' : Value}
    {schema other : Schema} (accepted : ofDefinition options columns = .ok schema)
    (accepted' : ofDefinition options' columns' = .ok other) (plain : schema.PlainNames)
    (plain' : other.PlainNames) (same : schema.createTableText = other.createTableText) :
    SameTable schema other := by
  have consistent := consistent_of_ofDefinition accepted
  have consistent' := consistent_of_ofDefinition accepted'
  have statements : schema.createTable = other.createTable :=
    CreateTable.eq_of_text_eq (plain_createTable consistent plain)
      (plain_createTable consistent' plain') same
  refine ⟨?_, ?_, ?_, ?_, ?_, congrArg CreateTable.withoutRowid statements⟩
  · exact eq_of_shown_eq plain.table plain'.table (congrArg CreateTable.table statements)
  · exact sameColumns plain.columns plain'.columns (congrArg CreateTable.columns statements)
  · rw [← autoIncrement_createTable consistent plain, statements,
      autoIncrement_createTable consistent' plain']
  · rw [← primaryKeys_createTable consistent plain, statements,
      primaryKeys_createTable consistent' plain']
  · rw [← uniqueKeys_createTable, statements, uniqueKeys_createTable]

/-- A table with columns that are called like constraints, and with a default value that looks like
the end of a column and a constraint. -/
def keywordTable (withoutRowid : Value) : Schema where
  tableName := .plain "keywords"
  columns := [(.plain "UNIQUE", ⟨.text, false, true, false, false, some (.text "x', PRIMARY KEY (y)")⟩),
    (.plain "PRIMARY", ⟨.integer, false, false, true, false, none⟩)]
  primaryKeys := [.plain "PRIMARY"]
  autoIncrement := none
  uniqueKeys := [[.plain "UNIQUE", .plain "PRIMARY"]]
  withoutRowid := withoutRowid

/-- The options of the table as a record. -/
def keywordOptions : Value :=
  .tableOptions (.text "keywords") (.text "PRIMARY") .null
    (.list [.tuple [.text "UNIQUE", .text "PRIMARY"]]) .null

/-- The options of the table as a mapping, in which the table is asked to have no row numbers. -/
def keywordMapping : Value :=
  .map [(.text "table_name", .text "keywords"), (.text "primary_keys", .list [.text "PRIMARY"]),
    (.text "unique_keys", .tuple [.list [.text "UNIQUE", .text "PRIMARY"]]),
    (.text "without_rowid", .bool true)]

/-- The columns of the table, the type of one spelled by an alias. -/
def keywordColumns (integer : String) : Value :=
  .map [(.text "UNIQUE", .map [(.text "type", .text "text"), (.text "not_null", .bool true),
      (.text "default_value", .text "x', PRIMARY KEY (y)")]),
    (.text "PRIMARY", .descriptor (.text integer) .null .null (.int 1) .null .null)]

theorem createTableText_determines_keywordTable :
    ofDefinition keywordOptions (keywordColumns "INTEGER") = .ok (keywordTable .null) ∧
      ofDefinition keywordMapping (keywordColumns " int ") = .ok (keywordTable (.bool true)) ∧
      (keywordTable .null).PlainNames ∧ (keywordTable (.bool true)).PlainNames ∧
      (keywordTable .null).createTableText = (keywordTable (.bool true)).createTableText ∧
      SameTable (keywordTable .null) (keywordTable (.bool true)) := by
  have accepted : ofDefinition keywordOptions (keywordColumns "INTEGER")
      = .ok (keywordTable .null) := rfl
  have accepted' : ofDefinition keywordMapping (keywordColumns " int ")
      = .ok (keywordTable (.bool true)) := rfl
  have plain : (keywordTable .null).PlainNames := ⟨by decide, by decide⟩
  have plain' : (keywordTable (.bool true)).PlainNames := ⟨by decide, by decide⟩
  have same : (keywordTable .null).createTableText = (keywordTable (.bool true)).createTableText :=
    rfl
  exact ⟨accepted, accepted', plain, plain', same,
    createTableText_determines_table accepted accepted' plain plain' same⟩

end Schema

end TableModel
