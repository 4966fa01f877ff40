/-
# TableModel.Proofs.Schema.Restated — a schema is a definition of itself

Validation changes the shape of what it is given: names alone become lists of names, lists become
tuples, aliases become types, values become truth values, and a column that is flagged to count up
becomes the table's option. What comes out can be written down as a definition again, with the
columns as records or as mappings of their fields. Validating that definition changes nothing more:
it yields the schema it was written down from.

The parts of a definition that have to agree do so in a schema already, so what has to be shown is
that each part is read back as it is written. The column that counts up takes an argument: the
option of the new definition may be the flag of a column in the old one.
-/
import TableModel.Proofs.Schema.Unambiguous
import TableModel.Proofs.Value.Spellings
import TableModel.Schema.Rendering

namespace TableModel

/-! ## Columns -/

namespace Descriptor

/-- The fields of a descriptor under their names. -/
def fields (descriptor : Descriptor) : List (String × Value) :=
  [("type", descriptor.type), ("primary_key", descriptor.primaryKey),
    ("not_null", descriptor.notNull), ("unique", descriptor.unique),
    ("auto_increment", descriptor.autoIncrement), ("default_value", descriptor.defaultValue)]

/-- A descriptor is written down as a record, or as the mapping of its six fields. -/
inductive WrittenAs (descriptor : Descriptor) : Value → Prop
  | record : WrittenAs descriptor (.descriptor descriptor.type descriptor.primaryKey
      descriptor.notNull descriptor.unique descriptor.autoIncrement descriptor.defaultValue)
  | mapping {entries : List (Value × Value)} (given : Value.AreFields descriptor.fields entries) :
      WrittenAs descriptor (.map entries)

theorem WrittenAs.gives {descriptor : Descriptor} {value : Value}
    (written : descriptor.WrittenAs value) : value.GivesDescriptor descriptor := by
  cases written with
  | record => exact .record ..
  | @mapping entries given =>
    have each : ∀ name value, (name, value) ∈ descriptor.fields → Value.field name entries = value :=
      fun _ _ member => given.field_eq (show keys.Nodup by decide) member
    have read : (Value.map entries).GivesDescriptor _ := .mapping given.hasKeysOf
    rwa [each "type" descriptor.type (by simp [fields]),
      each "primary_key" descriptor.primaryKey (by simp [fields]),
      each "not_null" descriptor.notNull (by simp [fields]),
      each "unique" descriptor.unique (by simp [fields]),
      each "auto_increment" descriptor.autoIncrement (by simp [fields]),
      each "default_value" descriptor.defaultValue (by simp [fields])] at read

end Descriptor

/-- The descriptor of a column: its type itself and its flags as truth values. -/
def Column.descriptor (column : Column) : Descriptor where
  type := .label (.columnType column.type)
  primaryKey := .bool column.primaryKey
  notNull := .bool column.notNull
  unique := .bool column.unique
  autoIncrement := .bool column.autoIncrement
  defaultValue := column.defaultValue.getD .null

/-- A column that some value gives is given by its own descriptor. -/
theorem Value.GivesColumn.restated {value restated : Value} {column : Column}
    (gives : value.GivesColumn column) (written : column.descriptor.WrittenAs restated) :
    restated.GivesColumn column := by
  obtain ⟨descriptor, -, describes⟩ := gives
  have default : column.descriptor.defaultValue = descriptor.defaultValue := by
    show column.defaultValue.getD .null = descriptor.defaultValue
    rw [← Value.present?_eq_iff.mpr describes.defaultValue]
    cases descriptor.defaultValue <;> rfl
  -- truth values are their own truth
  exact ⟨_, written.gives, .member column.type, rfl, rfl, rfl, rfl, default ▸ describes.defaultValue,
    default ▸ describes.finite⟩

namespace Schema

/-- Columns have names, and some value gives each of them. -/
def AreGiven (columns : List (Label × Column)) : Prop :=
  ∀ entry ∈ columns, entry.1.isEmpty = false ∧ ∃ value : Value, value.GivesColumn entry.2

theorem areGiven_of_givesColumns {value : Value} {declared : List (Label × Column)}
    (gives : value.GivesColumns declared) : AreGiven declared := by
  obtain ⟨-, each⟩ := gives
  induction each with
  | nil => exact List.forall_mem_nil _
  | cons first _ ih => exact List.forall_mem_cons.mpr ⟨⟨first.2.1, _, first.2.2⟩, ih⟩

theorem AreGiven.putColumn {columns : List (Label × Column)} (given : AreGiven columns)
    {name : Label} (named : name.isEmpty = false) {value : Value} {column : Column}
    (gives : value.GivesColumn column) : AreGiven (putColumn name column columns) := by
  induction columns with
  | nil => exact List.forall_mem_singleton.mpr ⟨named, value, gives⟩
  | cons first rest ih =>
    obtain ⟨⟨firstNamed, firstGiven⟩, given⟩ := List.forall_mem_cons.mp given
    rw [Schema.putColumn]
    split
    · -- the column is replaced and its name stays
      exact List.forall_mem_cons.mpr ⟨⟨firstNamed, value, gives⟩, given⟩
    · exact List.forall_mem_cons.mpr ⟨⟨firstNamed, firstGiven⟩, ih given⟩

theorem AreGiven.collect {declared : List (Label × Column)} (given : AreGiven declared) :
    AreGiven (collect declared) := by
  refine List.foldlRecOn (motive := AreGiven) declared _ (List.forall_mem_nil _) ?_
  intro all others column member
  obtain ⟨named, value, gives⟩ := given column member
  exact others.putColumn named gives

/-- Columns are written down under their names, in their order. -/
def ColumnsWrittenAs (columns : List (Label × Column)) (value : Value) : Prop :=
  ∃ entries, value = .map entries ∧
    List.Forall₂ (fun entry column => entry.1 = .label column.1 ∧
      column.2.descriptor.WrittenAs entry.2) entries columns

/-- Columns that are written down declare themselves. -/
theorem ColumnsWrittenAs.gives {columns : List (Label × Column)} {value : Value}
    (written : ColumnsWrittenAs columns value) (some : columns ≠ []) (given : AreGiven columns) :
    value.GivesColumns columns := by
  obtain ⟨entries, rfl, written⟩ := written
  refine .mapping ?_ ?_
  · rintro rfl
    exact some (List.forall₂_nil_left_iff.mp written)
  · clear some
    induction written with
    | nil => exact .nil
    | cons first _ ih =>
      obtain ⟨⟨named, value, gives⟩, given⟩ := List.forall_mem_cons.mp given
      exact .cons ⟨first.1, named, gives.restated first.2⟩ (ih given)

end Schema

/-! ## Options -/

namespace TableOptions

/-- The fields of table options under their names. -/
def fields (options : TableOptions) : List (String × Value) :=
  [("table_name", options.tableName), ("primary_keys", options.primaryKeys),
    ("auto_increment", options.autoIncrement), ("unique_keys", options.uniqueKeys),
    ("without_rowid", options.withoutRowid)]

/-- Options are written down as a record, or as the mapping of their five fields. -/
inductive WrittenAs (options : TableOptions) : Value → Prop
  | record : WrittenAs options (.tableOptions options.tableName options.primaryKeys
      options.autoIncrement options.uniqueKeys options.withoutRowid)
  | mapping {entries : List (Value × Value)} (given : Value.AreFields options.fields entries) :
      WrittenAs options (.map entries)

theorem WrittenAs.gives {options : TableOptions} {value : Value}
    (written : options.WrittenAs value) : value.GivesOptions options := by
  cases written with
  | record => exact .record ..
  | @mapping entries given =>
    have each : ∀ name value, (name, value) ∈ options.fields → Value.field name entries = value :=
      fun _ _ member => given.field_eq (show keys.Nodup by decide) member
    have read : (Value.map entries).GivesOptions _ := .mapping given.hasKeysOf
    rwa [each "table_name" options.tableName (by simp [fields]),
      each "primary_keys" options.primaryKeys (by simp [fields]),
      each "auto_increment" options.autoIncrement (by simp [fields]),
      each "unique_keys" options.uniqueKeys (by simp [fields]),
      each "without_rowid" options.withoutRowid (by simp [fields])] at read

end TableOptions

namespace Schema

/-- The options of a schema: its keys and groups as tuples, and null where nothing counts up. -/
def tableOptions (schema : Schema) : TableOptions where
  tableName := .label schema.tableName
  primaryKeys := .tuple (schema.primaryKeys.map .label)
  autoIncrement := (schema.autoIncrement.map Value.label).getD .null
  uniqueKeys := .tuple (schema.uniqueKeys.map fun group => .tuple (group.map .label))
  withoutRowid := schema.withoutRowid

/-- Asking for what counts up asks for nothing else. -/
theorem effectiveAutoIncrement_label? {option : Value} {primaryKeys : List Label}
    {columns : List (Label × Column)} (agrees : AutoIncrementAgrees option primaryKeys columns) :
    effectiveAutoIncrement
        (((effectiveAutoIncrement option columns).label?.map Value.label).getD .null) columns
      = effectiveAutoIncrement option columns := by
  rcases agrees.counts with absent | ⟨name, counts, -⟩
  · -- nothing counts up, so no column is flagged
    rw [absent]
    simp [Value.label?, effectiveAutoIncrement, flagged_eq_nil absent]
  · rw [counts]
    rfl

/-- Groups that are written down as tuples of their names give themselves. -/
theorem GivesGroups.restated {columns : List (Label × Column)} {value : Value}
    {groups : List (List Label)} (gives : GivesGroups columns value groups) :
    GivesGroups columns (.tuple (groups.map fun group => .tuple (group.map .label))) groups := by
  have consistent := gives.consistent
  refine .sequence (.tuple _) ?_
  rw [List.forall₂_map_left_iff, List.forall₂_same]
  intro group member
  obtain ⟨given, exist⟩ := consistent group member
  exact ⟨.tuple _, given, exist⟩

/-! ## Schemas -/

/-- A schema is written down as a definition. -/
structure WrittenAs (schema : Schema) (options columns : Value) : Prop where
  options : schema.tableOptions.WrittenAs options
  columns : ColumnsWrittenAs schema.columns columns

/-- Validation yields the same schema again when the one it has yielded is written down and
validated, and so the same statement. -/
theorem ofDefinition_of_writtenAs {options columns options' columns' : Value} {schema : Schema}
    (accepted : ofDefinition options columns = .ok schema)
    (written : schema.WrittenAs options' columns') :
    ∃ again, ofDefinition options' columns' = .ok again ∧ again = schema ∧
      again.createTableText = schema.createTableText := by
  obtain ⟨given, declared, parts, rules⟩ := ofDefinition_eq_ok.mp accepted
  have nonempty : schema.columns ≠ [] := (consistent_of_ofDefinition accepted).columns
  have columnsGiven : AreGiven schema.columns := by
    rw [← parts.columns]
    exact (areGiven_of_givesColumns parts.declares).collect
  have distinct : Distinct schema.columns := by
    rw [← parts.columns]
    exact distinct_collect declared
  have counts : effectiveAutoIncrement schema.tableOptions.autoIncrement schema.columns
      = effectiveAutoIncrement given.autoIncrement schema.columns := by
    rw [tableOptions, ← parts.autoIncrement]
    exact effectiveAutoIncrement_label? rules.autoIncrement
  have groups : GivesGroups schema.columns schema.tableOptions.uniqueKeys schema.uniqueKeys :=
    parts.uniqueKeys.restated
  refine ⟨schema, ofDefinition_eq_ok.mpr ⟨schema.tableOptions, schema.columns, ?_, ?_⟩, rfl, rfl⟩
  · exact {
      options := written.options.gives
      tableName := rfl
      named := parts.named
      primaryKeys := .sequence (.tuple _) parts.primaryKeys.ne_nil parts.primaryKeys.named
      declares := written.columns.gives nonempty columnsGiven
      columns := collect_of_distinct (distinct.imp fun different => by simpa [Label.same] using different)
      autoIncrement := counts ▸ parts.autoIncrement
      uniqueKeys := groups
      withoutRowid := rfl }
  · exact {
      keys := rules.keys
      autoIncrement := ⟨rules.autoIncrement.once, counts ▸ rules.autoIncrement.counts⟩
      uniqueKeys := ⟨_, groups⟩
      rowNumbers := by
        rw [counts, tableOptions, ← parts.withoutRowid]
        exact rules.rowNumbers }

/-- The schema of the table of users. -/
def users : Schema where
  tableName := .plain "users"
  columns := [(.plain "id", ⟨.integer, false, false, false, true, none⟩),
    (.plain "name", ⟨.text, false, true, false, false, some (.text "nobody")⟩)]
  primaryKeys := [.plain "id"]
  autoIncrement := some (.plain "id")
  uniqueKeys := [[.plain "name", .plain "id"]]
  withoutRowid := .null

/-- The options of the schema as a mapping, in which the primary key comes first. -/
def usersOptionsAgain : Value :=
  .map [(.text "primary_keys", .tuple [.text "id"]), (.text "table_name", .text "users"),
    (.text "auto_increment", .text "id"),
    (.text "unique_keys", .tuple [.tuple [.text "name", .text "id"]]),
    (.text "without_rowid", .null)]

/-- The columns of the schema, one as a record and one as a mapping. -/
def usersColumnsAgain : Value :=
  .map [(.text "id", .descriptor (.label (.columnType .integer)) (.bool false) (.bool false)
      (.bool false) (.bool true) .null),
    (.text "name", .map [(.text "type", .label (.columnType .text)),
      (.text "primary_key", .bool false), (.text "not_null", .bool true),
      (.text "unique", .bool false), (.text "auto_increment", .bool false),
      (.text "default_value", .text "nobody")])]

/-- The id is flagged to count up in the first definition and is the table's option in the second. -/
theorem users_is_read_again :
    ofDefinition usersOptions usersColumns = .ok users ∧
      users.WrittenAs usersOptionsAgain usersColumnsAgain ∧
      ∃ again, ofDefinition usersOptionsAgain usersColumnsAgain = .ok again ∧ again = users ∧
        again.createTableText = users.createTableText := by
  have accepted : ofDefinition usersOptions usersColumns = .ok users := rfl
  have written : users.WrittenAs usersOptionsAgain usersColumnsAgain := {
    options := .mapping (List.Perm.swap _ _ _)
    columns := ⟨_, rfl, .cons ⟨rfl, .record⟩ (.cons ⟨rfl, .mapping (List.Perm.refl _)⟩ .nil)⟩ }
  exact ⟨accepted, written, ofDefinition_of_writtenAs accepted written⟩

end Schema

end TableModel
