/-
# TableModel.Proofs.Schema.Faults — what can be wrong with a definition

A definition can break any number of rules at once: every column and every group of unique columns can
be faulty in its own way. The catalogue of faults says for each condition, on its own, when it is
violated and by which error that is told. A condition looks at nothing but what it is about: whether a
key is a column depends on the names of the columns and not on their descriptors, and what is asked to
count up is a text or not whatever the columns are. The conditions of a definition stand in one list,
column by column and group by group.
-/
import TableModel.Proofs.Schema.WellFormed

namespace TableModel

/-! ## Values that give nothing -/

namespace Value

/-- What is wrong with a value that gives no options. -/
inductive OptionsFault : Value → SchemaError → Prop
  | shape {value : Value} (noRecord : ∀ options : TableOptions, value ≠ .tableOptions options.tableName
        options.primaryKeys options.autoIncrement options.uniqueKeys options.withoutRowid)
      (noMapping : ∀ entries, value ≠ .map entries) : OptionsFault value .optionsShape
  | unknown {entries : List (Value × Value)} (unknown : ¬ HasKeysOf TableOptions.keys entries) :
      OptionsFault (.map entries)
        (.unknownOptions (sortedShown (unknownKeys TableOptions.keys entries)))

/-- What is wrong with a value that gives no descriptor of a column. -/
inductive DescriptorFault (column : Label) : Value → SchemaError → Prop
  | shape {value : Value} (noRecord : ∀ descriptor : Descriptor, value ≠ .descriptor descriptor.type
        descriptor.primaryKey descriptor.notNull descriptor.unique descriptor.autoIncrement
        descriptor.defaultValue)
      (noMapping : ∀ entries, value ≠ .map entries) : DescriptorFault column value (.columnShape column)
  | unknown {entries : List (Value × Value)} {names : List Label} (given : names ≠ [])
      (unknown : unknownKeys Descriptor.keys entries = names.map .label) :
      DescriptorFault column (.map entries)
        (.unknownColumnOptions column (names.map Label.content).mergeSort)

theorem OptionsFault.isFinding {value : Value} {e : SchemaError} (fault : value.OptionsFault e) :
    e.isFinding = true := by
  cases fault <;> rfl

theorem DescriptorFault.isFinding {column : Label} {value : Value} {e : SchemaError}
    (fault : value.DescriptorFault column e) : e.isFinding = true := by
  cases fault <;> rfl

end Value

theorem TableOptions.ofValue_eq_error {value : Value} {e : SchemaError} :
    ofValue value = .error e ↔ value.OptionsFault e := by
  constructor
  · intro h
    cases value with
    | tableOptions => cases h
    | map entries =>
      simp only [ofValue] at h
      split at h
      · cases h
      · rename_i some
        obtain rfl := Except.error.inj h
        exact .unknown fun known => some (Value.unknownKeys_eq_nil.mpr known)
    | _ =>
      obtain rfl := Except.error.inj h
      exact .shape (by simp) (by simp)
  · intro fault
    cases fault with
    | shape noRecord noMapping =>
      cases value with
      | tableOptions t p a u w => exact absurd rfl (noRecord ⟨t, p, a, u, w⟩)
      | map entries => exact absurd rfl (noMapping entries)
      | _ => rfl
    | unknown unknown =>
      simp only [ofValue]
      split
      · rename_i nil
        exact absurd (Value.unknownKeys_eq_nil.mp nil) unknown
      · rfl

theorem Descriptor.ofValue_eq_error {name : Label} {value : Value} {e : SchemaError}
    (textual : value.HasTextKeys) : ofValue name value = .error e ↔ value.DescriptorFault name e := by
  constructor
  · intro h
    cases value with
    | descriptor => cases h
    | map entries =>
      simp only [ofValue] at h
      split at h
      · cases h
      · rename_i some
        split at h
        · rename_i contents hcontents
          obtain rfl := Except.error.inj h
          obtain ⟨names, hnames, rfl⟩ := Option.map_eq_some_iff.mp hcontents
          have unknown := Value.mapM_label?_eq_some.mp hnames
          refine .unknown ?_ unknown
          rintro rfl
          exact some unknown
        · rename_i none
          exact absurd none (Value.sortedContents?_unknownKeys_ne_none textual)
    | _ =>
      obtain rfl := Except.error.inj h
      exact .shape (by simp) (by simp)
  · intro fault
    cases fault with
    | shape noRecord noMapping =>
      cases value with
      | descriptor t p n u a d => exact absurd rfl (noRecord ⟨t, p, n, u, a, d⟩)
      | map entries => exact absurd rfl (noMapping entries)
      | _ => rfl
    | unknown given unknown =>
      simp only [ofValue]
      split
      · rename_i nil
        rw [unknown, List.map_eq_nil_iff] at nil
        exact absurd nil given
      · rw [unknown, Value.sortedContents?, Value.mapM_label?_eq_some.mpr rfl]
        rfl

/-! ## Definitions of which parts can be read -/

theorem Value.GivesOptions.unique {value : Value} {options other : TableOptions}
    (gives : value.GivesOptions options) (otherwise : value.GivesOptions other) : options = other :=
  Except.ok.inj
    ((TableOptions.ofValue_eq_ok.mpr gives).symm.trans (TableOptions.ofValue_eq_ok.mpr otherwise))

theorem Value.GivesDescriptor.unique {value : Value} {descriptor other : Descriptor}
    (gives : value.GivesDescriptor descriptor) (otherwise : value.GivesDescriptor other) :
    descriptor = other := by
  have read : ∀ {given}, value.GivesDescriptor given → Descriptor.ofValue default value = .ok given :=
    Descriptor.ofValue_eq_ok.mpr
  exact Except.ok.inj ((read gives).symm.trans (read otherwise))

theorem Value.ListsNames.unique {value : Value} {names others : List Label}
    (listed : value.ListsNames names) (otherwise : value.ListsNames others) : names = others :=
  Option.some.inj ((names?_eq_some.mpr listed).symm.trans (names?_eq_some.mpr otherwise))

/-- A mapping declares columns, which stand under their names. -/
def Value.HoldsColumns (value : Value) (columns : List (Label × Column)) : Prop :=
  ∃ declared, value.GivesColumns declared ∧ Schema.collect declared = columns

theorem Value.HoldsColumns.unique {value : Value} {columns others : List (Label × Column)}
    (holds : value.HoldsColumns columns) (otherwise : value.HoldsColumns others) : columns = others :=
  Except.ok.inj
    ((Schema.readColumns_eq_ok.mpr holds).symm.trans (Schema.readColumns_eq_ok.mpr otherwise))

/-- A mapping has a column of a name, whatever is said about the column. -/
def Value.HasColumn (value : Value) (name : Label) : Prop :=
  ∃ entry ∈ value.members, entry.1.isText name.content = true

namespace Schema

theorem hasColumn_putColumn {name other : Label} {column : Column} {all : List (Label × Column)} :
    hasColumn (putColumn other column all) name = (other.same name || hasColumn all name) := by
  induction all with
  | nil => simp [putColumn, hasColumn, Label.isIn]
  | cons first rest ih =>
    rw [putColumn]
    split
    · -- the name that is kept is the same
      rename_i same
      have kept : first.1.same name = other.same name := by
        rw [Label.same, Label.same, Label.same_iff.mp same]
      simp [hasColumn, Label.isIn, kept]
    · simp only [hasColumn, Label.isIn, List.map_cons, List.any_cons] at ih ⊢
      rw [ih, Bool.or_left_comm]

/-- Collecting columns keeps all of their names. -/
theorem hasColumn_collect {name : Label} {declared : List (Label × Column)} :
    hasColumn (collect declared) name = hasColumn declared name := by
  have fold : ∀ all : List (Label × Column),
      hasColumn (declared.foldl (fun all column => putColumn column.1 column.2 all) all) name
        = (hasColumn all name || hasColumn declared name) := by
    induction declared with
    | nil => simp [hasColumn, Label.isIn]
    | cons column rest ih =>
      intro all
      rw [List.foldl_cons, ih, hasColumn_putColumn, Bool.or_comm (column.1.same name), Bool.or_assoc]
      rfl
  exact fold []

end Schema

theorem Value.HoldsColumns.hasColumn_iff {value : Value} {columns : List (Label × Column)}
    (holds : value.HoldsColumns columns) {name : Label} :
    value.HasColumn name ↔ Schema.hasColumn columns name = true := by
  obtain ⟨declared, ⟨-, each⟩, rfl⟩ := holds
  rw [Schema.hasColumn_collect, HasColumn, members_map]
  induction each with
  | nil => simp [Schema.hasColumn, Label.isIn]
  | @cons entry column entries columns first _ ih =>
    have called : entry.1.isText name.content = column.1.same name := by
      rw [first.1]
      rfl
    simp only [Schema.hasColumn, Label.isIn, List.map_cons, List.any_cons, Bool.or_eq_true,
      List.exists_mem_cons_iff, called] at ih ⊢
    rw [ih]

namespace Schema

/-- The parts of a definition that the rules about keys and about counting compare. -/
structure Reads (options columns : Value) (given : TableOptions) (primaryKeys : List Label)
    (held : List (Label × Column)) : Prop where
  options : options.GivesOptions given
  primaryKeys : given.primaryKeys.ListsNames primaryKeys
  columns : columns.HoldsColumns held

/-! ## The catalogue of faults -/

/-- The conditions on a definition. -/
inductive Check where
  | options
  | tableName
  | primaryKeys
  | columns
  | columnName (entry : Value × Value)
  | descriptor (entry : Value × Value)
  | defaultValue (entry : Value × Value)
  | columnType (entry : Value × Value)
  /-- Every primary key is a column. -/
  | keysExist
  /-- Every column that is flagged as a primary key is one. -/
  | keysListed
  /-- One column at most is flagged to count up. -/
  | flaggedOnce
  /-- The table's option names the flagged column. -/
  | flagAgrees
  /-- What counts up is named by a text. -/
  | countsText
  | countsKey
  | countsAlone
  | countsInteger
  | uniqueKeys
  | group (group : Value)
  | groupColumns (group : Value)
  /-- A table that counts up has row numbers. -/
  | rowNumbers

/-- The conditions on a column. -/
def columnChecks (entry : Value × Value) : List Check :=
  [.columnName entry, .descriptor entry, .defaultValue entry, .columnType entry]

/-- The conditions on a group of unique columns. -/
def groupChecks (group : Value) : List Check :=
  [.group group, .groupColumns group]

/-- The items of the option for unique groups. -/
def givenGroups : Value → List Value
  | .tableOptions _ _ _ uniqueKeys _ => uniqueKeys.sequence?.getD []
  | .map entries => (Value.field "unique_keys" entries).sequence?.getD []
  | _ => []

/-- The conditions on a definition in their order. -/
def checks (options columns : Value) : List Check :=
  [.options, .tableName, .primaryKeys, .columns] ++ columns.members.flatMap columnChecks
    ++ [.keysExist, .keysListed]
    ++ [.flaggedOnce, .flagAgrees, .countsText, .countsKey, .countsAlone, .countsInteger]
    ++ [.uniqueKeys] ++ (givenGroups options).flatMap groupChecks
    ++ [.rowNumbers]

/-- A condition on a definition is violated, whatever becomes of the others, and is told by an error. -/
inductive Fault (options columns : Value) : Check → SchemaError → Prop
  | options {e : SchemaError} (fault : options.OptionsFault e) : Fault options columns .options e
  | tableName {given : TableOptions} (gives : options.GivesOptions given)
      (unnamed : ∀ name : Label, given.tableName = .label name → name.isEmpty = true) :
      Fault options columns .tableName .tableName
  | primaryKeys {given : TableOptions} (gives : options.GivesOptions given)
      (unlisted : ∀ names, ¬ given.primaryKeys.ListsNames names) :
      Fault options columns .primaryKeys .primaryKeysShape
  | columns (none : columns.members = []) : Fault options columns .columns .columnsShape
  | columnName {entry : Value × Value}
      (unnamed : ∀ name : Label, entry.1 = .label name → name.isEmpty = true) :
      Fault options columns (.columnName entry) .columnName
  | descriptor {entry : Value × Value} {name : Label} {e : SchemaError}
      (called : entry.1 = .label name) (fault : entry.2.DescriptorFault name e) :
      Fault options columns (.descriptor entry) e
  | defaultValue {entry : Value × Value} {name : Label} {descriptor : Descriptor} {x : Binary64}
      (called : entry.1 = .label name) (gives : entry.2.GivesDescriptor descriptor)
      (default : descriptor.defaultValue = .float x) (infinite : x.isFinite = false) :
      Fault options columns (.defaultValue entry) (.nonFiniteDefault name x)
  | columnType {entry : Value × Value} {name : Label} {descriptor : Descriptor}
      (called : entry.1 = .label name) (gives : entry.2.GivesDescriptor descriptor)
      (untyped : ∀ type, ¬ descriptor.type.GivesType type) :
      Fault options columns (.columnType entry) (.unknownType name descriptor.type)
  | keysExist {given : TableOptions} {keys : List Label} {key : Label}
      (gives : options.GivesOptions given) (listed : given.primaryKeys.ListsNames keys)
      (member : key ∈ keys) (missing : ¬ columns.HasColumn key) :
      Fault options columns .keysExist .primaryKeyMissing
  | keysListed {given : TableOptions} {keys : List Label} {before after : List (Label × Column)}
      {entry : Label × Column} (reads : Reads options columns given keys (before ++ entry :: after))
      (earlier : ∀ other ∈ before, other.2.primaryKey = true → other.1.IsAmong keys)
      (flagged : entry.2.primaryKey = true) (unlisted : ¬ entry.1.IsAmong keys) :
      Fault options columns .keysListed (.primaryKeyUnlisted entry.1)
  | flaggedOnce {held : List (Label × Column)} (holds : columns.HoldsColumns held)
      (twice : 1 < (flagged held).length) : Fault options columns .flaggedOnce .autoIncrementTwice
  | flagAgrees {given : TableOptions} {held : List (Label × Column)} {flag : Label}
      {others : List Label} (gives : options.GivesOptions given) (holds : columns.HoldsColumns held)
      (first : flagged held = flag :: others) (asked : given.autoIncrement ≠ .null)
      (differs : given.autoIncrement.isText flag.content = false) :
      Fault options columns .flagAgrees (.autoIncrementConflict flag given.autoIncrement)
  | countsText {given : TableOptions} (gives : options.GivesOptions given)
      (asked : given.autoIncrement ≠ .null) (noText : ¬ given.autoIncrement.IsLabel) :
      Fault options columns .countsText .autoIncrementNotText
  | countsKey {given : TableOptions} {keys : List Label} {held : List (Label × Column)} {name : Label}
      (reads : Reads options columns given keys held)
      (counts : effectiveAutoIncrement given.autoIncrement held = .label name)
      (noKey : ¬ name.IsAmong keys) : Fault options columns .countsKey .autoIncrementNotKey
  | countsAlone {given : TableOptions} {keys : List Label} {held : List (Label × Column)}
      {name : Label} (reads : Reads options columns given keys held)
      (counts : effectiveAutoIncrement given.autoIncrement held = .label name)
      (several : keys.length ≠ 1) : Fault options columns .countsAlone .autoIncrementManyKeys
  | countsInteger {given : TableOptions} {held : List (Label × Column)} {name : Label}
      (gives : options.GivesOptions given) (holds : columns.HoldsColumns held)
      (counts : effectiveAutoIncrement given.autoIncrement held = .label name)
      (noInteger : ∀ column, column? held name = some column → column.type ≠ .integer) :
      Fault options columns .countsInteger .autoIncrementNotInteger
  | uniqueKeys {given : TableOptions} (gives : options.GivesOptions given)
      (asked : given.uniqueKeys ≠ .null) (noSequence : ∀ items, ¬ given.uniqueKeys.IsSequence items) :
      Fault options columns .uniqueKeys .uniqueKeysShape
  | group {group : Value}
      (noGroup : ∀ names : List Label, group.IsSequence (names.map .label) → names = []) :
      Fault options columns (.group group) .uniqueKeysShape
  | groupColumns {group : Value} {before after : List Label} {name : Label}
      (shape : group.IsSequence ((before ++ name :: after).map .label))
      (earlier : ∀ other ∈ before, columns.HasColumn other) (missing : ¬ columns.HasColumn name) :
      Fault options columns (.groupColumns group) (.uniqueKeyMissing name)
  | rowNumbers {given : TableOptions} {held : List (Label × Column)}
      (gives : options.GivesOptions given) (holds : columns.HoldsColumns held)
      (counts : effectiveAutoIncrement given.autoIncrement held ≠ .null)
      (without : given.withoutRowid.truth = true) :
      Fault options columns .rowNumbers .autoIncrementWithoutRowid

end Schema

end TableModel
