/-
# TableModel.Proofs.Schema.Reading — what the parts of a definition say

The options, the descriptors and the columns of a definition arrive as dynamic values and are read
by functions that check as they go. Here what a value gives is said without checks: which options a
record or a mapping gives, which type a text names, which columns a mapping declares. Each reader is
shown to succeed on exactly the values that give something, and with exactly that.
-/
import TableModel.Keyed
import TableModel.Proofs.Value.Names
import TableModel.Schema.Validation

namespace TableModel

/-! ## Options -/

/-- A value gives table options: as a record, or as a mapping that has known keys only and whose
other fields are null. -/
inductive Value.GivesOptions : Value → TableOptions → Prop
  | record (tableName primaryKeys autoIncrement uniqueKeys withoutRowid : Value) :
      GivesOptions (.tableOptions tableName primaryKeys autoIncrement uniqueKeys withoutRowid)
        ⟨tableName, primaryKeys, autoIncrement, uniqueKeys, withoutRowid⟩
  | mapping {entries : List (Value × Value)} (known : HasKeysOf TableOptions.keys entries) :
      GivesOptions (.map entries)
        ⟨field "table_name" entries, field "primary_keys" entries, field "auto_increment" entries,
          field "unique_keys" entries, field "without_rowid" entries⟩

theorem TableOptions.ofValue_eq_ok {value : Value} {options : TableOptions} :
    ofValue value = .ok options ↔ value.GivesOptions options := by
  constructor
  · intro h
    cases value with
    | tableOptions t p a u w =>
      obtain rfl := Except.ok.inj h
      exact .record t p a u w
    | map entries =>
      simp only [ofValue] at h
      split at h
      · rename_i known
        obtain rfl := Except.ok.inj h
        exact .mapping (Value.unknownKeys_eq_nil.mp known)
      · simp at h
    | _ => simp [ofValue] at h
  · intro h
    cases h with
    | record => rfl
    | mapping known => simp only [ofValue, Value.unknownKeys_eq_nil.mpr known]

theorem Value.GivesOptions.known {value : Value} {options : TableOptions}
    (gives : value.GivesOptions options) : HasKeysOf TableOptions.keys value.members := by
  cases gives with
  | record => exact List.forall_mem_nil _
  | mapping known => exact known

/-! ## Columns -/

/-- A value gives the descriptor of a column: as a record, or as a mapping that has known keys only
and whose other fields are null. -/
inductive Value.GivesDescriptor : Value → Descriptor → Prop
  | record (type primaryKey notNull unique autoIncrement defaultValue : Value) :
      GivesDescriptor (.descriptor type primaryKey notNull unique autoIncrement defaultValue)
        ⟨type, primaryKey, notNull, unique, autoIncrement, defaultValue⟩
  | mapping {entries : List (Value × Value)} (known : HasKeysOf Descriptor.keys entries) :
      GivesDescriptor (.map entries)
        ⟨field "type" entries, field "primary_key" entries, field "not_null" entries,
          field "unique" entries, field "auto_increment" entries, field "default_value" entries⟩

theorem Descriptor.ofValue_eq_ok {name : Label} {value : Value} {descriptor : Descriptor} :
    ofValue name value = .ok descriptor ↔ value.GivesDescriptor descriptor := by
  constructor
  · intro h
    cases value with
    | descriptor t p n u a d =>
      obtain rfl := Except.ok.inj h
      exact .record t p n u a d
    | map entries =>
      simp only [ofValue] at h
      split at h
      · rename_i known
        obtain rfl := Except.ok.inj h
        exact .mapping (Value.unknownKeys_eq_nil.mp known)
      · split at h <;> simp at h
    | _ => simp [ofValue] at h
  · intro h
    cases h with
    | record => rfl
    | mapping known => simp only [ofValue, Value.unknownKeys_eq_nil.mpr known]

theorem Value.GivesDescriptor.known {value : Value} {descriptor : Descriptor}
    (gives : value.GivesDescriptor descriptor) : HasKeysOf Descriptor.keys value.members := by
  cases gives with
  | record => exact List.forall_mem_nil _
  | mapping known => exact known

/-- A value names a type: it is the type itself, or a text that is one of the aliases but for its
letter case and the blanks around it. -/
inductive Value.GivesType : Value → ColumnType → Prop
  | member (type : ColumnType) : GivesType (.label (.columnType type)) type
  | spelling {name : Label} {type : ColumnType}
      (spelled : (Text.lower (Text.strip name.content), type) ∈ ColumnType.aliases) :
      GivesType (.label name) type

/-- No alias names two types, so the first one that is found is the only one. -/
theorem ColumnType.lookup_aliases {word : String} {type : ColumnType} :
    aliases.lookup word = some type ↔ (word, type) ∈ aliases := by
  have distinct : (aliases.map Prod.fst).Nodup := by decide
  exact Keyed.find?_eq_some_iff_mem distinct

theorem ColumnType.ofValue_eq_ok {name : Label} {value : Value} {type : ColumnType} :
    ofValue name value = .ok type ↔ value.GivesType type := by
  constructor
  · intro h
    unfold ofValue at h
    split at h
    · obtain rfl := Except.ok.inj h
      exact .member _
    · rename_i spelling _
      split at h
      · rename_i found hfound
        obtain rfl := Except.ok.inj h
        exact .spelling (lookup_aliases.mp hfound)
      · simp at h
    · simp at h
  · intro h
    cases h with
    | member => rfl
    | @spelling name _ spelled =>
      have hfound : ofSpelling? name.content = some type := lookup_aliases.mpr spelled
      cases name with
      | columnType other =>
        -- the word of a type is an alias of that type itself
        have hself : ofSpelling? other.word = some other := by cases other <;> decide
        obtain rfl : other = type := Option.some.inj (hself.symm.trans hfound)
        rfl
      | plain text =>
        unfold ofValue
        dsimp only
        rw [hfound]
      | statementKind kind =>
        unfold ofValue
        dsimp only
        rw [hfound]

/-- A value gives a default value: itself, and none if it is null. -/
inductive Value.GivesDefault : Value → Option Value → Prop
  | none : GivesDefault .null none
  | some {value : Value} (given : value ≠ .null) : GivesDefault value (some value)

theorem Value.present?_eq_iff {value : Value} {default : Option Value} :
    value.present? = default ↔ value.GivesDefault default := by
  constructor
  · rintro rfl
    cases value with
    | null => exact .none
    | _ => exact .some (by simp)
  · intro gives
    cases gives with
    | none => rfl
    | some given =>
      cases value with
      | null => exact absurd rfl given
      | _ => rfl

/-- A descriptor describes a column: it names the column's type, its flags count as true where the
column has them, its default value is the column's, and this is none of the floating-point numbers
that are not finite. -/
structure Descriptor.Describes (descriptor : Descriptor) (column : Column) : Prop where
  type : descriptor.type.GivesType column.type
  primaryKey : descriptor.primaryKey.truth = column.primaryKey
  notNull : descriptor.notNull.truth = column.notNull
  unique : descriptor.unique.truth = column.unique
  autoIncrement : descriptor.autoIncrement.truth = column.autoIncrement
  defaultValue : descriptor.defaultValue.GivesDefault column.defaultValue
  finite : ∀ x, descriptor.defaultValue = .float x → x.isFinite = true

/-- A value gives a column: its descriptor describes it. -/
def Value.GivesColumn (value : Value) (column : Column) : Prop :=
  ∃ descriptor, value.GivesDescriptor descriptor ∧ descriptor.Describes column

/-- The column that is made of a descriptor is the one that it describes. -/
theorem Descriptor.describes_iff {descriptor : Descriptor} {column : Column} :
    descriptor.Describes column ↔
      (∀ x, descriptor.defaultValue = .float x → x.isFinite = true) ∧
        ∃ type, descriptor.type.GivesType type ∧ descriptor.column type = column := by
  constructor
  · intro describes
    refine ⟨describes.finite, column.type, describes.type, ?_⟩
    rw [Descriptor.column, describes.primaryKey, describes.notNull, describes.unique,
      describes.autoIncrement, Value.present?_eq_iff.mpr describes.defaultValue]
  · rintro ⟨finite, type, typed, rfl⟩
    exact ⟨typed, rfl, rfl, rfl, rfl, Value.present?_eq_iff.mp rfl, finite⟩

/-- What is done with a descriptor once it is read: its default value is checked, then its type. -/
theorem Column.ofValue_eq {name : Label} {value : Value} {descriptor : Descriptor}
    (read : Descriptor.ofValue name value = .ok descriptor) {column : Column} :
    ofValue name value = .ok column ↔
      (∀ x, descriptor.defaultValue = .float x → x.isFinite = true) ∧
        descriptor.column <$> ColumnType.ofValue name descriptor.type = .ok column := by
  unfold ofValue
  rw [read, ok_bind]
  cases hdefault : descriptor.defaultValue with
  | float x =>
    cases hx : x.isFinite with
    | false => simp [hx, bind_eq_ok]
    | true => simp [hx]
  | _ => simp

theorem Column.ofValue_eq_ok {name : Label} {value : Value} {column : Column} :
    ofValue name value = .ok column ↔ value.GivesColumn column := by
  constructor
  · intro h
    obtain ⟨descriptor, read, -⟩ := bind_eq_ok.mp h
    obtain ⟨finite, h⟩ := (ofValue_eq read).mp h
    obtain ⟨type, htype, made⟩ := map_eq_ok.mp h
    exact ⟨descriptor, Descriptor.ofValue_eq_ok.mp read,
      Descriptor.describes_iff.mpr ⟨finite, type, ColumnType.ofValue_eq_ok.mp htype, made⟩⟩
  · rintro ⟨descriptor, given, describes⟩
    obtain ⟨finite, type, typed, made⟩ := Descriptor.describes_iff.mp describes
    have read : Descriptor.ofValue name value = .ok descriptor := Descriptor.ofValue_eq_ok.mpr given
    exact (ofValue_eq read).mpr
      ⟨finite, map_eq_ok.mpr ⟨type, ColumnType.ofValue_eq_ok.mpr typed, made⟩⟩

/-- A mapping declares columns: it is not empty, its keys are names, and each value gives the column
of its key. -/
inductive Value.GivesColumns : Value → List (Label × Column) → Prop
  | mapping {entries : List (Value × Value)} {declared : List (Label × Column)} (given : entries ≠ [])
      (each : List.Forall₂ (fun entry column => entry.1 = .label column.1 ∧
        column.1.isEmpty = false ∧ entry.2.GivesColumn column.2) entries declared) :
      GivesColumns (.map entries) declared

/-- Declared columns have descriptors without other keys. -/
theorem Value.GivesColumns.known {value : Value} {declared : List (Label × Column)}
    (gives : value.GivesColumns declared) :
    ∀ entry ∈ value.members, HasKeysOf Descriptor.keys entry.2.members := by
  obtain ⟨-, each⟩ := gives
  rw [members_map]
  induction each with
  | nil => exact List.forall_mem_nil _
  | cons first _ ih =>
    obtain ⟨-, -, descriptor, gives, -⟩ := first
    exact List.forall_mem_cons.mpr ⟨gives.known, ih⟩

namespace Schema

/-- Declared columns under their names: of two columns with one name, the later stands in the place
of the first. -/
def collect (declared : List (Label × Column)) : List (Label × Column) :=
  declared.foldl (fun all column => putColumn column.1 column.2 all) []

/-- A column whose name is new comes last. -/
theorem putColumn_of_new {name : Label} (column : Column) {all : List (Label × Column)}
    (new : ∀ entry ∈ all, entry.1.same name = false) :
    putColumn name column all = all ++ [(name, column)] := by
  induction all with
  | nil => rfl
  | cons entry rest ih =>
    rw [List.forall_mem_cons] at new
    simp [putColumn, new.1, ih new.2]

/-- Columns with different names are collected as they are declared. -/
theorem collect_of_distinct {declared : List (Label × Column)}
    (distinct : declared.Pairwise fun entry other => entry.1.same other.1 = false) :
    collect declared = declared := by
  have fold : ∀ {all rest : List (Label × Column)},
      (all ++ rest).Pairwise (fun entry other => entry.1.same other.1 = false) →
      rest.foldl (fun all column => putColumn column.1 column.2 all) all = all ++ rest := by
    intro all rest
    induction rest generalizing all with
    | nil => simp
    | cons column rest ih =>
      intro distinct
      -- nothing collected so far has the name of the next column
      have new := (List.pairwise_append.mp distinct).2.2
      rw [List.foldl_cons, putColumn_of_new _ fun entry hentry => new entry hentry column (by simp),
        ih (by simpa using distinct), List.append_assoc]
      rfl
  exact fold distinct

theorem mem_putColumn {name : Label} {column : Column} {all : List (Label × Column)}
    {entry : Label × Column} (h : entry ∈ putColumn name column all) :
    entry.1 = name ∨ ∃ other ∈ all, other.1 = entry.1 := by
  induction all with
  | nil =>
    obtain rfl := List.mem_singleton.mp h
    exact .inl rfl
  | cons first rest ih =>
    rw [putColumn] at h
    split at h
    · -- the column is replaced and its name stays
      rcases List.mem_cons.mp h with rfl | h
      · exact .inr ⟨first, by simp, rfl⟩
      · exact .inr ⟨entry, by simp [h], rfl⟩
    · rcases List.mem_cons.mp h with rfl | h
      · exact .inr ⟨first, by simp, rfl⟩
      · rcases ih h with same | ⟨other, member, same⟩
        · exact .inl same
        · exact .inr ⟨other, by simp [member], same⟩

/-- No two columns of a table have one name. -/
def Distinct (columns : List (Label × Column)) : Prop :=
  columns.Pairwise fun entry other => entry.1.content ≠ other.1.content

theorem distinct_putColumn {name : Label} {column : Column} {all : List (Label × Column)}
    (distinct : Distinct all) : Distinct (putColumn name column all) := by
  induction all with
  | nil => exact List.pairwise_singleton _ _
  | cons first rest ih =>
    obtain ⟨others, distinct⟩ := List.pairwise_cons.mp distinct
    rw [putColumn]
    split
    · exact List.pairwise_cons.mpr ⟨others, distinct⟩
    · rename_i different
      refine List.pairwise_cons.mpr ⟨fun entry member => ?_, ih distinct⟩
      rcases mem_putColumn member with rfl | ⟨other, member, same⟩
      · rwa [Label.same_iff] at different
      · rw [← same]
        exact others other member

/-- Collected columns have different names. -/
theorem distinct_collect (declared : List (Label × Column)) : Distinct (collect declared) := by
  have fold : ∀ {all : List (Label × Column)}, Distinct all →
      Distinct (declared.foldl (fun all column => putColumn column.1 column.2 all) all) := by
    induction declared with
    | nil => exact fun distinct => distinct
    | cons column rest ih => exact fun distinct => ih (distinct_putColumn distinct)
  exact fold .nil

theorem readColumn_eq_ok {entry : Value × Value} {column : Label × Column} :
    readColumn entry = .ok column ↔
      entry.1 = .label column.1 ∧ column.1.isEmpty = false ∧ entry.2.GivesColumn column.2 := by
  unfold readColumn
  split
  · rename_i name hname
    obtain ⟨hkey, named⟩ := Value.name?_eq_some.mp hname
    rw [map_eq_ok, hkey]
    constructor
    · rintro ⟨column, hcolumn, rfl⟩
      exact ⟨rfl, named, Column.ofValue_eq_ok.mp hcolumn⟩
    · obtain ⟨other, column⟩ := column
      rintro ⟨hother, -, given⟩
      obtain rfl := Value.label.inj hother
      exact ⟨column, Column.ofValue_eq_ok.mpr given, rfl⟩
  · rename_i hnone
    simp only [reduceCtorEq, false_iff]
    rintro ⟨hkey, named, -⟩
    rw [Value.name?_eq_some.mpr ⟨hkey, named⟩] at hnone
    simp at hnone

theorem readColumns_eq_ok {value : Value} {columns : List (Label × Column)} :
    readColumns value = .ok columns ↔
      ∃ declared, value.GivesColumns declared ∧ collect declared = columns := by
  have each : ∀ {entries declared}, entries.mapM readColumn = .ok declared ↔
      List.Forall₂ (fun entry column => entry.1 = .label column.1 ∧
        column.1.isEmpty = false ∧ entry.2.GivesColumn column.2) entries declared := by
    intro entries declared
    simp only [mapM_eq_ok, readColumn_eq_ok]
  constructor
  · intro h
    unfold readColumns at h
    split at h
    · obtain ⟨declared, hdeclared, rfl⟩ := map_eq_ok.mp h
      exact ⟨declared, .mapping (by simp) (each.mp hdeclared), rfl⟩
    · simp at h
  · rintro ⟨declared, given, rfl⟩
    cases given with
    | @mapping entries _ given declares =>
      obtain ⟨entry, rest, rfl⟩ := List.exists_cons_of_ne_nil given
      exact map_eq_ok.mpr ⟨declared, each.mpr declares, rfl⟩

theorem readTableName_eq_ok {value : Value} {name : Label} :
    readTableName value = .ok name ↔ value = .label name ∧ name.isEmpty = false := by
  rw [← Value.name?_eq_some]
  unfold readTableName
  cases value.name? <;> simp

theorem readPrimaryKeys_eq_ok {value : Value} {names : List Label} :
    readPrimaryKeys value = .ok names ↔ value.ListsNames names := by
  rw [← Value.names?_eq_some]
  unfold readPrimaryKeys
  cases value.names? <;> simp

end Schema

end TableModel
