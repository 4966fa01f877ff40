/-
# TableModel.Proofs.Schema.Spellings — every spelling of a definition makes the same schema

The options of a table and the descriptors of its columns are records or mappings, a single primary
key is a name or a list of one, lists are as good as tuples, a type has several aliases, and a flag is
any value of the right truth. Definitions that differ in nothing else are refused for the same reason,
or they make the same schema, and with it the same text that creates the table.

Validation has a chain of readers, some of which look at what others have read. Each reader is shown
to read the same from values that spell the same, also when it refuses them; so there is nothing left
to be said about the rules that compare keys, flags and groups with each other.
-/
import TableModel.Model.Basic
import TableModel.Proofs.Schema.Restated

namespace TableModel

open Value

/-! ## Types -/

/-- Two values name one type, or they are the same. -/
inductive Value.TypesAlike : Value → Value → Prop
  | same (value : Value) : TypesAlike value value
  | spelled {type : ColumnType} {value other : Value} (left : value.GivesType type)
      (right : other.GivesType type) : TypesAlike value other

theorem ColumnType.ofValue_congr (name : Label) {value other : Value} (alike : value.TypesAlike other) :
    ofValue name value = ofValue name other := by
  cases alike with
  | same => rfl
  | spelled left right => rw [ofValue_eq_ok.mpr left, ofValue_eq_ok.mpr right]

/-! ## Descriptors -/

namespace Descriptor

/-- The flags of a descriptor. -/
def flags (descriptor : Descriptor) : List Value :=
  [descriptor.primaryKey, descriptor.notNull, descriptor.unique, descriptor.autoIncrement]

/-- The keys of the flags. -/
def flagKeys : List String :=
  ["primary_key", "not_null", "unique", "auto_increment"]

/-- A descriptor with nothing but defaults: no type, no flags and no default value. -/
def bare : Descriptor :=
  ⟨.null, .bool false, .bool false, .bool false, .bool false, .null⟩

/-- A value spells a descriptor: it is a record, or the mapping of the record's fields, in which
fields at their defaults may be missing. -/
inductive SpelledAs (descriptor : Descriptor) : Value → Prop
  | record : SpelledAs descriptor (.descriptor descriptor.type descriptor.primaryKey
      descriptor.notNull descriptor.unique descriptor.autoIncrement descriptor.defaultValue)
  | mapping {entries : List (Value × Value)}
      (given : AreFieldsBut bare.fields descriptor.fields entries) :
      SpelledAs descriptor (.map entries)

/-- Two descriptors are equal but for the spelling of the type and for the flags, which have the same
truth. -/
structure Respelled (descriptor other : Descriptor) : Prop where
  type : descriptor.type.TypesAlike other.type
  flags : descriptor.flags.map truth = other.flags.map truth
  defaultValue : descriptor.defaultValue = other.defaultValue

theorem Respelled.refl (descriptor : Descriptor) : descriptor.Respelled descriptor :=
  ⟨.same _, rfl, rfl⟩

theorem Respelled.column_eq {descriptor other : Descriptor} (respelled : descriptor.Respelled other)
    (type : ColumnType) : descriptor.column type = other.column type := by
  have flags := respelled.flags
  simp only [Descriptor.flags, List.map_cons, List.map_nil, List.cons.injEq, and_true] at flags
  obtain ⟨primaryKey, notNull, unique, autoIncrement⟩ := flags
  rw [column, column, primaryKey, notNull, unique, autoIncrement, respelled.defaultValue]

/-- What spells a descriptor gives it, but for flags that are left out and so are null. -/
theorem SpelledAs.exists_given {descriptor : Descriptor} {value : Value}
    (spelled : descriptor.SpelledAs value) : ∃ read, value.GivesDescriptor read ∧
      read.type = descriptor.type ∧ read.flags.map truth = descriptor.flags.map truth ∧
      read.defaultValue = descriptor.defaultValue := by
  cases spelled with
  | record => exact ⟨descriptor, .record .., rfl, rfl, rfl⟩
  | @mapping entries given =>
    have distinct : (descriptor.fields.map Prod.fst).Nodup := show keys.Nodup by decide
    have plain : ∀ name value, (name, value) ∈ descriptor.fields → name ∉ flagKeys →
        field name entries = value := by
      intro name value member noFlag
      refine given.read_field id distinct member fun default => ?_
      have null : ∀ field ∈ bare.fields, field.1 ∉ flagKeys → field.2 = .null := by
        simp [fields, bare, flagKeys]
      exact null _ default noFlag
    have flag : ∀ name value, (name, value) ∈ descriptor.fields →
        (field name entries).truth = value.truth := by
      intro name value member
      refine given.read_field truth distinct member fun default => ?_
      have off : ∀ field ∈ bare.fields, field.2.truth = Value.null.truth := by
        simp [fields, bare, truth]
      exact off _ default
    refine ⟨_, .mapping given.hasKeysOf, ?_, ?_, ?_⟩
    · exact plain "type" _ (by simp [fields]) (by decide)
    · simp only [flags, List.map_cons, List.map_nil]
      rw [flag "primary_key" descriptor.primaryKey (by simp [fields]),
        flag "not_null" descriptor.notNull (by simp [fields]),
        flag "unique" descriptor.unique (by simp [fields]),
        flag "auto_increment" descriptor.autoIncrement (by simp [fields])]
    · exact plain "default_value" _ (by simp [fields]) (by decide)

end Descriptor

/-- Two values under the key of a descriptor's field are the same, or they are flags of the same truth,
or spellings of one type. -/
def Value.DescriptorFieldsAlike (key value other : Value) : Prop :=
  value = other ∨
    (∃ name ∈ Descriptor.flagKeys, key.isText name = true) ∧ value.truth = other.truth ∨
    key.isText "type" = true ∧ value.TypesAlike other

/-- Two values spell one descriptor, or they are mappings with the same keys, known or unknown, of which
that holds entry by entry. -/
inductive Value.DescriptorsAlike : Value → Value → Prop
  | same (value : Value) : DescriptorsAlike value value
  | spelled {descriptor descriptor' : Descriptor} {value other : Value}
      (left : descriptor.SpelledAs value) (right : descriptor'.SpelledAs other)
      (respelled : descriptor.Respelled descriptor') : DescriptorsAlike value other
  | entries {entries others : List (Value × Value)}
      (each : EntriesAlike DescriptorFieldsAlike entries others) :
      DescriptorsAlike (.map entries) (.map others)

section Fields

variable {entries others : List (Value × Value)}

/-- Flags of alike entries have the same truth. -/
theorem truth_of_descriptorEntries (each : EntriesAlike DescriptorFieldsAlike entries others)
    {name : String} (flag : name ≠ "type") :
    (field name entries).truth = (field name others).truth := by
  obtain ⟨key, named, same | ⟨-, same⟩ | ⟨typed, -⟩⟩ := each.field (fun _ _ => .inl rfl) name
  · rw [same]
  · exact same
  · exact absurd (eq_of_isText named typed) flag

theorem types_of_descriptorEntries (each : EntriesAlike DescriptorFieldsAlike entries others) :
    (field "type" entries).TypesAlike (field "type" others) := by
  obtain ⟨key, named, same | ⟨⟨flag, listed, flagged⟩, -⟩ | ⟨-, alike⟩⟩ :=
    each.field (fun _ _ => .inl rfl) "type"
  · exact same ▸ .same _
  · rw [← eq_of_isText named flagged] at listed
    exact absurd listed (by decide)
  · exact alike

theorem default_of_descriptorEntries (each : EntriesAlike DescriptorFieldsAlike entries others) :
    field "default_value" entries = field "default_value" others := by
  obtain ⟨key, named, same | ⟨⟨flag, listed, flagged⟩, -⟩ | ⟨typed, -⟩⟩ :=
    each.field (fun _ _ => .inl rfl) "default_value"
  · exact same
  · rw [← eq_of_isText named flagged] at listed
    exact absurd listed (by decide)
  · exact absurd (eq_of_isText named typed) (by decide)

end Fields

namespace Descriptor

/-- Alike descriptors are refused for the same reason, or they are read as respelled ones. -/
theorem agree_of_descriptorsAlike (name : Label) {value other : Value}
    (alike : value.DescriptorsAlike other) :
    ChecksAgree Respelled (ofValue name value) (ofValue name other) := by
  cases alike with
  | same =>
    exact (ChecksAgree.refl (ofValue name value)).mono fun descriptor _ same => same ▸ .refl descriptor
  | spelled left right respelled =>
    obtain ⟨read, gives, type, flags, default⟩ := left.exists_given
    obtain ⟨read', gives', type', flags', default'⟩ := right.exists_given
    rw [ofValue_eq_ok.mpr gives, ofValue_eq_ok.mpr gives']
    refine .passed ⟨?_, ?_, ?_⟩
    · rw [type, type']
      exact respelled.type
    · rw [flags, flags', respelled.flags]
    · rw [default, default', respelled.defaultValue]
  | @entries entries others each =>
    unfold ofValue
    dsimp only
    rw [each.unknownKeys_eq keys]
    cases unknownKeys keys others with
    | nil =>
      refine .passed ⟨types_of_descriptorEntries each, ?_, default_of_descriptorEntries each⟩
      simp only [flags, List.map_cons, List.map_nil]
      rw [truth_of_descriptorEntries each (show "primary_key" ≠ "type" by decide),
        truth_of_descriptorEntries each (show "not_null" ≠ "type" by decide),
        truth_of_descriptorEntries each (show "unique" ≠ "type" by decide),
        truth_of_descriptorEntries each (show "auto_increment" ≠ "type" by decide)]
    | cons key rest =>
      dsimp only
      cases sortedContents? (key :: rest) with
      | none => exact .failed _
      | some names => exact .failed _

end Descriptor

/-! ## Columns -/

/-- Alike descriptors make the same column, or none. -/
theorem Column.ofValue_congr (name : Label) {value other : Value}
    (alike : value.DescriptorsAlike other) : ofValue name value = ofValue name other := by
  unfold ofValue
  refine ChecksAgree.eq ((Descriptor.agree_of_descriptorsAlike name alike).bind ?_)
  intro descriptor descriptor' respelled
  rw [respelled.defaultValue, ColumnType.ofValue_congr name respelled.type]
  simp only [respelled.column_eq]
  exact ChecksAgree.refl _

/-- Two values declare the same columns, with descriptors that are spelled alike. -/
inductive Value.ColumnsAlike : Value → Value → Prop
  | same (value : Value) : ColumnsAlike value value
  | entries {entries others : List (Value × Value)}
      (each : EntriesAlike (fun _ => DescriptorsAlike) entries others) :
      ColumnsAlike (.map entries) (.map others)

namespace Schema

theorem readColumn_congr {entry other : Value × Value} (key : entry.1 = other.1)
    (alike : entry.2.DescriptorsAlike other.2) : readColumn entry = readColumn other := by
  unfold readColumn
  rw [key]
  cases other.1.name? with
  | none => rfl
  | some name =>
    dsimp only
    rw [Column.ofValue_congr name alike]

theorem readColumns_congr {value other : Value} (alike : value.ColumnsAlike other) :
    readColumns value = readColumns other := by
  cases alike with
  | same => rfl
  | @entries entries others each =>
    have traversed : entries.mapM readColumn = others.mapM readColumn :=
      mapM_eq_of_forall₂ (each.imp fun _ _ alike => readColumn_congr alike.1 alike.2)
    cases each with
    | nil => rfl
    | cons first rest =>
      unfold readColumns
      dsimp only
      rw [traversed]

/-! ## Keys and groups -/

theorem readPrimaryKeys_congr {value other : Value} (alike : value.ListsAlike other) :
    readPrimaryKeys value = readPrimaryKeys other := by
  rw [readPrimaryKeys, readPrimaryKeys, alike.names?_eq]

variable (columns : List (Label × Column))

theorem readUniqueKey_congr {group other : Value} (alike : group.AlikeUpTo Eq other) :
    readUniqueKey columns group = readUniqueKey columns other := by
  cases alike with
  | leaf same => rw [same]
  | sequence left right each =>
    have traversed := mapM_eq_of_forall₂ (each.imp fun _ _ alike => AlikeUpTo.label?_eq alike)
    unfold readUniqueKey
    rw [sequence?_eq_some.mpr left, sequence?_eq_some.mpr right]
    cases each with
    | nil => rfl
    | cons first rest =>
      dsimp only
      rw [traversed]

theorem readUniqueKeys_of_isSequence {value : Value} {groups : List Value}
    (shape : value.IsSequence groups) :
    readUniqueKeys columns value = groups.mapM (readUniqueKey columns) := by
  cases shape <;> rfl

theorem readUniqueKeys_congr {value other : Value} (alike : value.AlikeUpTo Eq other) :
    readUniqueKeys columns value = readUniqueKeys columns other := by
  cases alike with
  | leaf same => rw [same]
  | sequence left right each =>
    rw [readUniqueKeys_of_isSequence columns left, readUniqueKeys_of_isSequence columns right]
    exact mapM_eq_of_forall₂ (each.imp fun _ _ alike => readUniqueKey_congr columns alike)

end Schema

/-! ## Options -/

namespace TableOptions

/-- A value spells options: it is a record, or the mapping of the record's fields, in which fields that
are null may be missing. -/
inductive SpelledAs (options : TableOptions) : Value → Prop
  | record : SpelledAs options (.tableOptions options.tableName options.primaryKeys
      options.autoIncrement options.uniqueKeys options.withoutRowid)
  | mapping {entries : List (Value × Value)}
      (given : AreFieldsBut (fields ⟨.null, .null, .null, .null, .null⟩) options.fields entries) :
      SpelledAs options (.map entries)

/-- Two bundles of options are equal but for the shapes in which keys and groups are given. -/
structure Respelled (options other : TableOptions) : Prop where
  tableName : options.tableName = other.tableName
  primaryKeys : options.primaryKeys.ListsAlike other.primaryKeys
  autoIncrement : options.autoIncrement = other.autoIncrement
  uniqueKeys : options.uniqueKeys.AlikeUpTo Eq other.uniqueKeys
  withoutRowid : options.withoutRowid = other.withoutRowid

theorem Respelled.refl (options : TableOptions) : options.Respelled options :=
  ⟨rfl, .same _, rfl, .leaf rfl, rfl⟩

theorem SpelledAs.gives {options : TableOptions} {value : Value} (spelled : options.SpelledAs value) :
    value.GivesOptions options := by
  cases spelled with
  | record => exact .record ..
  | @mapping entries given =>
    have distinct : (options.fields.map Prod.fst).Nodup := show keys.Nodup by decide
    have null : ∀ field ∈ fields ⟨.null, .null, .null, .null, .null⟩, field.2 = .null := by
      simp [fields]
    have each : ∀ name value, (name, value) ∈ options.fields → field name entries = value :=
      fun _ _ member => given.field_eq null distinct member
    have read : (Value.map entries).GivesOptions _ := .mapping given.hasKeysOf
    rwa [each "table_name" options.tableName (by simp [fields]),
      each "primary_keys" options.primaryKeys (by simp [fields]),
      each "auto_increment" options.autoIncrement (by simp [fields]),
      each "unique_keys" options.uniqueKeys (by simp [fields]),
      each "without_rowid" options.withoutRowid (by simp [fields])] at read

end TableOptions

/-- Two values under the key of an option are the same, or they give the same primary keys or the same
groups in other shapes. -/
def Value.OptionFieldsAlike (key value other : Value) : Prop :=
  value = other ∨ key.isText "primary_keys" = true ∧ value.ListsAlike other ∨
    key.isText "unique_keys" = true ∧ value.AlikeUpTo Eq other

/-- Two values spell the same options, or they are mappings with the same keys, known or unknown, of
which that holds entry by entry. -/
inductive Value.OptionsAlike : Value → Value → Prop
  | same (value : Value) : OptionsAlike value value
  | spelled {options options' : TableOptions} {value other : Value} (left : options.SpelledAs value)
      (right : options'.SpelledAs other) (respelled : options.Respelled options') :
      OptionsAlike value other
  | entries {entries others : List (Value × Value)}
      (each : EntriesAlike OptionFieldsAlike entries others) :
      OptionsAlike (.map entries) (.map others)

namespace TableOptions

/-- Alike options are refused for the same reason, or they are read as respelled ones. -/
theorem agree_of_optionsAlike {value other : Value} (alike : value.OptionsAlike other) :
    ChecksAgree Respelled (ofValue value) (ofValue other) := by
  cases alike with
  | same =>
    exact (ChecksAgree.refl (ofValue value)).mono fun options _ same => same ▸ .refl options
  | spelled left right respelled =>
    rw [ofValue_eq_ok.mpr left.gives, ofValue_eq_ok.mpr right.gives]
    exact .passed respelled
  | @entries entries others each =>
    have under := each.field fun _ _ => .inl rfl
    have apart : ∀ name, name ≠ "primary_keys" → name ≠ "unique_keys" →
        field name entries = field name others := by
      intro name noKeys noGroups
      obtain ⟨key, named, same | ⟨keyed, -⟩ | ⟨grouped, -⟩⟩ := under name
      · exact same
      · exact absurd (eq_of_isText named keyed) noKeys
      · exact absurd (eq_of_isText named grouped) noGroups
    unfold ofValue
    dsimp only
    rw [each.unknownKeys_eq keys]
    cases unknownKeys keys others with
    | nil =>
      refine .passed ⟨apart _ (by decide) (by decide), ?_, apart _ (by decide) (by decide), ?_,
        apart _ (by decide) (by decide)⟩
      · obtain ⟨key, named, same | ⟨-, alike⟩ | ⟨grouped, -⟩⟩ := under "primary_keys"
        · exact same ▸ .same _
        · exact alike
        · exact absurd (eq_of_isText named grouped) (by decide)
      · obtain ⟨key, named, same | ⟨keyed, -⟩ | ⟨-, alike⟩⟩ := under "unique_keys"
        · exact .leaf same
        · exact absurd (eq_of_isText named keyed) (by decide)
        · exact alike
    | cons key rest => exact .failed _

end TableOptions

/-! ## Definitions -/

namespace Schema

/-- Two definitions are spellings of one. -/
structure Respelled (options columns options' columns' : Value) : Prop where
  options : options.OptionsAlike options'
  columns : columns.ColumnsAlike columns'

theorem ofDefinition_congr {options columns options' columns' : Value}
    (respelled : Respelled options columns options' columns') :
    ofDefinition options columns = ofDefinition options' columns' := by
  unfold ofDefinition
  refine ChecksAgree.eq ((TableOptions.agree_of_optionsAlike respelled.options).bind ?_)
  intro given given' same
  rw [same.tableName, readPrimaryKeys_congr same.primaryKeys, readColumns_congr respelled.columns,
    same.autoIncrement, same.withoutRowid]
  simp only [readUniqueKeys_congr _ same.uniqueKeys]
  exact ChecksAgree.refl _

/-- Definitions that are spellings of one do the same: they make the same schema, and with it the same
text that creates the table and the same record in the log, or they fail with the same error. -/
theorem define_of_respelled {options columns options' columns' : Value}
    (respelled : Respelled options columns options' columns') :
    define options columns = define options' columns' ∧
      (ofDefinition options columns).map createTableText
        = (ofDefinition options' columns').map createTableText := by
  rw [define, define, ofDefinition_congr respelled]
  exact ⟨rfl, rfl⟩

/-- A table of members with a key that counts up and a group of unique columns. -/
def membersOptions : Value :=
  .tableOptions (.text "members") (.text "id") .null
    (.list [.list [.text "name", .text "email"]]) .null

/-- The options as a mapping, with tuples for lists and the missing ones left out. -/
def membersOptionsAgain : Value :=
  .map [(.text "unique_keys", .tuple [.tuple [.text "name", .text "email"]]),
    (.text "without_rowid", .null), (.text "table_name", .text "members"),
    (.text "primary_keys", .tuple [.text "id"])]

/-- The columns, two as records and one as a mapping. -/
def membersColumns : Value :=
  .map [(.text "id", .descriptor (.text "int") (.bool true) (.bool false) (.bool false) (.bool true) .null),
    (.text "name", .descriptor (.text "varchar") (.bool false) (.bool true) (.bool false) (.bool false)
      (.text "nobody")),
    (.text "email", .map [(.text "type", .text "char"), (.text "unique", .bool true)])]

/-- The columns with other aliases and flags, and the first one as a mapping without the flags that are
off. -/
def membersColumnsAgain : Value :=
  .map [(.text "id", .map [(.text "auto_increment", .text "yes"), (.text "default_value", .null),
      (.text "type", .label (.columnType .integer)), (.text "primary_key", .int 2)]),
    (.text "name", .descriptor (.text " TEXT ") (.text "") (.list [.null]) (.int 0) .null
      (.text "nobody")),
    (.text "email", .map [(.text "type", .text "String"), (.text "unique", .int (-1))])]

theorem membersOptions_alike : membersOptions.OptionsAlike membersOptionsAgain := by
  let options : TableOptions :=
    ⟨.text "members", .text "id", .null, .list [.list [.text "name", .text "email"]], .null⟩
  let options' : TableOptions :=
    ⟨.text "members", .tuple [.text "id"], .null, .tuple [.tuple [.text "name", .text "email"]], .null⟩
  have mapping : options'.SpelledAs membersOptionsAgain := by
    refine .mapping ⟨[("auto_increment", .null)], by simp [TableOptions.fields], ?_⟩
    -- the last two fields stand before the first three
    have turned : (options'.fields.drop 3 ++ options'.fields.take 3).Perm
        (options'.fields.take 3 ++ options'.fields.drop 3) := List.perm_append_comm
    exact turned.map fun field => (Value.text field.1, field.2)
  have group : AlikeUpTo Eq (.list [.text "name", .text "email"]) (.tuple [.text "name", .text "email"]) :=
    .sequence (.list _) (.tuple _) (.cons (.leaf rfl) (.cons (.leaf rfl) .nil))
  have respelled : options.Respelled options' := {
    tableName := rfl
    primaryKeys := .items (.alone _) (.sequence (.tuple _)) (.cons (.leaf rfl) .nil)
    autoIncrement := rfl
    uniqueKeys := .sequence (.list _) (.tuple _) (.cons group .nil)
    withoutRowid := rfl }
  exact .spelled .record mapping respelled

theorem membersColumns_alike : membersColumns.ColumnsAlike membersColumnsAgain := by
  have int : Value.GivesType (.text "int") .integer := .spelling (by decide)
  have varchar : Value.GivesType (.text "varchar") .text := .spelling (by decide)
  have text : Value.GivesType (.text " TEXT ") .text := .spelling (by decide)
  have char : Value.GivesType (.text "char") .text := .spelling (by decide)
  have string : Value.GivesType (.text "String") .text := .spelling (by decide)
  let id : Descriptor := ⟨.text "int", .bool true, .bool false, .bool false, .bool true, .null⟩
  let id' : Descriptor :=
    ⟨.label (.columnType .integer), .int 2, .bool false, .bool false, .text "yes", .null⟩
  let name : Descriptor :=
    ⟨.text "varchar", .bool false, .bool true, .bool false, .bool false, .text "nobody"⟩
  let name' : Descriptor :=
    ⟨.text " TEXT ", .text "", .list [.null], .int 0, .null, .text "nobody"⟩
  have mapping : id'.SpelledAs (.map [(.text "auto_increment", .text "yes"),
      (.text "default_value", .null), (.text "type", .label (.columnType .integer)),
      (.text "primary_key", .int 2)]) := by
    refine .mapping ⟨[("not_null", .bool false), ("unique", .bool false)],
      by simp [Descriptor.fields, Descriptor.bare], ?_⟩
    have turned : (id'.fields.drop 4 ++ id'.fields.take 4).Perm
        (id'.fields.take 4 ++ id'.fields.drop 4) := List.perm_append_comm
    exact turned.map fun field => (Value.text field.1, field.2)
  have ids : DescriptorsAlike _ _ :=
    .spelled (.record : id.SpelledAs _) mapping ⟨.spelled int (.member .integer), rfl, rfl⟩
  have names : DescriptorsAlike _ _ :=
    .spelled (.record : name.SpelledAs _) (.record : name'.SpelledAs _)
      ⟨.spelled varchar text, rfl, rfl⟩
  have emails : DescriptorsAlike (.map [(.text "type", .text "char"), (.text "unique", .bool true)])
      (.map [(.text "type", .text "String"), (.text "unique", .int (-1))]) :=
    .entries (.cons ⟨rfl, .inr (.inr ⟨rfl, .spelled char string⟩)⟩
      (.cons ⟨rfl, .inr (.inl ⟨⟨"unique", by decide, rfl⟩, rfl⟩)⟩ .nil))
  exact .entries (.cons ⟨rfl, ids⟩ (.cons ⟨rfl, names⟩ (.cons ⟨rfl, emails⟩ .nil)))

/-- Both spellings make the same table. -/
theorem members_is_respelled :
    Respelled membersOptions membersColumns membersOptionsAgain membersColumnsAgain ∧
      (define membersOptions membersColumns = define membersOptionsAgain membersColumnsAgain ∧
        (ofDefinition membersOptions membersColumns).map createTableText
          = (ofDefinition membersOptionsAgain membersColumnsAgain).map createTableText) ∧
      (ofDefinition membersOptionsAgain membersColumnsAgain).map createTableText
        = .ok ("CREATE TABLE `members` (id integer PRIMARY KEY AUTOINCREMENT, name text NOT NULL "
          ++ "DEFAULT 'nobody', email text UNIQUE, UNIQUE (name, email));") := by
  have respelled : Respelled membersOptions membersColumns membersOptionsAgain membersColumnsAgain :=
    ⟨membersOptions_alike, membersColumns_alike⟩
  exact ⟨respelled, define_of_respelled respelled, rfl⟩

end Schema

end TableModel
