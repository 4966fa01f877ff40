/-
# TableModel.Schema.Definition — options and descriptors as they are given

Table options and column descriptors are given as records or as mappings with the same keys. Here
they are read into one form each, with every field still a dynamic value, and column types are
resolved. A key that is not among the documented ones is refused; a field that is not given is null.
-/
import TableModel.Schema.Error

namespace TableModel

/-! ## Table options -/

/-- The options of a table, as they are given. -/
structure TableOptions where
  tableName : Value
  primaryKeys : Value
  autoIncrement : Value
  uniqueKeys : Value
  withoutRowid : Value
  deriving Repr, Inhabited

namespace TableOptions

/-- The keys of table options. -/
def keys : List String :=
  ["table_name", "primary_keys", "auto_increment", "unique_keys", "without_rowid"]

/-- Options from a record or from a mapping with known keys. -/
def ofValue : Value → Except SchemaError TableOptions
  | .tableOptions tableName primaryKeys autoIncrement uniqueKeys withoutRowid =>
    .ok ⟨tableName, primaryKeys, autoIncrement, uniqueKeys, withoutRowid⟩
  | .map entries =>
    match Value.unknownKeys keys entries with
    | [] => .ok {
        tableName := Value.field "table_name" entries
        primaryKeys := Value.field "primary_keys" entries
        autoIncrement := Value.field "auto_increment" entries
        uniqueKeys := Value.field "unique_keys" entries
        withoutRowid := Value.field "without_rowid" entries }
    | unknown => .error (.unknownOptions (Value.sortedShown unknown))
  | _ => .error .optionsShape

end TableOptions

/-! ## Column descriptors -/

/-- The description of a column, as it is given. -/
structure Descriptor where
  type : Value
  primaryKey : Value
  notNull : Value
  unique : Value
  autoIncrement : Value
  defaultValue : Value
  deriving Repr, Inhabited

namespace Descriptor

/-- The keys of column descriptors. -/
def keys : List String :=
  ["type", "primary_key", "not_null", "unique", "auto_increment", "default_value"]

/-- The descriptor of a column from a record or from a mapping with known keys. -/
def ofValue (column : Label) : Value → Except SchemaError Descriptor
  | .descriptor type primaryKey notNull unique autoIncrement defaultValue =>
    .ok ⟨type, primaryKey, notNull, unique, autoIncrement, defaultValue⟩
  | .map entries =>
    match Value.unknownKeys keys entries with
    | [] => .ok {
        type := Value.field "type" entries
        primaryKey := Value.field "primary_key" entries
        notNull := Value.field "not_null" entries
        unique := Value.field "unique" entries
        autoIncrement := Value.field "auto_increment" entries
        defaultValue := Value.field "default_value" entries }
    | unknown =>
      match Value.sortedContents? unknown with
      | some names => .error (.unknownColumnOptions column names)
      | none => .error .unlistable
  | _ => .error (.columnShape column)

end Descriptor

/-! ## Columns -/

/-- The type of a column: a type itself, or a text that spells one. -/
def ColumnType.ofValue (column : Label) (value : Value) : Except SchemaError ColumnType :=
  match value with
  | .label (.columnType type) => .ok type
  | .label name =>
    match ColumnType.ofSpelling? name.content with
    | some type => .ok type
    | none => .error (.unknownType column value)
  | _ => .error (.unknownType column value)

/-- The column of a descriptor once its type is known; flags are taken by their truth. -/
def Descriptor.column (descriptor : Descriptor) (type : ColumnType) : Column where
  type := type
  primaryKey := descriptor.primaryKey.truth
  notNull := descriptor.notNull.truth
  unique := descriptor.unique.truth
  autoIncrement := descriptor.autoIncrement.truth
  defaultValue := descriptor.defaultValue.present?

/-- The column of a name: its descriptor is read, its default value has to be finite, and its type
has to be known, in this order. -/
def Column.ofValue (name : Label) (value : Value) : Except SchemaError Column := do
  let descriptor ← Descriptor.ofValue name value
  match descriptor.defaultValue with
  | .float x => if x.isFinite then pure () else throw (.nonFiniteDefault name x)
  | _ => pure ()
  let type ← ColumnType.ofValue name descriptor.type
  return descriptor.column type

end TableModel
