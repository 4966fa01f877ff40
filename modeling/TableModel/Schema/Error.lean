/-
# TableModel.Schema.Error — why a definition is no schema

One constructor for each way in which a table's definition breaks a rule, with what the message
about it quotes. `unlistable` stands apart: keys of a column's descriptor that nobody knows are
reported by name, and when one of them is no text, they cannot even be listed.
-/
import TableModel.Schema.Basic

namespace TableModel

/-- The ways in which a definition breaks the rules of schemas. -/
inductive SchemaError where
  | optionsShape
  | unknownOptions (names : List String)
  | tableName
  | primaryKeysShape
  | columnsShape
  | columnName
  | columnShape (column : Label)
  | unknownColumnOptions (column : Label) (names : List String)
  | unlistable
  | nonFiniteDefault (column : Label) (value : Binary64)
  | unknownType (column : Label) (type : Value)
  | primaryKeyMissing
  | primaryKeyUnlisted (column : Label)
  | autoIncrementTwice
  | autoIncrementConflict (column : Label) (given : Value)
  | autoIncrementNotText
  | autoIncrementNotKey
  | autoIncrementManyKeys
  | autoIncrementNotInteger
  | uniqueKeysShape
  | uniqueKeyMissing (name : Label)
  | autoIncrementWithoutRowid
  deriving Repr, Inhabited

namespace SchemaError

/-- What is said about the error. -/
def message : SchemaError → String
  | optionsShape => "options must be a ModelOptions instance or a dict"
  | unknownOptions names => "Unknown model options: " ++ String.intercalate ", " names
  | tableName => "table_name must be a non-empty string"
  | primaryKeysShape => "primary_keys must be a string or a list of strings"
  | columnsShape => "columns must be a non-empty mapping"
  | columnName => "column names must be non-empty strings"
  | columnShape column => "Column " ++ column.shown ++ " must be a ModelColumn or a dict"
  | unknownColumnOptions column names =>
    "Column " ++ column.shown ++ " has unknown options: " ++ String.intercalate ", " names
  | unlistable => "unknown options that are not all text"
  | nonFiniteDefault column value =>
    "Column " ++ column.shown ++ " has a non-finite default value: " ++ value.text
  | unknownType column type =>
    "Column " ++ column.shown ++ " has an invalid type: " ++ type.literal
  | primaryKeyMissing => "primary_keys includes a column that does not exist"
  | primaryKeyUnlisted column =>
    "Column " ++ column.shown ++ " is flagged primary_key, but is not in primary_keys"
  | autoIncrementTwice => "Only one column can be flagged auto_increment"
  | autoIncrementConflict column given =>
    "Column " ++ column.shown ++ " is flagged auto_increment, but auto_increment is "
      ++ given.literal
  | autoIncrementNotText => "auto_increment was provided, but was not a string"
  | autoIncrementNotKey => "auto_increment was provided, but was not a primary key"
  | autoIncrementManyKeys => "auto_increment was provided, but there are multiple primary keys"
  | autoIncrementNotInteger => "auto_increment was provided, but is not an integer column"
  | uniqueKeysShape => "unique_keys must be a list of lists of column names"
  | uniqueKeyMissing name =>
    "unique_keys includes a column that does not exist: " ++ name.shown
  | autoIncrementWithoutRowid => "auto_increment and without_rowid cannot both be set"

/-- Whether the error is a finding about the definition; only `unlistable` is none. -/
def isFinding : SchemaError → Bool
  | unlistable => false
  | _ => true

end SchemaError

end TableModel
