/-
# TableModel.Schema.Validation — from a definition to a schema

`Schema.ofDefinition` checks the rules in a fixed order, and the first one that is broken decides
the error:

1. the options are a record or a mapping with known keys, and the table has a name;
2. the primary keys are one name or a list of names;
3. the columns are a mapping that is not empty; each, in order, has a name, a descriptor with known
   keys, a default value that is not an infinite or undefined number, and a known type;
4. every primary key is a column, and every column that is flagged as a primary key is one;
5. the column that counts up by itself is flagged at most once, agrees with the table's option, and
   is the only primary key and an integer;
6. every group of unique columns is a list of columns;
7. a table that counts up has row numbers.
-/
import TableModel.Schema.Definition

namespace TableModel

namespace Schema

/-! ## The rules -/

/-- The name of the table. -/
def readTableName (value : Value) : Except SchemaError Label :=
  match value.name? with
  | some name => .ok name
  | none => .error .tableName

/-- The primary keys, in their order. -/
def readPrimaryKeys (value : Value) : Except SchemaError (List Label) :=
  match value.names? with
  | some names => .ok names
  | none => .error .primaryKeysShape

/-- One column, from its entry. -/
def readColumn (entry : Value × Value) : Except SchemaError (Label × Column) :=
  match entry.1.name? with
  | some name => (Column.ofValue name entry.2).map fun column => (name, column)
  | none => .error .columnName

/-- The columns, in their order. -/
def readColumns (value : Value) : Except SchemaError (List (Label × Column)) :=
  match value with
  | .map (entry :: rest) =>
    ((entry :: rest).mapM readColumn).map fun columns =>
      columns.foldl (fun all column => putColumn column.1 column.2 all) []
  | _ => .error .columnsShape

/-- Every primary key is a column, and every flagged column is a primary key. -/
def checkPrimaryKeys (primaryKeys : List Label) (columns : List (Label × Column)) :
    Except SchemaError Unit :=
  if primaryKeys.all (hasColumn columns) then
    match columns.find? fun entry => entry.2.primaryKey && !entry.1.isIn primaryKeys with
    | some entry => .error (.primaryKeyUnlisted entry.1)
    | none => .ok ()
  else .error .primaryKeyMissing

/-- The names of the columns that are flagged to count up by themselves. -/
def flagged (columns : List (Label × Column)) : List Label :=
  (columns.filter fun entry => entry.2.autoIncrement).map Prod.fst

/-- What the table's option and the flags of the columns ask for together: a flag stands in for an
option that is not given, and has to agree with one that is. -/
def requestedAutoIncrement (option : Value) (columns : List (Label × Column)) :
    Except SchemaError Value :=
  match flagged columns with
  | [] => .ok option
  | [name] =>
    match option with
    | .null => .ok (.label name)
    | given => if given.isText name.content then .ok given
      else .error (.autoIncrementConflict name given)
  | _ => .error .autoIncrementTwice

/-- The column that counts up by itself, if one is asked for. -/
def readAutoIncrement (option : Value) (primaryKeys : List Label)
    (columns : List (Label × Column)) : Except SchemaError (Option Label) := do
  match ← requestedAutoIncrement option columns with
  | .null => return none
  | .label name =>
    if !name.isIn primaryKeys then throw .autoIncrementNotKey
    if primaryKeys.length != 1 then throw .autoIncrementManyKeys
    if (column? columns name).map Column.type != some .integer then throw .autoIncrementNotInteger
    return some name
  | _ => throw .autoIncrementNotText

/-- One group of unique columns. -/
def readUniqueKey (columns : List (Label × Column)) (group : Value) :
    Except SchemaError (List Label) :=
  match group.sequence? with
  | some (item :: rest) =>
    match (item :: rest).mapM Value.label? with
    | some names =>
      match names.find? fun name => !hasColumn columns name with
      | some name => .error (.uniqueKeyMissing name)
      | none => .ok names
    | none => .error .uniqueKeysShape
  | _ => .error .uniqueKeysShape

/-- The groups of unique columns, in their order. -/
def readUniqueKeys (columns : List (Label × Column)) (value : Value) :
    Except SchemaError (List (List Label)) :=
  match value with
  | .null => .ok []
  | .list groups => groups.mapM (readUniqueKey columns)
  | .tuple groups => groups.mapM (readUniqueKey columns)
  | _ => .error .uniqueKeysShape

/-! ## The schema -/

/-- The schema of a definition, or the first rule that the definition breaks. -/
def ofDefinition (options columns : Value) : Except SchemaError Schema := do
  let options ← TableOptions.ofValue options
  let tableName ← readTableName options.tableName
  let primaryKeys ← readPrimaryKeys options.primaryKeys
  let columns ← readColumns columns
  checkPrimaryKeys primaryKeys columns
  let autoIncrement ← readAutoIncrement options.autoIncrement primaryKeys columns
  let uniqueKeys ← readUniqueKeys columns options.uniqueKeys
  if autoIncrement.isSome && options.withoutRowid.truth then throw .autoIncrementWithoutRowid
  return {
    tableName, columns, primaryKeys, autoIncrement, uniqueKeys
    withoutRowid := options.withoutRowid }

/-- What the log says about a schema that has passed. -/
def validatedMessage (schema : Schema) : String :=
  "Validated schema for " ++ schema.tableName.shown ++ ": " ++ toString schema.columns.length
    ++ " columns, primary keys " ++ Value.labelsLiteral schema.primaryKeys

end Schema

end TableModel
