/-
# TableModel.Schema.Rendering — the statements that create and drop a table

A schema determines a `CreateTable` statement: the clauses of its columns, then its constraints. A
column that counts up by itself carries the primary key; otherwise the primary key is the first
constraint. The groups of unique columns follow. A table that does not count up has no row numbers,
unless its option is the truth value false. The text of the statement is read off that structure.

A default value is written as a literal of SQL: truth values and numbers bare, bytes in hexadecimal,
everything else as a string in apostrophes, in which an apostrophe is written twice.
-/
import TableModel.Schema.Basic

namespace TableModel

/-! ## Literals -/

/-- A character inside a string of SQL. -/
def doubledApostrophe (c : Char) : List Char :=
  if c = Text.apostrophe then [c, c] else [c]

/-- A text as a string of SQL. -/
def sqlString (text : String) : String :=
  String.ofList
    (Text.apostrophe :: (text.toList.flatMap doubledApostrophe ++ [Text.apostrophe]))

/-- A default value as a literal of SQL. -/
def Value.sqlLiteral : Value → String
  | .bool b => if b then "true" else "false"
  | .int n => toString n
  | .float x => x.text
  | .bytes content => "X'" ++ Text.hexText content ++ "'"
  | .buffer content => "X'" ++ Text.hexText content ++ "'"
  | value => sqlString value.shown

/-! ## Clauses of a table -/

/-- What a statement says about a column. -/
structure ColumnClause where
  name : String
  type : ColumnType
  autoIncrement : Bool
  notNull : Bool
  unique : Bool
  /-- The literal of the default value. -/
  default : Option String
  deriving DecidableEq, Repr, Inhabited

/-- The text of a clause: name and type, then what else holds of the column. -/
def ColumnClause.text (clause : ColumnClause) : String :=
  clause.name ++ " " ++ clause.type.word
    ++ (if clause.autoIncrement then " PRIMARY KEY AUTOINCREMENT" else "")
    ++ (if clause.notNull then " NOT NULL" else "")
    ++ (if clause.unique then " UNIQUE" else "")
    ++ (match clause.default with
        | some literal => " DEFAULT " ++ literal
        | none => "")

/-- What a statement says about several columns. -/
inductive TableConstraint where
  | primaryKey (columns : List String)
  | unique (columns : List String)
  deriving DecidableEq, Repr, Inhabited

/-- The text of a constraint. -/
def TableConstraint.text : TableConstraint → String
  | .primaryKey columns => "PRIMARY KEY (" ++ String.intercalate ", " columns ++ ")"
  | .unique columns => "UNIQUE (" ++ String.intercalate ", " columns ++ ")"

/-! ## Statements -/

/-- The statement that creates a table. -/
structure CreateTable where
  table : String
  columns : List ColumnClause
  constraints : List TableConstraint
  withoutRowid : Bool
  deriving DecidableEq, Repr, Inhabited

/-- The clauses and constraints as texts, in their order. -/
def CreateTable.parts (statement : CreateTable) : List String :=
  statement.columns.map ColumnClause.text ++ statement.constraints.map TableConstraint.text

/-- The text of the statement. -/
def CreateTable.text (statement : CreateTable) : String :=
  "CREATE TABLE `" ++ statement.table ++ "` (" ++ String.intercalate ", " statement.parts ++ ")"
    ++ (if statement.withoutRowid then " WITHOUT ROWID" else "") ++ ";"

namespace Schema

/-- The clause of a column; `autoIncrement` names the column that counts up by itself. -/
def columnClause (autoIncrement : Option Label) (entry : Label × Column) : ColumnClause where
  name := entry.1.shown
  type := entry.2.type
  autoIncrement := autoIncrement.any entry.1.same
  notNull := entry.2.notNull
  unique := entry.2.unique
  default := entry.2.defaultValue.map Value.sqlLiteral

/-- The constraints of a table: the primary key, unless a column carries it, and the unique
groups. -/
def constraints (schema : Schema) : List TableConstraint :=
  (if schema.autoIncrement.isNone then
    [.primaryKey (schema.primaryKeys.map Label.content)] else [])
    ++ schema.uniqueKeys.map fun group => .unique (group.map Label.content)

/-- Whether an option is the truth value false itself; other values that count as false are not. -/
def isFalse : Value → Bool
  | .bool false => true
  | _ => false

/-- The statement that creates the table. -/
def createTable (schema : Schema) : CreateTable where
  table := schema.tableName.shown
  columns := schema.columns.map (columnClause schema.autoIncrement)
  constraints := schema.constraints
  withoutRowid := schema.autoIncrement.isNone && !isFalse schema.withoutRowid

/-- The text of the statement that creates the table. -/
def createTableText (schema : Schema) : String :=
  schema.createTable.text

end Schema

/-- The text of the statement that drops a table, which may be required to exist or not. -/
def dropTableText (table : String) (ifExists : Bool) : String :=
  "DROP TABLE " ++ (if ifExists then "IF EXISTS " else "") ++ "`" ++ table ++ "`;"

end TableModel
