/-
# TableModel.Schema.Basic — schemas of tables

A schema is what is left of a table's definition once it has been validated: the table's name, its
columns in their order, the primary key, the column that counts up by itself if there is one, and
the groups of columns whose values are unique together. Names are compared by content.
-/
import TableModel.Value.Names

namespace TableModel

/-- A column of a table. -/
structure Column where
  type : ColumnType
  primaryKey : Bool
  notNull : Bool
  unique : Bool
  autoIncrement : Bool
  /-- The value of rows that give none; there is no default value that is null. -/
  defaultValue : Option Value
  deriving Repr, Inhabited

/-- A table. -/
structure Schema where
  tableName : Label
  columns : List (Label × Column)
  primaryKeys : List Label
  autoIncrement : Option Label
  uniqueKeys : List (List Label)
  /-- Kept as it was given: only the truth value false keeps a table with row numbers. -/
  withoutRowid : Value
  deriving Repr, Inhabited

namespace Schema

/-- Columns with one more: a column whose name is there is replaced in its place. -/
def putColumn (name : Label) (column : Column) : List (Label × Column) → List (Label × Column)
  | [] => [(name, column)]
  | (n, c) :: rest =>
    if n.same name then (n, column) :: rest else (n, c) :: putColumn name column rest

/-- The column of a name. -/
def column? (columns : List (Label × Column)) (name : Label) : Option Column :=
  (columns.find? fun entry => entry.1.same name).map Prod.snd

/-- Whether there is a column of a name. -/
def hasColumn (columns : List (Label × Column)) (name : Label) : Bool :=
  name.isIn (columns.map Prod.fst)

theorem column?_isSome {columns : List (Label × Column)} {name : Label} :
    (column? columns name).isSome = hasColumn columns name := by
  rw [Bool.eq_iff_iff]
  simp [column?, hasColumn, Label.isIn]

/-- The names of the columns, in their order. -/
def columnNames (schema : Schema) : List Label :=
  schema.columns.map Prod.fst

end Schema

end TableModel
