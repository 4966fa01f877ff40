/-
# TableModel.Statement.Basic — statements, their text and their bindings

A statement is kept by its parts: the table, the rows of columns with their values, the ordering and
the page. Its text and its bindings are both read off one list of fragments. The shapes are

    SELECT * FROM `t` [WHERE a = ? AND b = ?] [ORDER BY ...] [LIMIT n [OFFSET m]]
    DELETE FROM `t` [WHERE ...]
    INSERT [or REPLACE] INTO `t` (a, b) VALUES (?, ?)
    UPDATE `t` SET a = ?, b = ? [WHERE ...]
    INSERT INTO `t` (a, b) VALUES (?, ?) ON CONFLICT (k) DO UPDATE SET b = ? WHERE a = ?

Only values have slots; the names of tables and columns stand in the text as they are.
-/
import TableModel.Statement.Fragment
import TableModel.Statement.OrderSpec

namespace TableModel

/-- Columns with a value each, in their order. -/
abbrev Row := List (String × Value)

/-- How many rows are wanted, and how many of the first ones are left out. -/
structure Page where
  limit : Nat
  offset : Option Nat
  deriving DecidableEq, Repr, Inhabited

/-- A statement. -/
inductive Statement where
  | select (table : String) (filter : Row) (order : Option OrderSpec) (page : Option Page)
  | delete (table : String) (filter : Row)
  | insert (replace : Bool) (table : String) (row : Row)
  | update (table : String) (changes filter : Row)
  | upsert (table : String) (row : Row) (target : List String) (changes filter : Row)
  deriving Repr, Inhabited

/-- The text of a statement with the values to bind: the i-th value belongs to the i-th slot. -/
structure Query where
  text : String
  bindings : List Value
  deriving Repr, Inhabited

namespace Row

/-- A column and the slot of its value, as a condition or as an assignment. -/
def equation (entry : String × Value) : List Fragment :=
  [.text (entry.1 ++ " = "), .slot entry.2]

/-- The filter of a statement: all equations hold. A filter without equations is left out. -/
def filterFragments : Row → List Fragment
  | [] => []
  | entry :: rest =>
    .text " WHERE " :: Fragment.separated " AND " ((entry :: rest).map equation)

/-- The columns to change, each with its new value. -/
def changeFragments (row : Row) : List Fragment :=
  Fragment.separated ", " (row.map equation)

/-- The columns of a row and then the slots of their values. -/
def insertFragments (row : Row) : List Fragment :=
  .text ("(" ++ String.intercalate ", " (row.map Prod.fst) ++ ") VALUES (")
    :: (Fragment.separated ", " (row.map fun entry => [.slot entry.2]) ++ [.text ")"])

end Row

namespace Statement

/-- The ordering of a statement, if it has one. -/
def orderText : Option OrderSpec → String
  | some spec => " ORDER BY " ++ spec.text
  | none => ""

/-- The page of a statement, if it has one; rows are left out only of a limited number. -/
def pageText : Option Page → String
  | some page =>
    " LIMIT " ++ toString page.limit
      ++ (match page.offset with
          | some offset => " OFFSET " ++ toString offset
          | none => "")
  | none => ""

/-- The fragments of a statement, in the order of its text. -/
def fragments : Statement → List Fragment
  | select table filter order page =>
    .text ("SELECT * FROM `" ++ table ++ "`")
      :: (Row.filterFragments filter ++ [.text (orderText order), .text (pageText page)])
  | delete table filter =>
    .text ("DELETE FROM `" ++ table ++ "`") :: Row.filterFragments filter
  | insert replace table row =>
    .text ((if replace then "INSERT or REPLACE INTO `" else "INSERT INTO `") ++ table ++ "` ")
      :: Row.insertFragments row
  | update table changes filter =>
    .text ("UPDATE `" ++ table ++ "` SET ")
      :: (Row.changeFragments changes ++ Row.filterFragments filter)
  | upsert table row target changes filter =>
    .text ("INSERT INTO `" ++ table ++ "` ")
      :: (Row.insertFragments row
        ++ .text (" ON CONFLICT (" ++ String.intercalate ", " target ++ ") DO UPDATE SET ")
        :: (Row.changeFragments changes ++ Row.filterFragments filter))

/-- The text of a statement. -/
def text (statement : Statement) : String :=
  Fragment.render statement.fragments

/-- The values to bind, in the order of their slots. -/
def bindings (statement : Statement) : List Value :=
  Fragment.bindings statement.fragments

/-- The text and the bindings of a statement. -/
def query (statement : Statement) : Query where
  text := statement.text
  bindings := statement.bindings

/-- The kind of a statement. -/
def kind : Statement → StatementKind
  | select .. => .select
  | delete .. => .delete
  | insert replace _ _ => if replace then .insertOrReplace else .insert
  | update .. => .update
  | upsert .. => .upsert

/-- The table of a statement. -/
def table : Statement → String
  | select t _ _ _ => t
  | delete t _ => t
  | insert _ t _ => t
  | update t _ _ => t
  | upsert t _ _ _ _ => t

/-- What the log says about a statement that has been made. -/
def generatedMessage (statement : Statement) : String :=
  "Generated " ++ statement.kind.name ++ " for " ++ statement.table ++ ": " ++ statement.text
    ++ " with " ++ toString statement.bindings.length ++ " bindings"

end Statement

end TableModel
