/-
# TableModel.Statement.Error — why a request is no statement

One constructor for each way in which a request for a statement is refused. Three of them are no
findings about the request, but places where it cannot be carried out: unknown clauses that are not
all text cannot be listed, the columns of an inserted row cannot be joined when one is no text, and
a filter that is true without being a mapping has no columns.
-/
import TableModel.Value.Names

namespace TableModel

/-- The clauses of a request. -/
inductive ClauseName where
  | filter
  | data
  | updates
  | limit
  | offset
  | orderBy
  deriving DecidableEq, Repr, Inhabited

/-- The key of a clause. -/
def ClauseName.key : ClauseName → String
  | .filter => "where"
  | .data => "data"
  | .updates => "upsert_only_update_data"
  | .limit => "limit"
  | .offset => "offset"
  | .orderBy => "order_by"

/-- The ways in which a request is refused. -/
inductive StatementError where
  | tableName
  | kind
  | clausesShape
  | unknownClauses (names : List String)
  | unlistable
  | notMapping (clause : ClauseName)
  | notCount (clause : ClauseName)
  | insertWithoutData
  | updateWithoutData
  | upsertIncomplete
  | targetMissing
  | targetShape
  | orderWithoutColumn
  | orderShape
  | columnNotText
  | filterShape
  deriving DecidableEq, Repr, Inhabited

namespace StatementError

/-- What is said about the error. -/
def message : StatementError → String
  | tableName => "Invalid table name"
  | kind => "Invalid statement kind"
  | clausesShape => "options must be GenerateQueryOptions or a dict"
  | unknownClauses names => "Unknown query options: " ++ String.intercalate ", " names
  | unlistable => "unknown options that are not all text"
  | notMapping clause => clause.key ++ " must be a mapping of column names to values"
  | notCount clause => clause.key ++ " must be a non-negative integer"
  | insertWithoutData => "Must provide data to insert"
  | updateWithoutData => "Must provide data to update"
  | upsertIncomplete =>
    "Must provide data to insert with, data to update with, and where keys in Upsert"
  | targetMissing => "Must provide primary keys for the Upsert conflict target"
  | targetShape => "Upsert conflict target must be a column name or a list of column names"
  | orderWithoutColumn => "order_by entries must name a column"
  | orderShape => "order_by must be a column name, an OrderBy, or a list of them"
  | columnNotText => "column names that are not all text"
  | filterShape => "a filter without columns"

/-- Whether the error is a finding about the request. -/
def isFinding : StatementError → Bool
  | unlistable | columnNotText | filterShape => false
  | _ => true

end StatementError

end TableModel
