/-
# TableModel.Database.Prepared — prepared statements, batches and raw statements

A prepared statement is its text, the engine it runs on, and the values bound so far; binding gives a
new statement and leaves the old one as it is. It runs in a transaction of its own, or together with
others in the one transaction of a batch. A raw statement has no bindings.

A result says which rows came back, or how many rows were changed and which row was the last one to
be inserted.
-/
import TableModel.Database.Action

namespace TableModel

/-- The result of a prepared statement. -/
structure QueryResult where
  rows : List Entries
  changes : Int
  lastRowId : Option Int
  deriving Repr, Inhabited

/-- The result that an outcome amounts to: rows change nothing, and a row count below zero counts
as none. -/
def QueryResult.ofOutcome : Outcome → QueryResult
  | .rows rows => ⟨rows, 0, none⟩
  | .changed rowCount lastRowId => ⟨[], max rowCount 0, lastRowId⟩
  | .failed _ => ⟨[], 0, none⟩

/-- A statement with the values bound to it. -/
structure Prepared where
  engine : Engine
  sql : String
  bindings : List Value
  deriving Repr, Inhabited

namespace Prepared

/-- The statement with more values bound after those it has. -/
def bind (statement : Prepared) (values : List Value) : Prepared :=
  { statement with bindings := statement.bindings ++ values }

/-- The statement on the connection of an engine, within a transaction. -/
def executeOn (engine : Engine) (statement : Prepared) : Action QueryResult := do
  Action.log .debug .database
    ("Executing: " ++ statement.sql ++ " with bindings "
      ++ Value.literal (.tuple statement.bindings))
  let outcome ← Action.execute engine statement.sql (some statement.bindings)
  return QueryResult.ofOutcome outcome

/-- Statements one after the other on the connection of an engine. -/
def executeAll (engine : Engine) : List Prepared → Action (List QueryResult)
  | [] => pure []
  | statement :: rest => do
    let result ← statement.executeOn engine
    let results ← executeAll engine rest
    return result :: results

/-- The statement in a transaction of its own. -/
def run (statement : Prepared) : Action QueryResult :=
  Action.reporting (fun fault => "Statement failed: " ++ statement.sql ++ ": " ++ fault.message)
    (Action.transaction statement.engine (statement.executeOn statement.engine))

/-- The value of a column in a row; without a column, the row itself. -/
def pick (row : Entries) (column : Value) : Except Failure Value :=
  match column with
  | .null => .ok (.map row)
  | key =>
    if key.isKey then
      match Value.lookup? key row with
      | some value => .ok value
      | none => .error .noSuchColumn
    else .error .notAKey

/-- The first row of the statement's result, or one column of it; null when there are no rows. -/
def first (statement : Prepared) (column : Value) : Action Value := do
  let result ← statement.run
  match result.rows with
  | [] => return .null
  | row :: _ => Action.ofExcept id (pick row column)

end Prepared

namespace Engine

/-- Statements in one transaction, in their order; the first failure rolls all of them back. -/
def batch (engine : Engine) (statements : List Prepared) : Action (List QueryResult) :=
  Action.reporting
    (fun fault => "Batch of " ++ toString statements.length ++ " statements rolled back: "
      ++ fault.message)
    (Action.transaction engine (Prepared.executeAll engine statements))

/-- A raw statement in a transaction of its own. -/
def exec (engine : Engine) (sql : String) : Action Unit := do
  Action.log .debug .database ("Executing raw SQL: " ++ sql)
  let _ ← Action.reporting (fun fault => "Raw SQL failed: " ++ sql ++ ": " ++ fault.message)
    (Action.transaction engine (Action.execute engine sql none))
  return ()

/-- The dialect whose databases can be dumped. -/
def dumpDialect : String := "sqlite"

/-- The contents of the database as lines of SQL. -/
def dumpText (engine : Engine) : Action String :=
  if engine.dialect = dumpDialect then do
    Action.emit (.event (.connect engine.name))
    Action.emit (.event (.close engine.name))
    return String.intercalate "\n" engine.dump
  else Action.fail (.database (.dumpUnsupported engine.dialect))

end Engine

/-! ## Databases -/

/-- What an object has to be able to do to serve as a database. -/
def requiredMethods : List String := ["prepare", "dump", "batch", "exec"]

/-- Whether an object can serve as a database: each required method is there and can be called. An
attribute that is given twice is what it was given last. -/
def canServe (attributes : List (String × Bool)) : Bool :=
  requiredMethods.all fun method => (attributes.reverse.lookup method).getD false

/-- An object as a database. -/
def wrapDatabase (attributes : List (String × Bool)) : Except DatabaseError Unit :=
  if canServe attributes then .ok () else .error .incomplete

end TableModel
