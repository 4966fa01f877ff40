/-
# TableModel.Model.Basic — a table bound to a database

A model is a validated schema with, possibly, a database. Every operation first makes its statement,
which may be refused, then asks for the database, which may be missing, and only then reaches the
engine. Creating and dropping a table goes to the engine as a raw statement.
-/
import TableModel.Database.Prepared
import TableModel.Schema.Rendering
import TableModel.Schema.Validation
import TableModel.Statement.Request

namespace TableModel

/-! ## Schemas and statements, with their log -/

/-- The schema of a definition, with a record of it in the log. -/
def Schema.define (options columns : Value) : Action Schema := do
  let schema ← Action.ofExcept .schema (Schema.ofDefinition options columns)
  Action.log .debug .schema schema.validatedMessage
  return schema

/-- The statement of a request, with a record of it in the log. -/
def Request.generate (request : Request) : Action Statement := do
  let statement ← Action.ofExcept .statement request.statement
  Action.log .debug .statement statement.generatedMessage
  return statement

/-! ## Models -/

/-- A table bound to a database. -/
structure Model where
  schema : Schema
  database : Option Engine
  deriving Repr, Inhabited

/-- What is given as a database: nothing, a database, or something else. -/
inductive DatabaseArgument where
  | nothing
  | engine (engine : Engine)
  | other
  deriving Repr, Inhabited

namespace Model

/-- The model of a definition, bound to the database that is given, if one is. -/
def define (options columns : Value) (database : DatabaseArgument) : Action Model := do
  let schema ← Schema.define options columns
  match database with
  | .nothing => return ⟨schema, none⟩
  | .engine engine => return ⟨schema, some engine⟩
  | .other => Action.fail (.database .notADatabase)

/-- The model bound to another database. -/
def setDatabase (model : Model) (database : DatabaseArgument) : Except Failure Model :=
  match database with
  | .engine engine => .ok { model with database := some engine }
  | _ => .error (.database .notADatabase)

/-- The database of the model. -/
def getDatabase (model : Model) : Except Failure Engine :=
  match model.database with
  | some engine => .ok engine
  | none => .error (.noDatabase model.schema.tableName)

/-- The model in one line. -/
def line (model : Model) : String :=
  "<Model " ++ model.schema.tableName.shown ++ " primary_keys="
    ++ Value.labelsLiteral model.schema.primaryKeys ++ ">"

/-- A request for a statement on the model's table. -/
def request (model : Model) (kind : StatementKind) (clauses target : Value) : Request where
  kind := .label (.statementKind kind)
  table := .label model.schema.tableName
  clauses := clauses
  target := target

/-- A statement prepared on the model's database. -/
def prepare (model : Model) (statement : Statement) : Action Prepared := do
  let engine ← Action.ofExcept id model.getDatabase
  return ⟨engine, statement.text, statement.bindings⟩

/-- The statement of a request, prepared on the model's database. -/
def prepareRequest (model : Model) (request : Request) : Action Prepared := do
  let statement ← request.generate
  model.prepare statement

/-! ## Tables -/

/-- The ways of creating a table. -/
inductive Strategy where
  | plain
  | force
  | alter
  deriving DecidableEq, Repr, Inhabited

/-- The strategy of a name. -/
def Strategy.ofValue? (value : Value) : Option Strategy :=
  if value.isText "default" then some .plain
  else if value.isText "force" then some .force
  else if value.isText "alter" then some .alter
  else none

/-- Drops the table, which has to exist unless `silent` is true. -/
def dropTable (model : Model) (silent : Value) : Action Unit := do
  Action.log .info .model ("Dropping table " ++ model.schema.tableName.shown)
  let engine ← Action.ofExcept id model.getDatabase
  engine.exec (dropTableText model.schema.tableName.shown silent.truth)

/-- Creates the table, without looking whether it exists. -/
def createPlain (model : Model) : Action Unit := do
  Action.log .info .model ("Creating table " ++ model.schema.tableName.shown)
  let engine ← Action.ofExcept id model.getDatabase
  engine.exec model.schema.createTableText

/-- Creates the table, by force after dropping the one that exists; altering a table is not
supported. -/
def createTable (model : Model) (strategy : Value) : Action Unit :=
  match Strategy.ofValue? strategy with
  | none => Action.fail (.unknownStrategy strategy)
  | some .alter => Action.fail .strategyNotImplemented
  | some .force => do
    model.dropTable (.bool true)
    model.createPlain
  | some .plain => model.createPlain

/-! ## Rows -/

/-- The request for at most one row that passes a filter. -/
def firstRequest (model : Model) (filter : Value) : Request :=
  model.request .select ({ filter, limit := .int 1 } : Clauses).toValue .null

/-- The request for the rows of clauses. -/
def allRequest (model : Model) (clauses : Value) : Request :=
  model.request .select clauses .null

/-- The kind of an insertion. -/
def insertKind (orReplace : Value) : StatementKind :=
  if orReplace.truth then .insertOrReplace else .insert

/-- The request for inserting a row. -/
def insertRequest (model : Model) (data orReplace : Value) : Request :=
  model.request (insertKind orReplace) ({ data } : Clauses).toValue .null

/-- The request for changing the rows that pass a filter. -/
def updateRequest (model : Model) (filter data : Value) : Request :=
  model.request .update ({ filter, data } : Clauses).toValue .null

/-- The request for deleting the rows that pass a filter. -/
def deleteRequest (model : Model) (filter : Value) : Request :=
  model.request .delete ({ filter } : Clauses).toValue .null

/-- The primary keys as a value. -/
def primaryKeysValue (model : Model) : Value :=
  .tuple (model.schema.primaryKeys.map .label)

/-- The request for inserting a row or changing the one it conflicts with; the conflict target is
the primary key where no other is given. -/
def upsertRequest (model : Model) (data updates filter conflictKeys : Value) : Request :=
  model.request .upsert ({ filter, data, updates } : Clauses).toValue
    (if conflictKeys.truth then conflictKeys else model.primaryKeysValue)

/-- The first row that passes a filter, or null. -/
def first (model : Model) (filter : Value) : Action Value := do
  let statement ← model.prepareRequest (model.firstRequest filter)
  statement.first .null

/-- The rows of clauses. -/
def all (model : Model) (clauses : Value) : Action QueryResult := do
  let statement ← model.prepareRequest (model.allRequest clauses)
  statement.run

/-- Inserts a row, replacing one that conflicts when `orReplace` is true. -/
def insertOne (model : Model) (data orReplace : Value) : Action QueryResult := do
  let statement ← model.prepareRequest (model.insertRequest data orReplace)
  statement.run

/-- The insertions of rows, prepared one by one. -/
def prepareRows (model : Model) (orReplace : Value) : List Value → Action (List Prepared)
  | [] => pure []
  | row :: rest => do
    let statement ← model.prepareRequest (model.insertRequest row orReplace)
    let statements ← model.prepareRows orReplace rest
    return statement :: statements

/-- Inserts rows in one batch. -/
def insertMany (model : Model) (rows orReplace : Value) : Action (List QueryResult) := do
  match rows.items? with
  | none => Action.fail .notIterable
  | some items =>
    let statements ← model.prepareRows orReplace items
    if statements.isEmpty then Action.fail (.statement .insertWithoutData)
    else
      Action.log .debug .model
        ("Inserting " ++ toString statements.length ++ " rows into "
          ++ model.schema.tableName.shown)
      let engine ← Action.ofExcept id model.getDatabase
      engine.batch statements

/-- Changes the rows that pass a filter. -/
def update (model : Model) (filter data : Value) : Action QueryResult := do
  let statement ← model.prepareRequest (model.updateRequest filter data)
  statement.run

/-- Deletes the rows that pass a filter, all rows without one. -/
def delete (model : Model) (filter : Value) : Action QueryResult := do
  let statement ← model.prepareRequest (model.deleteRequest filter)
  statement.run

/-- Inserts a row, or changes the one it conflicts with if that one passes the filter. -/
def upsert (model : Model) (data updates filter conflictKeys : Value) : Action QueryResult := do
  let statement ← model.prepareRequest (model.upsertRequest data updates filter conflictKeys)
  statement.run

end Model

end TableModel
