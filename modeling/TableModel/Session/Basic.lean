/-
# TableModel.Session.Basic — sessions of models, statements and databases

In a session, engines, models and prepared statements are made under identifiers and used by them.
Each step is reported by what it yields or why it fails, and by its effects; a step that fails does
not end the session. A step keeps at most one new thing, and changes nothing that it does not name.
Things hold on to the engines they were made with, whatever is made under the same identifier later.
-/
import TableModel.Keyed
import TableModel.Model.Basic

namespace TableModel

/-- What a step gives as a database, by identifiers. -/
inductive DatabaseReference where
  | database (id : String)
  /-- The executor of a database by itself, which is no database. -/
  | executorOf (id : String)
  | value (value : Value)
  deriving Repr, Inhabited

/-- The calls of a model. -/
inductive ModelCall where
  | setDatabase (database : DatabaseReference)
  | getDatabase
  | createTable (strategy : Value)
  | dropTable (silent : Value)
  | first (filter : Value)
  | all (clauses : Value)
  | insertOne (data orReplace : Value)
  | insertMany (rows orReplace : Value)
  | update (filter data : Value)
  | delete (filter : Value)
  | upsert (data updates filter conflictKeys : Value)
  deriving Repr, Inhabited

/-- The steps of a session. -/
inductive Step where
  | engine (id dialect : String) (outcomes : List Outcome) (dump : List String)
  /-- An object with the given attributes as a database; a flag says which can be called. -/
  | wrap (attributes : List (String × Bool))
  | model (id : String) (options columns : Value) (database : DatabaseReference)
  | prepare (id database sql : String)
  | bind (id statement : String) (values : List Value)
  | call (model : String) (call : ModelCall)
  | view (statement : String)
  | run (statement : String)
  | all (statement : String)
  | first (statement : String) (column : Value)
  | batch (database : String) (statements : List String)
  | exec (database sql : String)
  | dump (database : String)
  deriving Repr, Inhabited

/-- What a step yields. -/
inductive Reply where
  | done
  | accepted
  | executed
  | model (model : Model)
  | database (name : String)
  | value (value : Value)
  | result (result : QueryResult)
  | results (results : List QueryResult)
  | statement (statement : Prepared)
  | dump (text : String)
  deriving Repr, Inhabited

/-- What is said about a step: what it yields and its effects. -/
structure Report where
  result : Except Failure Reply
  trace : Trace

/-- What has been made in a session so far. -/
structure Session where
  scripts : Scripts := []
  databases : Keyed Engine := []
  models : Keyed Model := []
  statements : Keyed Prepared := []
  deriving Repr, Inhabited

namespace Session

/-! ## Identifiers -/

/-- The thing under an identifier. -/
def lookup {α : Type} (things : Keyed α) (id : String) : Except Failure α :=
  match things.find? id with
  | some thing => .ok thing
  | none => .error .unknownIdentifier

/-- What is given as a database; the value null is nothing. -/
def resolve (session : Session) : DatabaseReference → Except Failure DatabaseArgument
  | .database id => (lookup session.databases id).map .engine
  | .executorOf id => (lookup session.databases id).map fun _ => .other
  | .value .null => .ok .nothing
  | .value _ => .ok .other

/-! ## Steps -/

/-- A step that fails before it has had an effect. -/
def refuse (session : Session) (failure : Failure) : Report × Session :=
  (⟨.error failure, []⟩, session)

/-- A step that uses databases and then keeps what it has made, if it succeeds. -/
def perform {α : Type} (session : Session) (action : Action α) (reply : α → Reply)
    (keep : α → Session → Session) : Report × Session :=
  let done := action session.scripts
  let after := { session with scripts := done.scripts }
  match done.result with
  | .ok a => (⟨.ok (reply a), done.trace⟩, keep a after)
  | .error failure => (⟨.error failure, done.trace⟩, after)

/-- A step that uses databases and keeps nothing. -/
def use {α : Type} (session : Session) (action : Action α) (reply : α → Reply) :
    Report × Session :=
  session.perform action reply fun _ after => after

/-- The session with a model kept under an identifier. -/
def keepModel (id : String) (model : Model) (session : Session) : Session :=
  { session with models := session.models.put id model }

/-- The session with a prepared statement kept under an identifier. -/
def keepStatement (id : String) (statement : Prepared) (session : Session) : Session :=
  { session with statements := session.statements.put id statement }

/-- A call of a model. -/
def callModel (session : Session) (id : String) (model : Model) : ModelCall → Report × Session
  | .setDatabase reference =>
    session.perform
      (Action.ofExcept (fun failure => failure) (session.resolve reference >>= model.setDatabase))
      (fun _ => .done) (keepModel id)
  | .getDatabase =>
    session.use (Action.ofExcept (fun failure => failure) model.getDatabase)
      fun engine => .database engine.name
  | .createTable strategy => session.use (model.createTable strategy) fun _ => .executed
  | .dropTable silent => session.use (model.dropTable silent) fun _ => .executed
  | .first filter => session.use (model.first filter) .value
  | .all clauses => session.use (model.all clauses) .result
  | .insertOne data orReplace => session.use (model.insertOne data orReplace) .result
  | .insertMany rows orReplace => session.use (model.insertMany rows orReplace) .results
  | .update filter data => session.use (model.update filter data) .result
  | .delete filter => session.use (model.delete filter) .result
  | .upsert data updates filter conflictKeys =>
    session.use (model.upsert data updates filter conflictKeys) .result

/-- One step. -/
def step (session : Session) : Step → Report × Session
  | .engine id dialect outcomes dump =>
    let engine : Engine := ⟨id, dialect, dump, session.scripts.length⟩
    (⟨.ok .done, []⟩,
      { session with
        scripts := session.scripts ++ [outcomes]
        databases := session.databases.put id engine })
  | .wrap attributes =>
    session.use (Action.ofExcept .database (wrapDatabase attributes)) fun _ => .accepted
  | .model id options columns reference =>
    match session.resolve reference with
    | .error failure => session.refuse failure
    | .ok database => session.perform (Model.define options columns database) .model (keepModel id)
  | .prepare id database sql =>
    match lookup session.databases database with
    | .error failure => session.refuse failure
    | .ok engine => (⟨.ok .done, []⟩, keepStatement id ⟨engine, sql, []⟩ session)
  | .bind id statement values =>
    match lookup session.statements statement with
    | .error failure => session.refuse failure
    | .ok prepared => (⟨.ok .done, []⟩, keepStatement id (prepared.bind values) session)
  | .call id call =>
    match lookup session.models id with
    | .error failure => session.refuse failure
    | .ok model => session.callModel id model call
  | .view statement =>
    match lookup session.statements statement with
    | .error failure => session.refuse failure
    | .ok prepared => (⟨.ok (.statement prepared), []⟩, session)
  | .run statement =>
    match lookup session.statements statement with
    | .error failure => session.refuse failure
    | .ok prepared => session.use prepared.run .result
  | .all statement =>
    match lookup session.statements statement with
    | .error failure => session.refuse failure
    | .ok prepared => session.use prepared.run .result
  | .first statement column =>
    match lookup session.statements statement with
    | .error failure => session.refuse failure
    | .ok prepared => session.use (prepared.first column) .value
  | .batch database statements =>
    match lookup session.databases database, statements.mapM (lookup session.statements) with
    | .ok engine, .ok prepared => session.use (engine.batch prepared) .results
    | .error failure, _ => session.refuse failure
    | _, .error failure => session.refuse failure
  | .exec database sql =>
    match lookup session.databases database with
    | .error failure => session.refuse failure
    | .ok engine => session.use (engine.exec sql) fun _ => .executed
  | .dump database =>
    match lookup session.databases database with
    | .error failure => session.refuse failure
    | .ok engine => session.use engine.dumpText .dump

/-- Steps one after the other, each with its report. -/
def run (session : Session) : List Step → List Report
  | [] => []
  | first :: rest =>
    let (report, next) := session.step first
    report :: next.run rest

end Session

end TableModel
