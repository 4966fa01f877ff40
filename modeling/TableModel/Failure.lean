/-
# TableModel.Failure — what can go wrong with a database

A call fails because a definition or a request is refused, because a database cannot do what is
asked of it, or because the engine below it fails. An engine's failure has a kind and a message of
its own; failures of the family of database errors are reported in the log, others are not.
-/
import TableModel.Schema.Error
import TableModel.Statement.Error

namespace TableModel

/-- The kinds of an engine's failures. -/
inductive FaultKind where
  /-- A database error of no particular kind. -/
  | general
  /-- A database error: a request that the database cannot serve. -/
  | invalidRequest
  /-- A database error: an argument that the database cannot use. -/
  | argument
  /-- A failure that is no database error. -/
  | foreign
  deriving DecidableEq, Repr, Inhabited

/-- A failure of an engine. -/
structure EngineFault where
  kind : FaultKind
  message : String
  deriving DecidableEq, Repr, Inhabited

/-- Whether a failure is a database error, and so is reported in the log. -/
def EngineFault.isReported (fault : EngineFault) : Bool :=
  fault.kind != .foreign

/-- The ways in which a database refuses to do something. -/
inductive DatabaseError where
  | notADatabase
  | incomplete
  | dumpUnsupported (dialect : String)
  deriving DecidableEq, Repr, Inhabited

/-- What is said about the error. -/
def DatabaseError.message : DatabaseError → String
  | notADatabase => "database is not an instance of Database"
  | incomplete => "Invalid database, should contain prepare, dump, batch, and exec methods"
  | dumpUnsupported dialect => "dump is only supported for SQLite, not " ++ dialect

/-- The ways in which a call fails. -/
inductive Failure where
  | schema (error : SchemaError)
  | statement (error : StatementError)
  | database (error : DatabaseError)
  | unknownStrategy (strategy : Value)
  | strategyNotImplemented
  | noDatabase (table : Label)
  | engine (fault : EngineFault)
  /-- Rows that cannot be gone through one by one. -/
  | notIterable
  /-- A column asked for by a value that can be no key. -/
  | notAKey
  /-- A row that lacks the column asked for. -/
  | noSuchColumn
  /-- An identifier under which nothing is kept. -/
  | unknownIdentifier
  deriving Repr, Inhabited

/-- What is said about the failure; some failures are not put into words. -/
def Failure.message? : Failure → Option String
  | schema error => if error.isFinding then some error.message else none
  | statement error => if error.isFinding then some error.message else none
  | database error => some error.message
  | unknownStrategy strategy => some ("Unknown create table strategy: " ++ strategy.literal)
  | strategyNotImplemented => some "Alter strategy is not implemented"
  | noDatabase table =>
    some ("Model " ++ table.shown ++ " has no database, call set_database() first")
  | engine fault => some fault.message
  | notIterable | notAKey | noSuchColumn | unknownIdentifier => none

/-- Whether a failure came from an engine. -/
def Failure.isEngine : Failure → Bool
  | engine _ => true
  | _ => false

end TableModel
