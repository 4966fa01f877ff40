/-
# TableModel.Database.Action — what happens when a database is used

Using a database has two kinds of visible effects: events, which are what reaches an engine, and
records in the log. An *action* yields a value or a failure, and whatever it yields, the effects that
came before stay in its trace, in order. What engines answer is scripted: an engine has a list of
outcomes and takes the next one for each statement it executes; with the list used up, a statement
changes one row.

The main combinators are `Action.transaction`, which encloses an action in the begin of a transaction
and its commit, or its rollback when the action fails, and `Action.reporting`, which logs an engine's
failure on its way to the caller.
-/
import TableModel.Failure
import TableModel.Logging.Level

namespace TableModel

/-! ## Engines -/

/-- The entries of a row, each column with its value. -/
abbrev Entries := List (Value × Value)

/-- What executing a statement gives. -/
inductive Outcome where
  | rows (rows : List Entries)
  | changed (rowCount : Int) (lastRowId : Option Int)
  | failed (fault : EngineFault)
  deriving Repr, Inhabited

/-- The outcome of a statement that nothing is scripted for. -/
def Outcome.unscripted : Outcome := .changed 1 none

/-- An engine; `script` numbers its list of outcomes. -/
structure Engine where
  name : String
  dialect : String
  dump : List String
  script : Nat
  deriving Repr, Inhabited

/-- The outcomes still to come, by number. -/
abbrev Scripts := List (List Outcome)

namespace Scripts

/-- The next outcome of a script. -/
def next (scripts : Scripts) (script : Nat) : Outcome :=
  ((scripts[script]?).bind List.head?).getD .unscripted

/-- The scripts after one of them has given an outcome. -/
def advance (scripts : Scripts) (script : Nat) : Scripts :=
  scripts.modify script List.tail

end Scripts

/-! ## Traces -/

/-- What reaches an engine. -/
inductive Event where
  | begin (engine : String)
  | execute (engine sql : String) (bindings : Option (List Value))
  | commit (engine : String)
  | rollback (engine : String)
  | connect (engine : String)
  | close (engine : String)
  deriving Repr, Inhabited

/-- The parts of the library that write to the log. -/
inductive Channel where
  | schema
  | model
  | statement
  | database
  deriving DecidableEq, Repr, Inhabited

/-- The name under which a part of the library writes. -/
def Channel.name : Channel → String
  | schema => "models.schema"
  | model => "models.model"
  | statement => "sql.query_builder"
  | database => "utils.database"

/-- A record in the log. -/
structure LogRecord where
  level : Logging.Level
  channel : Channel
  message : String
  deriving DecidableEq, Repr, Inhabited

/-- A visible effect. -/
inductive Effect where
  | event (event : Event)
  | log (record : LogRecord)
  deriving Repr, Inhabited

/-- The event that an effect is. -/
def Effect.event? : Effect → Option Event
  | event e => some e
  | log _ => none

/-- The record that an effect writes. -/
def Effect.record? : Effect → Option LogRecord
  | event _ => none
  | log record => some record

/-- The effects of an action, in order. -/
abbrev Trace := List Effect

/-- The events of a trace. -/
def Trace.events (trace : Trace) : List Event :=
  trace.filterMap Effect.event?

/-- The log records of a trace. -/
def Trace.records (trace : Trace) : List LogRecord :=
  trace.filterMap Effect.record?

/-! ## Actions -/

/-- What is left of an action: what it yields, the outcomes still to come, and its effects. -/
structure Execution (α : Type) where
  result : Except Failure α
  scripts : Scripts
  trace : Trace

/-- A use of databases. -/
def Action (α : Type) : Type := Scripts → Execution α

namespace Action

variable {α β : Type}

/-- The action that does nothing. -/
protected def pure (a : α) : Action α := fun scripts => ⟨.ok a, scripts, []⟩

/-- One action after the other; a failure of the first leaves the second out. -/
protected def bind (first : Action α) (next : α → Action β) : Action β := fun scripts =>
  let done := first scripts
  match done.result with
  | .ok a =>
    let rest := next a done.scripts
    ⟨rest.result, rest.scripts, done.trace ++ rest.trace⟩
  | .error failure => ⟨.error failure, done.scripts, done.trace⟩

instance : Monad Action where
  pure := Action.pure
  bind := Action.bind

/-- The action that fails. -/
def fail (failure : Failure) : Action α := fun scripts => ⟨.error failure, scripts, []⟩

/-- The action that has one effect. -/
def emit (effect : Effect) : Action Unit := fun scripts => ⟨.ok (), scripts, [effect]⟩

/-- A record in the log. -/
def log (level : Logging.Level) (channel : Channel) (message : String) : Action Unit :=
  emit (.log ⟨level, channel, message⟩)

/-- What has been computed, with its error as a failure. -/
def ofExcept {ε : Type} (toFailure : ε → Failure) : Except ε α → Action α
  | .ok a => Action.pure a
  | .error error => fail (toFailure error)

/-- A statement on an engine: the engine takes its next outcome, which may be a failure. -/
def execute (engine : Engine) (sql : String) (bindings : Option (List Value)) : Action Outcome :=
  fun scripts =>
    { result := match scripts.next engine.script with
        | .failed fault => .error (.engine fault)
        | outcome => .ok outcome
      scripts := scripts.advance engine.script
      trace := [.event (.execute engine.name sql bindings)] }

/-- An action inside a transaction, which is committed when the action succeeds and rolled back when
it fails. -/
def transaction (engine : Engine) (body : Action α) : Action α := fun scripts =>
  let done := body scripts
  let last := match done.result with
    | .ok _ => Event.commit engine.name
    | .error _ => Event.rollback engine.name
  { done with trace := .event (.begin engine.name) :: (done.trace ++ [.event last]) }

/-- An action whose failure is logged when an engine is to blame and the failure is a database
error. -/
def reporting (message : EngineFault → String) (body : Action α) : Action α := fun scripts =>
  let done := body scripts
  match done.result with
  | .error (.engine fault) =>
    if fault.isReported then
      { done with trace := done.trace ++ [.log ⟨.error, .database, message fault⟩] }
    else done
  | _ => done

end Action

end TableModel
