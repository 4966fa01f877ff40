/-
# TableModel.Proofs.Session.FirstRow — the first row is the first of all rows

A model can be asked for the first row that passes a filter, or for all rows of clauses, and so can a
prepared statement. Asking for the first row is asking for all rows, at most one of them in the case of
a model, and taking the first. The two ways bundle their clauses differently and take their results
apart in different places, but up to the result they are the same: they are refused for the same
reason, or they send the same statement and leave the same log, whatever the filter and whatever the
engine has to say.
-/
import TableModel.Proofs.Session.Plan
import TableModel.Proofs.Statement.Spellings

namespace TableModel

open TableModel.Action

/-! ## The first row of a result -/

/-- The first row of a result as a mapping, and null when there are no rows. -/
def QueryResult.firstRow (result : QueryResult) : Value :=
  match result.rows with
  | [] => .null
  | row :: _ => .map row

/-- A row is never null, not even one without columns. -/
theorem QueryResult.firstRow_eq_null (result : QueryResult) :
    result.firstRow = .null ↔ result.rows = [] := by
  unfold firstRow
  cases result.rows with
  | nil => exact ⟨fun _ => rfl, fun _ => rfl⟩
  | cons row rest => simp

/-- Without a column, the first row is what is made of the result. -/
theorem Prepared.first_null (statement : Prepared) :
    statement.first .null = statement.run >>= fun result => pure result.firstRow := by
  refine congrArg (statement.run >>= ·) (funext fun result => ?_)
  unfold QueryResult.firstRow
  cases result.rows with
  | nil => rfl
  | cons row rest => rfl

theorem Action.bind_assoc {α β γ : Type} (first : Action α) (next : α → Action β)
    (last : β → Action γ) :
    first >>= next >>= last = first >>= fun a => next a >>= last := by
  funext scripts
  cases h : (first scripts).result with
  | error failure => rw [bind_of_error h, bind_of_error (by rw [bind_of_error h]), bind_of_error h]
  | ok a =>
    rw [bind_of_ok h]
    cases h' : (next a (first scripts).scripts).result with
    | error failure =>
      rw [bind_of_error h', bind_of_error (by rw [bind_of_ok h, h']), bind_of_ok h]
    | ok b =>
      rw [bind_of_ok h', bind_of_ok (by rw [bind_of_ok h, h']), bind_of_ok h, List.append_assoc]

namespace Session

variable (session : Session)

/-! ## Two turns side by side -/

/-- One statement was sent for two turns, each time by itself in a transaction and with the same
outcome: the one turn yields the result and the other one the first row of it, or both yield the
failure. -/
structure SendsForFirst (first all : Report × Session) (statement : Prepared) : Prop where
  events_eq : all.1.trace.events = (Attempt.alone statement.engine
    ⟨statement.sent, session.scripts.next statement.engine.script⟩).events
  all_eq : all.1.result = (session.scripts.next statement.engine.script).verdict.map .result
  first_eq : first.1.result = (session.scripts.next statement.engine.script).verdict.map
    fun result => .value result.firstRow

/-- Two turns agree on everything but what they make of the result of the one statement they send. -/
structure AgreesOnFirst (first all : Report × Session) : Prop where
  /-- The engines and the log see the same of both. -/
  trace_eq : first.1.trace = all.1.trace
  /-- Both leave the same session behind. -/
  state_eq : first.2 = all.2
  /-- Both are refused for the same reason, or both send the same statement. -/
  outcomes : (∃ failure, session.Refused first failure ∧ session.Refused all failure) ∨
    ∃ statement, session.SendsForFirst first all statement

variable {session}

theorem agreesOnFirst_of_refuse {failure : Failure} (own : failure.isEngine = false) :
    session.AgreesOnFirst (session.refuse failure) (session.refuse failure) where
  trace_eq := rfl
  state_eq := rfl
  outcomes := by
    have refused : session.Refused (session.refuse failure) failure := ⟨rfl, own, rfl, rfl, rfl⟩
    exact .inl ⟨failure, refused, refused⟩

theorem refused_use {α : Type} {action : Action α} {reply : α → Reply} {failure : Failure}
    (silent : Silent action (.error failure)) (own : failure.isEngine = false) :
    session.Refused (session.use action reply) failure := by
  rw [use_eq, silent.result_eq, silent.scripts_eq]
  exact ⟨rfl, own, silent.events_eq _, silent.account_eq _, rfl⟩

/-- Whatever prepares the statement without reaching an engine, the first row that it yields is the
first of all rows. -/
theorem agreesOnFirst_of_silent {preparing : Action Prepared} {planned : Except Failure Prepared}
    (silent : Silent preparing planned)
    (own : ∀ failure, planned = .error failure → failure.isEngine = false) :
    session.AgreesOnFirst
      (session.use (preparing >>= fun statement => statement.first .null) .value)
      (session.use (preparing >>= Prepared.run) .result) := by
  have taken : (preparing >>= fun statement => statement.first .null)
      = preparing >>= Prepared.run >>= fun result => pure result.firstRow := by
    simp only [Prepared.first_null, bind_assoc]
  rw [taken]
  refine ⟨?_, ?_, ?_⟩
  · rw [use_eq, use_eq, bind_pure_apply]
  · rw [use_eq, use_eq, bind_pure_apply]
  · cases planned with
    | error failure =>
      have refused : Silent (preparing >>= Prepared.run) (.error failure) := silent.bind_error
      exact .inl ⟨failure, refused_use refused.bind_error (own failure rfl),
        refused_use refused (own failure rfl)⟩
    | ok statement =>
      have events := ((Performs.after_silent silent statement.performs_run).runs
        session.scripts).events_eq
      rw [Errand.transactions_singleton, List.flatMap_singleton, Prepared.errand,
        Errand.transaction_single] at events
      have result : ((preparing >>= Prepared.run) session.scripts).result
          = (session.scripts.next statement.engine.script).verdict := by
        rw [silent.result_bind, statement.result_run]
      refine .inr ⟨statement, ?_, ?_, ?_⟩
      · rw [use_eq]
        exact events
      · rw [use_eq, result]
      · rw [use_eq, bind_pure_apply, result]
        cases (session.scripts.next statement.engine.script).verdict <;> rfl

end Session

/-! ## The two requests -/

/-- The clauses of at most one row that passes a filter, as a mapping. -/
def firstClauses (filter : Value) : Value :=
  .map [(.text "where", filter), (.text "limit", .int 1)]

namespace Model

variable (model : Model) (filter : Value)

/-- The record and the mapping spell the same clauses. -/
theorem respelled_firstRequest :
    (model.firstRequest filter).Respelled (model.allRequest (firstClauses filter)) where
  kind := .same _
  table := rfl
  clauses := by
    let clauses : Clauses := { filter, limit := .int 1 }
    let others : List (String × Value) :=
      [("data", .null), ("upsert_only_update_data", .null), ("offset", .null), ("order_by", .null)]
    have mapping : clauses.SpelledAs (firstClauses filter) := by
      refine .mapping ⟨others, by simp [others, Clauses.fields, ClauseName.key], .cons _ ?_⟩
      -- the limit stands before the data and the updates that are left out
      have turned : ([("limit", Value.int 1)] ++ others.take 2).Perm
          (others.take 2 ++ [("limit", .int 1)]) := List.perm_append_comm
      exact (turned.append_right (others.drop 2)).map fun field => (Value.text field.1, field.2)
    have itself : clauses.SpelledAs clauses.toValue := .record
    exact .spelled itself mapping (.refl clauses)
  target := .same _

theorem prepareRequest_congr {request other : Request} (same : request.statement = other.statement) :
    model.prepareRequest request = model.prepareRequest other := by
  rw [prepareRequest, prepareRequest, Request.generate, Request.generate, same]

theorem first_eq :
    model.first filter = model.prepareRequest (model.allRequest (firstClauses filter)) >>=
      fun statement => statement.first .null := by
  have same := Request.statement_congr (model.respelled_firstRequest filter)
  rw [first, model.prepareRequest_congr same]

end Model

namespace Session

variable (session : Session)

theorem call_first_agrees (id : String) (filter : Value) :
    session.AgreesOnFirst (session.step (.call id (.first filter)))
      (session.step (.call id (.all (firstClauses filter)))) := by
  rw [step, step]
  cases found : lookup session.models id with
  | error failure => exact agreesOnFirst_of_refuse (isEngine_of_lookup found)
  | ok model =>
    dsimp only
    rw [callModel, callModel, model.first_eq, Model.all]
    exact agreesOnFirst_of_silent (model.silent_prepareRequest _) fun _ => model.isEngine_of_prepared

theorem statement_first_agrees (id : String) :
    session.AgreesOnFirst (session.step (.first id .null)) (session.step (.all id)) := by
  rw [step, step]
  cases found : lookup session.statements id with
  | error failure => exact agreesOnFirst_of_refuse (isEngine_of_lookup found)
  | ok statement =>
    have silent : Silent (pure statement) (.ok statement) := Silent.pure statement
    exact agreesOnFirst_of_silent silent (by simp)

/-- In every session, the first row that a model or a prepared statement yields is the first of all
rows, and it is null exactly when there are none. -/
theorem first_is_first_of_all :
    (∀ id filter, session.AgreesOnFirst (session.step (.call id (.first filter)))
      (session.step (.call id (.all (.map [(.text "where", filter), (.text "limit", .int 1)]))))) ∧
    (∀ id, session.AgreesOnFirst (session.step (.first id .null)) (session.step (.all id))) ∧
    ∀ result : QueryResult, result.firstRow = .null ↔ result.rows = [] :=
  ⟨session.call_first_agrees, session.statement_first_agrees, QueryResult.firstRow_eq_null⟩

end Session

end TableModel
