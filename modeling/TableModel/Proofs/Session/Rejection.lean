/-
# TableModel.Proofs.Session.Rejection — a rejected step leaves everything as it was

A step is rejected when it fails and no engine is to blame. All checks come before the first
transaction, wherever they are made: a rejected step has begun none, has sent nothing and taken no
outcome from a script, and the session after it is the session before it.

There is one check that needs a result: whether the first row has the column that is asked for. A
step that fails there has run its statement, and even so it has changed no model.
-/
import TableModel.Proofs.Schema.Restated
import TableModel.Proofs.Session.Plan

namespace TableModel

namespace Session

variable (session : Session) {step : Step} {failure : Failure}

/-- What ran its errands was rejected for the column of the first row, or not at all. -/
theorem missesColumn_of_enacted {turn : Report × Session} {errands : List Errand}
    (enacted : session.Enacted step turn errands) (rejected : turn.1.result = .error failure)
    (own : failure.isEngine = false) : session.MissesColumn step := by
  rcases enacted.blamed failure rejected with engine | misses
  · rw [own] at engine
    cases engine
  · exact misses

/-- A rejected step keeps all models. It has reached no engine and left the session as it was, unless
it asks for a column that the first row of its statement's result lacks. -/
theorem rejected_step_reaches_no_engine
    (rejected : (session.step step).1.result = .error failure) (own : failure.isEngine = false) :
    (session.step step).2.models = session.models ∧
      ((session.step step).1.trace.events = [] ∧ (session.step step).2 = session ∨
        session.MissesColumn step) := by
  rcases session.step_cases step with
    ⟨reason, -, refused⟩ | ⟨errands, -, -, enacted⟩ | ⟨id, engine, text, -, -, h⟩
  · exact ⟨congrArg models refused.state_eq, Or.inl ⟨refused.events_eq, refused.state_eq⟩⟩
  · exact ⟨enacted.models_eq failure rejected,
      Or.inr (session.missesColumn_of_enacted enacted rejected own)⟩
  · rw [h] at rejected
    cases rejected

/-- A table that is to be created by force is not dropped when its model has no database, though there
is an engine that would answer. -/
theorem force_without_database_reaches_no_engine :
    let unbound : Model := ⟨Schema.users, none⟩
    let session : Session := {
      scripts := [[.changed 0 none, .changed 0 none]]
      databases := [("e", ⟨"e", "sqlite", [], 0⟩)]
      models := [("users", unbound)] }
    let step : Step := .call "users" (.createTable (.text "force"))
    Schema.ofDefinition Schema.usersOptions Schema.usersColumns = .ok unbound.schema ∧
      (session.step step).1.result = .error (.noDatabase (.plain "users")) ∧
        (session.step step).2.models = session.models ∧
          ((session.step step).1.trace.events = [] ∧ (session.step step).2 = session ∨
            session.MissesColumn step) := by
  intro unbound session step
  have rejected : (session.step step).1.result = .error (.noDatabase (.plain "users")) := rfl
  exact ⟨rfl, rejected, session.rejected_step_reaches_no_engine rejected rfl⟩

end Session

end TableModel
