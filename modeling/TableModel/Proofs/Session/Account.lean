/-
# TableModel.Proofs.Session.Account — what the log of a session says about its statements

Statements are logged in one place and sent in another, in three ways: by themselves, in a batch, and
raw. Whichever way it is and wherever a failure comes, the notices in the log are those of the
statements that have reached an engine, those that failed included. A transaction that is rolled back
because of a database error has one report, which stands after the notices of its statements; there are
no other reports of errors, whatever else has gone wrong.
-/
import TableModel.Proofs.Session.Transactions

namespace TableModel

/-- The statement that reaches an engine by an event. -/
def Event.sent? : Event → Option Sent
  | .execute _ sql bindings => some ⟨sql, bindings⟩
  | _ => none

namespace Transaction

/-- What reaches an engine by a transaction are the statements that it sent. -/
theorem filterMap_sent?_events (transaction : Transaction) :
    transaction.events.filterMap Event.sent? = transaction.sent := by
  have closed : transaction.closing.sent? = none := by
    unfold closing
    split <;> rfl
  have each : ∀ sents : List Sent,
      (sents.map transaction.engine.executed).filterMap Event.sent? = sents := by
    intro sents
    rw [List.filterMap_map]
    exact List.filterMap_some
  rw [events, List.filterMap_cons_none rfl, List.filterMap_append, each,
    List.filterMap_cons_none closed, List.filterMap_nil, List.append_nil]

theorem filterMap_sent?_flatMap_events (transactions : List Transaction) :
    (transactions.flatMap events).filterMap Event.sent? = transactions.flatMap sent := by
  induction transactions with
  | nil => rfl
  | cons transaction rest ih =>
    rw [List.flatMap_cons, List.filterMap_append, transaction.filterMap_sent?_events, ih,
      List.flatMap_cons]

end Transaction

namespace Trace

/-- What is said in the account is all that the log says of its kind. -/
theorem filter_account {kind : LogRecord → Bool} (inside : ∀ record, kind record = true →
    record.isAccount = true) (trace : Trace) :
    trace.account.filter kind = trace.records.filter kind := by
  rw [account, List.filter_filter]
  refine List.filter_congr fun record _ => ?_
  cases h : kind record with
  | false => rfl
  | true => rw [inside record h]; rfl

theorem filter_announces_account (trace : Trace) :
    trace.account.filter LogRecord.announces = trace.records.filter LogRecord.announces := by
  refine filter_account (fun record announces => ?_) trace
  rw [LogRecord.announces, Bool.and_eq_true] at announces
  rw [LogRecord.isAccount, announces.1, Bool.true_or]

theorem filter_isReport_account (trace : Trace) :
    trace.account.filter LogRecord.isReport = trace.records.filter LogRecord.isReport := by
  refine filter_account (fun record isReport => ?_) trace
  rw [LogRecord.isAccount, isReport, Bool.or_true]

end Trace

namespace Session

variable (session : Session) {step : Step}

/-- The log of a step says what has reached the engines, and what became of it. -/
structure Recounts (step : Step) (report : Report) : Prop where
  /-- The notices in the log are those of the statements that were sent, in their order. -/
  noticed : report.trace.records.filter LogRecord.announces
    = (report.trace.events.filterMap Event.sent?).map Sent.notice
  /-- The step's transactions are told one after the other, and nothing else is told of databases. Of
  all records, those of an error are one for each transaction that was rolled back because of a
  database error. -/
  told : ∃ transactions, session.Transacts step report transactions ∧
    Chronicle transactions report.trace.account ∧
      List.Forall₂ (fun record fault => record.Reports fault)
        (report.trace.records.filter LogRecord.isReport)
        (transactions.filterMap Transaction.reportedFault?)

/-- A step whose account is the chronicle of its transactions is recounted by its log. -/
theorem recounts_of_chronicle {report : Report} {transactions : List Transaction}
    (transacts : session.Transacts step report transactions)
    (sent : report.trace.events.filterMap Event.sent? = transactions.flatMap Transaction.sent)
    (chronicle : Chronicle transactions report.trace.account) : session.Recounts step report where
  noticed := by
    rw [← Trace.filter_announces_account, chronicle.filter_announces, sent, List.map_flatMap]
  told := by
    refine ⟨transactions, transacts, chronicle, ?_⟩
    rw [← Trace.filter_isReport_account]
    exact chronicle.filter_isReport

/-- The step that a session takes is recounted by its log. -/
theorem recounts_step (step : Step) : session.Recounts step (session.step step).1 := by
  rcases session.step_cases step with
    ⟨failure, planned, refused⟩ | ⟨errands, planned, notDump, enacted⟩ |
      ⟨id, engine, text, rfl, found, dumped⟩
  · have unasked : ∀ engine statements, ¬ session.AsksBatch step engine statements := by
      intro engine statements asks
      cases planned.symm.trans (session.plan_of_asksBatch asks)
    refine session.recounts_of_chronicle (session.transacts_of_refused refused unasked) ?_ ?_
    · rw [refused.events_eq]
      rfl
    · rw [refused.untold]
      exact .nil
  · refine session.recounts_of_chronicle (session.transacts_of_enacted enacted planned notDump) ?_
      enacted.told
    rw [enacted.events_eq, Transaction.filterMap_sent?_flatMap_events]
  · -- connecting to an engine and closing the connection sends no statement
    refine session.recounts_of_chronicle (session.transacts_of_dumped found dumped) ?_ ?_
    · rw [dumped]
      rfl
    · rw [dumped]
      exact .nil

/-- Every step of every session is recounted by its log. -/
theorem log_recounts_run (steps : List Step) :
    List.Forall₂ (fun turn report => turn.1.Recounts turn.2 report)
      (session.turns steps) (session.run steps) := by
  induction steps generalizing session with
  | nil => exact .nil
  | cons step rest ih => exact .cons (session.recounts_step step) (ih (session.step step).2)

/-- A batch whose second statement fails leaves out the third. -/
def batchFailingInTheMiddle : List Step :=
  [.engine "e" "sqlite" [.changed 1 none, .failed ⟨.general, "locked"⟩] [],
    .prepare "p" "e" "DELETE FROM t", .batch "e" ["p", "p", "p"]]

example : ((run {} batchFailingInTheMiddle).map fun report =>
    report.trace.records.map fun record => (record.level, record.message))
    = [[], [],
      [(.debug, "Executing: DELETE FROM t with bindings ()"),
        (.debug, "Executing: DELETE FROM t with bindings ()"),
        (.error, "Batch of 3 statements rolled back: locked")]] := by
  decide

end Session

end TableModel
