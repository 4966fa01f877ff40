/-
# TableModel.Proofs.Session.Insertion — rows inserted at once and one by one

Inserting rows at once is the atomic form of inserting them one by one. The rows pass the same checks
and give the same statements in the same order. One by one, each statement has a transaction, and the
next row is tried whatever has become of the last one; at once, all statements share a transaction,
which ends with the first failure. And a row that is rejected keeps all rows from the engine.
-/
import TableModel.Proofs.Schema.Restated
import TableModel.Proofs.Session.Plan

namespace TableModel

/-! ## What is compared -/

/-- A step was rejected: it failed and no engine is to blame. -/
def Report.isRejected (report : Report) : Bool :=
  match report.result with
  | .ok _ => false
  | .error failure => !failure.isEngine

namespace Session

/-- Statements sent one by one and at once, with the outcomes that await them in the session. -/
structure SendsAtOnce (session : Session) (engine : Engine) (statements : List Sent)
    (atOnce : Report) (singly : List Report) : Prop where
  /-- One by one, each statement has its transaction. -/
  alone : singly.map (fun report => report.trace.events)
    = (engine.awaited session.scripts statements).map fun attempt => (attempt.alone engine).events
  /-- With successes to come, all statements are committed in one transaction, and they yield what
  they yield one by one. -/
  committed : (∀ attempt ∈ engine.awaited session.scripts statements,
      attempt.outcome.fault? = none) →
    atOnce.trace.events
        = Transaction.events ⟨engine, engine.awaited session.scripts statements, true⟩ ∧
      ∃ results, atOnce.result = .ok (.results results) ∧
        singly.map Report.result = results.map fun result => .ok (.result result)
  /-- With a failure to come, the statements are sent up to the first one that fails, which is what
  the step fails with, and the transaction is rolled back. -/
  rolledBack : ∀ k attempt fault, (engine.awaited session.scripts statements)[k]? = some attempt →
    attempt.outcome = .failed fault →
    (∀ earlier ∈ (engine.awaited session.scripts statements).take k,
      earlier.outcome.fault? = none) →
    atOnce.trace.events = Transaction.events
        ⟨engine, (engine.awaited session.scripts statements).take (k + 1), false⟩ ∧
      atOnce.result = .error (.engine fault)

/-- The steps that insert rows one by one. -/
def insertions (id : String) (orReplace : Value) (items : List Value) : List Step :=
  items.map fun row => .call id (.insertOne row orReplace)

/-- Rows inserted into a model at once by a step of the session, and one by one by a run of it. -/
structure InsertsAtOnce (session : Session) (id : String) (atOnce : Report × Session)
    (singly : List Report) : Prop where
  /-- The first row that is rejected decides, and nothing reaches the engine. -/
  refused : ∀ report, singly.find? Report.isRejected = some report →
    atOnce.1.result = report.result ∧ atOnce.1.trace.events = [] ∧ atOnce.2 = session
  /-- Without one, the statements of the rows are sent at once to the model's database. -/
  accepted : singly.find? Report.isRejected = none →
    ∃ model engine statements, session.models.find? id = some model ∧
      model.database = some engine ∧ session.SendsAtOnce engine statements atOnce.1 singly

end Session

open TableModel.Action

/-! ## A single row -/

theorem Report.isRejected_of_own {report : Report} {failure : Failure}
    (h : report.result = .error failure) (own : failure.isEngine = false) :
    report.isRejected = true := by
  simp only [isRejected, h, own, Bool.not_false]

/-- What yields the verdict on an outcome was not rejected. -/
theorem Report.isRejected_of_verdict {report : Report} {outcome : Outcome}
    (h : report.result = outcome.verdict.map .result) : report.isRejected = false := by
  rw [isRejected, h, Outcome.verdict]
  cases outcome.fault? <;> rfl

namespace Session

variable (session : Session) {id : String} {model : Model} {row orReplace : Value}

theorem plan_insertOne (found : session.models.find? id = some model) :
    session.plan (.call id (.insertOne row orReplace))
      = model.requestPlan (model.insertRequest row orReplace) := by
  rw [plan, lookup_eq_ok.mpr found]
  rfl

/-- A row without a statement is rejected. -/
theorem refused_insertOne (found : session.models.find? id = some model) {failure : Failure}
    (unmade : model.prepared (model.insertRequest row orReplace) = .error failure) :
    session.Refused (session.step (.call id (.insertOne row orReplace))) failure := by
  have obeys : session.Obeys (.call id (.insertOne row orReplace)) _ _ :=
    session.step_obeys (by simp)
  rw [session.plan_insertOne found, Model.requestPlan, unmade] at obeys
  exact obeys

/-- A row with a statement has it sent, and takes one outcome from the script of its engine. -/
theorem step_insertOne (found : session.models.find? id = some model) {prepared : Prepared}
    (made : model.prepared (model.insertRequest row orReplace) = .ok prepared) :
    ∃ trace, Trace.events trace = (Attempt.alone prepared.engine
          ⟨prepared.sent, session.scripts.next prepared.engine.script⟩).events ∧
      session.step (.call id (.insertOne row orReplace))
        = (⟨(session.scripts.next prepared.engine.script).verdict.map .result, trace⟩,
            { session with scripts := session.scripts.advance prepared.engine.script }) := by
  have runs : Runs (model.insertOne row orReplace) [prepared.errand] := by
    have carries := model.carries_request (model.insertRequest row orReplace) Prepared.performs_run
    rw [Model.requestPlan, made] at carries
    exact carries.runs
  have events := (runs session.scripts).events_eq
  have drained := (runs session.scripts).scripts_eq
  rw [Errand.transactions_singleton, List.flatMap_singleton, Prepared.errand,
    Errand.transaction_single] at events
  rw [Errand.drainAll_singleton, Prepared.errand, Errand.drain_single] at drained
  refine ⟨(model.insertOne row orReplace session.scripts).trace, events, ?_⟩
  rw [Session.step, lookup_eq_ok.mpr found]
  dsimp only
  rw [callModel, session.use_eq, model.result_insertOne made, drained]

/-! ## Rows one by one -/

/-- The first row without a statement is the first to be rejected. -/
theorem find?_insertions_of_error {items : List Value} {failure : Failure}
    (found : session.models.find? id = some model)
    (unmade : model.preparedRows orReplace items = .error failure) :
    ∃ report, (session.run (insertions id orReplace items)).find? Report.isRejected = some report ∧
      report.result = .error failure := by
  induction items generalizing session with
  | nil => cases unmade
  | cons row rest ih =>
    rw [insertions, List.map_cons, run, List.find?_cons]
    rw [Model.preparedRows, List.mapM_cons] at unmade
    rcases bind_eq_error.mp unmade with unmade | ⟨prepared, made, unmade⟩
    · have refused := session.refused_insertOne found unmade
      refine ⟨(session.step (.call id (.insertOne row orReplace))).1, ?_, refused.result_eq⟩
      rw [Report.isRejected_of_own refused.result_eq refused.own]
    · obtain ⟨trace, -, h⟩ := session.step_insertOne found made
      rcases bind_eq_error.mp unmade with unmade | ⟨statements, -, never⟩
      · rw [h, Report.isRejected_of_verdict rfl]
        exact ih { session with scripts := session.scripts.advance prepared.engine.script } found
          unmade
      · cases never

/-- Rows with statements have them sent, each with the outcome that awaits it. -/
theorem run_insertions {items : List Value} {statements : List Prepared} {engine : Engine}
    (found : session.models.find? id = some model) (bound : model.database = some engine)
    (made : model.preparedRows orReplace items = .ok statements) :
    (session.run (insertions id orReplace items)).map (fun report => report.trace.events)
        = (engine.awaited session.scripts (statements.map Prepared.sent)).map
            (fun attempt => (attempt.alone engine).events) ∧
      (session.run (insertions id orReplace items)).map Report.result
        = (engine.awaited session.scripts (statements.map Prepared.sent)).map
            fun attempt => attempt.outcome.verdict.map .result := by
  induction items generalizing session statements with
  | nil =>
    obtain rfl := pure_eq_ok.mp made
    exact ⟨rfl, rfl⟩
  | cons row rest ih =>
    rw [Model.preparedRows, List.mapM_cons] at made
    obtain ⟨prepared, first, chain⟩ := bind_eq_ok.mp made
    obtain ⟨others, next, last⟩ := bind_eq_ok.mp chain
    obtain rfl := pure_eq_ok.mp last
    obtain ⟨statement, own, -, hown, rfl⟩ := model.prepared_eq_ok.mp first
    obtain rfl := Option.some.inj (bound.symm.trans hown)
    obtain ⟨trace, events, h⟩ := session.step_insertOne found first
    obtain ⟨restEvents, restResults⟩ :=
      ih { session with scripts := session.scripts.advance engine.script } found next
    rw [insertions, List.map_cons, run, h, List.map_cons, List.map_cons, List.map_cons,
      Engine.awaited, List.map_cons, List.map_cons]
    exact ⟨congr (congrArg List.cons events) restEvents, congrArg (List.cons _) restResults⟩

/-! ## Rows at once -/

/-- A first rejection that is also the step's own, before it has reached an engine. -/
theorem insertsAtOnce_of_refused {atOnce : Report × Session} {singly : List Report}
    {failure : Failure} (refused : session.Refused atOnce failure)
    (first : ∃ report, singly.find? Report.isRejected = some report ∧
      report.result = .error failure) :
    session.InsertsAtOnce id atOnce singly := by
  obtain ⟨report, found, result⟩ := first
  refine ⟨fun other h => ?_, fun none => ?_⟩
  · obtain rfl := Option.some.inj (found.symm.trans h)
    exact ⟨refused.result_eq.trans result.symm, refused.events_eq, refused.state_eq⟩
  · cases found.symm.trans none

/-- Statements in one transaction, compared with the reports of each by itself. -/
theorem sendsAtOnce {engine : Engine} {statements : List Sent} {atOnce : Report}
    {singly : List Report}
    (events : atOnce.trace.events
      = (Errand.transaction ⟨engine, statements⟩ session.scripts).events)
    (result : atOnce.result
      = (Errand.transaction ⟨engine, statements⟩ session.scripts).verdict.map .results)
    (alone : singly.map (fun report => report.trace.events)
      = (engine.awaited session.scripts statements).map fun attempt =>
          (attempt.alone engine).events)
    (results : singly.map Report.result
      = (engine.awaited session.scripts statements).map fun attempt =>
          attempt.outcome.verdict.map .result) :
    session.SendsAtOnce engine statements atOnce singly := by
  refine ⟨alone, fun succeed => ?_, fun k attempt fault at_k fails before => ?_⟩
  · have whole := @Errand.transaction_of_awaited_succeed ⟨engine, statements⟩ session.scripts succeed
    have succeeded : Transaction.fault?
        ⟨engine, engine.awaited session.scripts statements, true⟩ = none :=
      Transaction.fault?_eq_none.mpr (List.forall_mem_map.mpr succeed)
    rw [whole] at events result
    rw [Transaction.verdict_of_succeeded succeeded] at result
    refine ⟨events, _, result, ?_⟩
    rw [results, Transaction.outcomes, List.map_map, List.map_map]
    refine List.map_congr_left fun attempt h => ?_
    rw [Outcome.verdict, succeed attempt h]
    rfl
  · have failed := Outcome.fault?_eq_some.mpr fails
    have cut := @Errand.transaction_of_awaited_fails ⟨engine, statements⟩ session.scripts _ _ _ at_k
      failed before
    have raised := @Errand.fault?_of_awaited_fails ⟨engine, statements⟩ session.scripts _ _ _ at_k
      failed before
    rw [Transaction.verdict_of_failed raised] at result
    rw [cut] at events
    exact ⟨events, result⟩

/-- Inserting rows at once is inserting them one by one in a single transaction. -/
theorem insertMany_inserts_at_once {rows : Value} {items : List Value}
    (listed : rows.items? = some items) (given : items ≠ []) :
    session.InsertsAtOnce id (session.step (.call id (.insertMany rows orReplace)))
      (session.run (insertions id orReplace items)) := by
  have obeys : session.Obeys (.call id (.insertMany rows orReplace)) _ _ :=
    session.step_obeys (by simp)
  cases found : session.models.find? id with
  | none =>
    have missing : lookup session.models id = .error .unknownIdentifier := by
      rw [lookup, found]
    rw [plan, missing] at obeys
    refine session.insertsAtOnce_of_refused obeys ?_
    obtain ⟨row, rest, rfl⟩ := List.exists_cons_of_ne_nil given
    refine ⟨⟨.error .unknownIdentifier, []⟩, ?_, rfl⟩
    rw [insertions, List.map_cons, run, Session.step, missing]
    rfl
  | some model =>
    rw [plan, lookup_eq_ok.mpr found, ok_bind, callPlan] at obeys
    cases made : model.preparedRows orReplace items with
    | error failure =>
      rw [Model.batchPlan, listed] at obeys
      dsimp only at obeys
      rw [made] at obeys
      exact session.insertsAtOnce_of_refused obeys (session.find?_insertions_of_error found made)
    | ok statements =>
      obtain ⟨engine, bound⟩ := model.bound_of_preparedRows made given
      obtain ⟨alone, results⟩ := session.run_insertions found bound made
      refine ⟨fun report h => ?_, fun _ =>
        ⟨model, engine, statements.map Prepared.sent, found, bound, ?_⟩⟩
      · have rejected := List.find?_some h
        have member := List.mem_map_of_mem (f := Report.result) (List.mem_of_find?_eq_some h)
        rw [results] at member
        obtain ⟨attempt, -, result⟩ := List.mem_map.mp member
        rw [Report.isRejected_of_verdict result.symm] at rejected
        cases rejected
      · rw [Model.batchPlan_of_preparedRows listed made given bound] at obeys
        have events := obeys.events_eq
        rw [Errand.transactions_singleton, List.flatMap_singleton] at events
        refine session.sendsAtOnce events ?_ alone results
        rw [Session.step, lookup_eq_ok.mpr found]
        dsimp only
        rw [callModel, session.use_eq, model.result_insertMany listed made given bound]
        rfl

/-- A session with a model of users that is bound to an engine whose second statement will fail. -/
def insertingUsers : Session :=
  let engine : Engine := ⟨"e", "sqlite", [], 0⟩
  { scripts := [[.changed 1 (some 7), .failed ⟨.general, "boom"⟩]]
    databases := [("e", engine)]
    models := [("users", ⟨Schema.users, some engine⟩)] }

/-- Two rows with statements are sent at once, and a row without a value keeps the other one back. -/
theorem insertMany_of_users :
    let row : Value := .map [(.text "name", .text "ada")]
    let together := fun rows => insertingUsers.step (.call "users" (.insertMany (.list rows) .null))
    let singly := fun rows => insertingUsers.run (insertions "users" .null rows)
    (∃ model engine statements, insertingUsers.models.find? "users" = some model ∧
      model.database = some engine ∧
        Schema.ofDefinition Schema.usersOptions Schema.usersColumns = .ok model.schema ∧
          insertingUsers.SendsAtOnce engine statements (together [row, row]).1 (singly [row, row])) ∧
      ((together [row, .null]).1.result = .error (.statement .insertWithoutData) ∧
        (together [row, .null]).1.trace.events = [] ∧
          (together [row, .null]).2 = insertingUsers) := by
  intro row together singly
  have both : insertingUsers.InsertsAtOnce "users" (together [row, row]) (singly [row, row]) :=
    insertMany_inserts_at_once _ rfl (by simp)
  have missing : insertingUsers.InsertsAtOnce "users" (together [row, .null]) (singly [row, .null]) :=
    insertMany_inserts_at_once _ rfl (by simp)
  obtain ⟨model, engine, statements, found, bound, sends⟩ := both.accepted rfl
  obtain rfl : ⟨Schema.users, some ⟨"e", "sqlite", [], 0⟩⟩ = model := Option.some.inj found
  exact ⟨⟨_, engine, statements, found, bound, rfl, sends⟩,
    missing.refused ⟨.error (.statement .insertWithoutData), []⟩ rfl⟩

end Session

end TableModel
