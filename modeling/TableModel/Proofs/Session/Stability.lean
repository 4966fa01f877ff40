/-
# TableModel.Proofs.Session.Stability — nothing changes behind one's back

Several models share a database, statements are made from one another, batches mix them, and any step
may fail. None of this shows in a model or in a statement: a model is the table that it was made for,
on the database that was set last, and a statement sends the text that it was prepared with and the
values that were bound on the way to it. Both can be told from the steps of the session, and they can
be seen from the engine.
-/
import TableModel.Proofs.Session.History

namespace TableModel

/-- A step that sends the statement under an identifier in a transaction of its own. -/
def Step.SendsAlone (id : String) : Step → Prop
  | .run statement | .all statement | .first statement _ => statement = id
  | _ => False

namespace Session

variable {session : Session} {steps : List Step} {step : Step} {id : String}

/-! ## What is sent -/

/-- A step that is planned as a single errand shows the engine that errand's transaction. -/
theorem events_of_single_errand {errand : Errand} (notDump : ∀ id, step ≠ .dump id)
    (planned : session.plan step = .ok [errand]) :
    (session.step step).1.trace.events = (errand.transaction session.scripts).events := by
  have obeys := session.step_obeys notDump
  rw [planned] at obeys
  have events := obeys.events_eq
  rwa [Errand.transactions_singleton, List.flatMap_singleton] at events

/-- A statement by itself is one transaction on the engine that it was prepared on. -/
theorem events_of_sendsAlone {statement : Prepared} (found : session.statements.find? id = some statement)
    (alone : step.SendsAlone id) :
    (session.step step).1.trace.events = (Attempt.alone statement.engine
      ⟨statement.sent, session.scripts.next statement.engine.script⟩).events := by
  have planned : session.plan step = .ok [statement.errand] := by
    cases step with
    | run | all | first =>
      obtain rfl := alone
      rw [plan, lookup_eq_ok.mpr found]
      rfl
    | _ => exact alone.elim
  have notDump : ∀ id, step ≠ .dump id := by
    rintro other rfl
    exact alone
  rw [events_of_single_errand notDump planned, ← Errand.transaction_single]
  rfl

/-- A batch is one transaction on the engine of the batch, and sends its statements in their order as
far as it gets. -/
theorem events_of_batch {database : String} {ids : List String} {engine : Engine}
    {statements : List Prepared} (found : session.databases.find? database = some engine)
    (each : List.Forall₂ (fun id statement => session.statements.find? id = some statement)
      ids statements) :
    ∃ transaction : Transaction, transaction.engine = engine ∧
      transaction.sent <+: statements.map Prepared.sent ∧
        (session.step (.batch database ids)).1.trace.events = transaction.events := by
  have planned := session.plan_of_asksBatch (.batch found each)
  have notDump : ∀ id, Step.batch database ids ≠ .dump id := by simp
  exact ⟨_, rfl, Errand.sent_prefix, events_of_single_errand notDump planned⟩

/-- A call of a model reaches no other engine than the one of the model's database. -/
theorem engine_of_callPlan {model : Model} {call : ModelCall} {errands : List Errand}
    (planned : session.callPlan model call = .ok errands) :
    ∀ errand ∈ errands, model.database = some errand.engine := by
  have raw : ∀ {texts : List String}, model.rawPlan texts = .ok errands →
      ∀ errand ∈ errands, model.database = some errand.engine := by
    intro texts h
    obtain ⟨engine, bound, rfl⟩ := Model.rawPlan_eq_ok.mp h
    rw [List.forall_mem_map]
    exact fun _ _ => bound
  cases call with
  | setDatabase | getDatabase =>
    obtain ⟨-, -, h⟩ := bind_eq_ok.mp planned
    obtain rfl := pure_eq_ok.mp h
    exact List.forall_mem_nil _
  | createTable strategy =>
    rw [callPlan, Model.createPlan] at planned
    split at planned
    · cases planned
    · cases planned
    · exact raw planned
    · exact raw planned
  | dropTable silent => exact raw planned
  | insertMany rows orReplace =>
    obtain ⟨engine, items, statements, bound, -, -, -, rfl⟩ := Model.batchPlan_eq_ok.mp planned
    exact List.forall_mem_singleton.mpr bound
  | first | all | insertOne | update | delete | upsert =>
    obtain ⟨prepared, made, rfl⟩ := Model.requestPlan_eq_ok.mp planned
    obtain ⟨statement, engine, -, bound, rfl⟩ := (Model.prepared_eq_ok _).mp made
    exact List.forall_mem_singleton.mpr bound

theorem events_of_call {model : Model} (found : session.models.find? id = some model) (call : ModelCall) :
    ∃ transactions : List Transaction,
      (∀ transaction ∈ transactions, model.database = some transaction.engine) ∧
        (session.step (.call id call)).1.trace.events = transactions.flatMap Transaction.events := by
  have planned : session.plan (.call id call) = session.callPlan model call := by
    rw [plan, lookup_eq_ok.mpr found]
    rfl
  rcases session.step_cases (.call id call) with
    ⟨failure, -, refused⟩ | ⟨errands, h, -, enacted⟩ | ⟨_, _, _, dump, -⟩
  · exact ⟨[], List.forall_mem_nil _, refused.events_eq⟩
  · refine ⟨_, fun transaction member => ?_, enacted.events_eq⟩
    obtain ⟨errand, asked, scripts, rfl⟩ := Errand.exists_of_mem_transactions member
    exact engine_of_callPlan (planned.symm.trans h) errand asked
  · cases dump

/-! ## What can be told from the steps -/

/-- What the steps of a session say about the models and the statements that they have led to. -/
structure Stable (steps : List Step) : Prop where
  /-- A step that makes a model gives it the schema of its definition, and the database that is given
  with it. -/
  made : ∀ id options columns reference model,
    ((after {} steps).step (.model id options columns reference)).1.result = .ok (.model model) →
      Schema.ofDefinition options columns = .ok model.schema ∧
        (after {} steps).GivesDatabase reference model.database
  /-- As long as no step makes another model under its identifier, the model is there. Its schema stays,
  and with it the table's name, the columns, the primary keys and the text that creates the table. Its
  database is the one that it was given, or that was set last. -/
  kept : ∀ before later id options columns reference model,
    steps = before ++ .model id options columns reference :: later →
    ((after {} before).step (.model id options columns reference)).1.result = .ok (.model model) →
    ((after {} before).step (.model id options columns reference)).2.NoneSucceeds
      (Step.MakesModel id) later →
    ∃ database, ((after {} before).step (.model id options columns reference)).2.BoundTo id
        model.database later database ∧
      (after {} steps).models.find? id = some { model with database := database }
  /-- There are no other models: what is under an identifier was made there by the last step that made
  one. -/
  models : ∀ id model, (after {} steps).models.find? id = some model ↔ MadeBy {} id steps model
  /-- Asking a model for its database yields it, and fails where there is none. -/
  database : ∀ id model, (after {} steps).models.find? id = some model →
    ((after {} steps).step (.call id .getDatabase)).1.result
      = match model.database with
        | some engine => .ok (.database engine.name)
        | none => .error (.noDatabase model.schema.tableName)
  /-- What the calls of a model send goes to that database. -/
  sentByModel : ∀ id model call, (after {} steps).models.find? id = some model →
    ∃ transactions : List Transaction,
      (∀ transaction ∈ transactions, model.database = some transaction.engine) ∧
        ((after {} steps).step (.call id call)).1.trace.events
          = transactions.flatMap Transaction.events
  /-- Under an identifier there is the statement that was led to, with the values of the calls that led
  to it. -/
  statements : ∀ id statement, (after {} steps).statements.find? id = some statement ↔
    ∃ calls, Led {} steps id statement.engine statement.sql calls ∧ statement.bindings = calls.flatten
  /-- By itself a statement sends its text and those values to its engine. -/
  sentAlone : ∀ id engine sql calls step, Led {} steps id engine sql calls → step.SendsAlone id →
    ∃ outcome, ((after {} steps).step step).1.trace.events
      = (Attempt.alone engine ⟨⟨sql, some calls.flatten⟩, outcome⟩).events
  /-- A batch sends the texts and the values of its statements in their order, as far as it gets. -/
  sentInBatch : ∀ database ids engine sents, (after {} steps).databases.find? database = some engine →
    List.Forall₂ (fun id sent => ∃ own sql calls, Led {} steps id own sql calls ∧
      sent = Sent.mk sql (some calls.flatten)) ids sents →
    ∃ transaction : Transaction, transaction.engine = engine ∧ transaction.sent <+: sents ∧
      ((after {} steps).step (.batch database ids)).1.trace.events = transaction.events
  /-- The next step changes no model but the one that it makes or whose database it sets, and none when
  it fails. -/
  otherModels : ∀ id step,
    (step.MakesModel id ∨ step.SetsDatabase id → ¬ (after {} steps).Succeeds step) →
      ((after {} steps).step step).2.models.find? id = (after {} steps).models.find? id
  /-- The next step changes no statement but the one that it makes, and none when it fails. -/
  otherStatements : ∀ id step, (step.MakesStatement id → ¬ (after {} steps).Succeeds step) →
    ((after {} steps).step step).2.statements.find? id = (after {} steps).statements.find? id

/-- Statements that were led to are sent as they were led to. -/
theorem forall₂_sent_of_led {start : Session} {ids : List String} {sents : List Sent}
    (each : List.Forall₂ (fun id sent => ∃ own sql calls, start.Led steps id own sql calls ∧
      sent = Sent.mk sql (some calls.flatten)) ids sents) :
    ∃ statements, List.Forall₂ (fun id statement =>
      (start.after steps).statements.find? id = some statement) ids statements ∧
        statements.map Prepared.sent = sents := by
  induction each with
  | nil => exact ⟨[], .nil, rfl⟩
  | cons first _ ih =>
    obtain ⟨engine, sql, calls, led, rfl⟩ := first
    obtain ⟨statements, found, rfl⟩ := ih
    exact ⟨_ :: statements, .cons led.find?_after found, rfl⟩

theorem result_getDatabase {model : Model} (found : session.models.find? id = some model) :
    (session.step (.call id .getDatabase)).1.result
      = match model.database with
        | some engine => .ok (.database engine.name)
        | none => .error (.noDatabase model.schema.tableName) := by
  rw [Session.step, lookup_eq_ok.mpr found]
  show (session.use _ _).1.result = _
  rw [session.use_eq, Model.getDatabase]
  cases model.database <;> rfl

/-- Every session is stable, whatever its steps are. -/
theorem models_and_statements_are_stable (steps : List Step) : Stable steps where
  made := by
    intro id options columns reference model replied
    rcases (after {} steps).step_model id options columns reference with
      ⟨made, replied', defined, gives, -⟩ | ⟨failure, failed, -⟩
    · rw [replied] at replied'
      cases replied'
      exact ⟨defined, gives⟩
    · rw [replied] at failed
      cases failed
  kept := by
    rintro before later id options columns reference model rfl replied unmade
    obtain ⟨database, bound⟩ := exists_boundTo _ id model.database later
    rw [after_append, after_cons]
    exact ⟨database, bound, bound.find?_after (find?_of_made replied) unmade⟩
  models := fun id model => ⟨madeBy_of_find? rfl, MadeBy.find?_after⟩
  database := fun id model => result_getDatabase
  sentByModel := fun id model call found => events_of_call found call
  statements := by
    intro id statement
    constructor
    · exact led_of_find? rfl
    · rintro ⟨calls, led, bindings⟩
      rw [led.find?_after, ← bindings]
  sentAlone := by
    intro id engine sql calls step led alone
    exact ⟨_, events_of_sendsAlone led.find?_after alone⟩
  sentInBatch := by
    intro database ids engine sents found each
    obtain ⟨statements, here, rfl⟩ := forall₂_sent_of_led each
    exact events_of_batch found here
  otherModels := fun id step => (after {} steps).find?_model_step
  otherStatements := fun id step => (after {} steps).find?_statement_step

/-- Statements that are bound from one another; the first one fails, and then two are sent together. -/
def statementsBoundFromOneAnother : List Step :=
  [.engine "e" "sqlite" [.failed ⟨.general, "busy"⟩] [], .prepare "p" "e" "SELECT ?",
    .bind "q" "p" [.int 1], .bind "r" "q" [.int 2], .run "p", .batch "e" ["r", "q"]]

example : ((run {} statementsBoundFromOneAnother).map fun report => report.trace.events)
    = [[], [], [], [],
      [.begin "e", .execute "e" "SELECT ?" (some []), .rollback "e"],
      [.begin "e", .execute "e" "SELECT ?" (some [.int 1, .int 2]),
        .execute "e" "SELECT ?" (some [.int 1]), .commit "e"]] := by
  rfl

end Session

end TableModel
