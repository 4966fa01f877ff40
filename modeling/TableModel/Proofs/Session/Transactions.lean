/-
# TableModel.Proofs.Session.Transactions — the transactions of a session

What the engines see of a step is taken apart into transactions, one after the other and none inside
another. Each is closed by one commit or rollback, and it is committed exactly when all statements
that it sent have succeeded. A batch is sent in its order as far as it gets. A batch that was sent
whole need not be committed: when its last statement is the one that fails, it is rolled back.

A dump is no transaction: it connects to the engine and closes the connection.
-/
import TableModel.Proofs.Session.Plan

namespace TableModel

/-! ## Kinds of steps -/

/-- A step that sends its statements in one batch. -/
def Step.IsBatch : Step → Prop
  | .batch _ _ | .call _ (.insertMany _ _) => True
  | _ => False

/-- A step that creates a table by force. -/
def Step.IsForce : Step → Prop
  | .call _ (.createTable strategy) => strategy.isText "force" = true
  | _ => False

namespace Session

variable (session : Session) {step : Step}

/-- A step asks for a batch of statements on an engine: of the statements that it names, or of the
insertions of its rows, of which there has to be one. -/
inductive AsksBatch : Step → Engine → List Prepared → Prop where
  | batch {database : String} {ids : List String} {engine : Engine} {statements : List Prepared}
      (found : session.databases.find? database = some engine)
      (each : List.Forall₂ (fun id statement => session.statements.find? id = some statement)
        ids statements) :
      AsksBatch (.batch database ids) engine statements
  | insertMany {id : String} {rows orReplace : Value} {model : Model} {engine : Engine}
      {items : List Value} {statements : List Prepared}
      (found : session.models.find? id = some model) (bound : model.database = some engine)
      (listed : rows.items? = some items) (given : items ≠ [])
      (each : List.Forall₂ (fun row prepared => ∃ statement,
        (model.insertRequest row orReplace).statement = .ok statement ∧
          prepared = ⟨engine, statement.text, statement.bindings⟩) items statements) :
      AsksBatch (.call id (.insertMany rows orReplace)) engine statements

/-- The transactions of a step, as its report shows them. -/
structure Transacts (step : Step) (report : Report) (transactions : List Transaction) : Prop where
  /-- They are what the engines see. -/
  events_eq : (∀ id, step ≠ .dump id) →
    report.trace.events = transactions.flatMap Transaction.events
  /-- A dump has none; it only connects to its engine. -/
  dumped : ∀ id, step = .dump id → transactions = [] ∧
    (report.trace.events = [] ∨ ∃ engine, session.databases.find? id = some engine ∧
      report.trace.events = [.connect engine.name, .close engine.name])
  /-- Their statements had the outcomes that were next in the scripts. -/
  served : session.scripts.Serve transactions
  /-- They are committed exactly when all of their statements succeeded. -/
  committed : ∀ transaction ∈ transactions,
    (transaction.committed = true ↔ transaction.Succeeded)
  /-- A batch is sent in its order, and it is committed exactly when it was sent whole and all of it
  succeeded. -/
  batch : step.IsBatch → ∀ transaction ∈ transactions, ∃ statements,
    session.AsksBatch step transaction.engine statements ∧
      transaction.sent <+: statements.map Prepared.sent ∧
        (transaction.committed = true ↔
          transaction.sent = statements.map Prepared.sent ∧ transaction.Succeeded)
  /-- No batch that is asked for is left out. -/
  begun : ∀ engine statements, session.AsksBatch step engine statements → transactions ≠ []
  /-- There is at most one transaction, but for a creation by force. -/
  single : ¬ step.IsForce → transactions.length ≤ 1
  /-- A creation by force drops the table, and creates it if dropping was committed. -/
  force : step.IsForce → transactions = [] ∨ ∃ id strategy model drop,
    step = .call id (.createTable strategy) ∧ session.models.find? id = some model ∧
      drop.sent = [⟨dropTableText model.schema.tableName.shown true, none⟩] ∧
        (drop.committed = false ∧ transactions = [drop] ∨
          ∃ create, drop.committed = true ∧ transactions = [drop, create] ∧
            create.sent = [⟨model.schema.createTableText, none⟩])
  /-- The failure of a statement is what the step fails with, and no other failure is the
  engine's. -/
  raised : ∀ fault, report.result = .error (.engine fault) ↔
    ∃ transaction ∈ transactions, ∃ attempt ∈ transaction.attempts,
      attempt.outcome = .failed fault

/-! ## The plans of batches -/

theorem plan_of_asksBatch {engine : Engine} {statements : List Prepared}
    (asks : session.AsksBatch step engine statements) :
    session.plan step = .ok [Prepared.batchErrand engine statements] := by
  cases asks with
  | @batch database ids _ _ found each =>
    have prepared : ids.mapM (lookup session.statements) = .ok statements :=
      mapM_eq_ok.mpr (each.imp fun _ _ => lookup_eq_ok.mpr)
    rw [plan, lookup_eq_ok.mpr found, ok_bind, prepared, ok_bind]
    rfl
  | @insertMany id rows orReplace model _ items _ found bound listed given each =>
    rw [plan, lookup_eq_ok.mpr found, ok_bind, callPlan]
    exact model.batchPlan_eq_ok.mpr ⟨engine, items, statements, bound, listed, given, each, rfl⟩

/-- What a batch step plans is the batch that it asks for. -/
theorem exists_asksBatch {errands : List Errand} (batch : step.IsBatch)
    (planned : session.plan step = .ok errands) :
    ∃ engine statements, session.AsksBatch step engine statements ∧
      errands = [Prepared.batchErrand engine statements] := by
  cases step with
  | batch database ids =>
    obtain ⟨engine, found, h⟩ := bind_eq_ok.mp planned
    obtain ⟨statements, each, h⟩ := bind_eq_ok.mp h
    have all := (mapM_eq_ok.mp each).imp fun _ _ => lookup_eq_ok.mp
    exact ⟨engine, statements, .batch (lookup_eq_ok.mp found) all, (pure_eq_ok.mp h).symm⟩
  | call id call =>
    cases call with
    | insertMany rows orReplace =>
      obtain ⟨model, found, h⟩ := bind_eq_ok.mp planned
      obtain ⟨engine, items, statements, bound, listed, given, each, rfl⟩ :=
        model.batchPlan_eq_ok.mp h
      exact ⟨engine, statements, .insertMany (lookup_eq_ok.mp found) bound listed given each, rfl⟩
    | _ => cases batch
  | _ => cases batch

/-! ## The plans of other steps -/

theorem length_le_of_callPlan {model : Model} {id : String} {call : ModelCall}
    {errands : List Errand} (other : ¬ Step.IsForce (.call id call))
    (planned : session.callPlan model call = .ok errands) : errands.length ≤ 1 := by
  cases call with
  | setDatabase | getDatabase =>
    obtain ⟨-, -, h⟩ := bind_eq_ok.mp planned
    obtain rfl := pure_eq_ok.mp h
    exact Nat.zero_le 1
  | createTable strategy =>
    rw [callPlan, Model.createPlan] at planned
    split at planned
    · cases planned
    · cases planned
    · rename_i force
      exact absurd (Model.Strategy.ofValue?_eq_force.mp force) other
    · obtain ⟨engine, -, rfl⟩ := Model.rawPlan_eq_ok.mp planned
      exact Nat.le_refl 1
  | dropTable silent =>
    obtain ⟨engine, -, rfl⟩ := Model.rawPlan_eq_ok.mp planned
    exact Nat.le_refl 1
  | insertMany rows orReplace =>
    obtain ⟨engine, items, statements, -, -, -, -, rfl⟩ := Model.batchPlan_eq_ok.mp planned
    exact Nat.le_refl 1
  | first | all | insertOne | update | delete | upsert =>
    obtain ⟨prepared, -, rfl⟩ := Model.requestPlan_eq_ok.mp planned
    exact Nat.le_refl 1

theorem length_le_of_plan {errands : List Errand} (other : ¬ step.IsForce)
    (planned : session.plan step = .ok errands) : errands.length ≤ 1 := by
  cases step with
  | engine id dialect outcomes dump =>
    obtain rfl := pure_eq_ok.mp planned
    exact Nat.zero_le 1
  | wrap | prepare | bind | view =>
    obtain ⟨-, -, h⟩ := bind_eq_ok.mp planned
    obtain rfl := pure_eq_ok.mp h
    exact Nat.zero_le 1
  | model id options columns reference =>
    obtain ⟨database, -, h⟩ := bind_eq_ok.mp planned
    obtain ⟨model, -, h⟩ := bind_eq_ok.mp h
    obtain rfl := pure_eq_ok.mp h
    exact Nat.zero_le 1
  | call id call =>
    obtain ⟨model, -, h⟩ := bind_eq_ok.mp planned
    exact session.length_le_of_callPlan other h
  | run | all | first | exec =>
    obtain ⟨prepared, -, h⟩ := bind_eq_ok.mp planned
    obtain rfl := pure_eq_ok.mp h
    exact Nat.le_refl 1
  | batch database statements =>
    obtain ⟨engine, -, h⟩ := bind_eq_ok.mp planned
    obtain ⟨prepared, -, h⟩ := bind_eq_ok.mp h
    obtain rfl := pure_eq_ok.mp h
    exact Nat.le_refl 1
  | dump database =>
    obtain ⟨engine, -, h⟩ := bind_eq_ok.mp planned
    split at h
    · obtain rfl := pure_eq_ok.mp h
      exact Nat.zero_le 1
    · cases h

/-- A creation by force plans to drop the table and then to create it. -/
theorem exists_model_of_force {errands : List Errand} (force : step.IsForce)
    (planned : session.plan step = .ok errands) :
    ∃ id strategy model, ∃ engine : Engine, step = .call id (.createTable strategy) ∧
      session.models.find? id = some model ∧
        errands = [engine.rawErrand (model.dropText (.bool true)),
          engine.rawErrand model.schema.createTableText] := by
  cases step with
  | call id call =>
    cases call with
    | createTable strategy =>
      obtain ⟨model, found, h⟩ := bind_eq_ok.mp planned
      rw [callPlan, Model.createPlan, Model.Strategy.ofValue?_eq_force.mpr force] at h
      obtain ⟨engine, -, rfl⟩ := Model.rawPlan_eq_ok.mp h
      exact ⟨id, strategy, model, engine, rfl, lookup_eq_ok.mp found, rfl⟩
    | _ => cases force
  | _ => cases force

/-! ## Steps and sessions -/

/-- A refused step has no transactions. -/
theorem transacts_of_refused {turn : Report × Session} {failure : Failure}
    (refused : session.Refused turn failure)
    (unasked : ∀ engine statements, ¬ session.AsksBatch step engine statements) :
    session.Transacts step turn.1 [] where
  events_eq := fun _ => refused.events_eq
  dumped := fun _ _ => ⟨rfl, Or.inl refused.events_eq⟩
  served := trivial
  committed := by simp
  batch := by simp
  begun := fun engine statements asks => absurd asks (unasked engine statements)
  single := fun _ => Nat.zero_le 1
  force := fun _ => Or.inl rfl
  raised := fun fault => by
    have own := refused.own
    rw [refused.result_eq]
    constructor
    · intro h
      obtain rfl := Except.error.inj h
      cases own
    · simp

/-- A step that ran its errands has their transactions. -/
theorem transacts_of_enacted {turn : Report × Session} {errands : List Errand}
    (enacted : session.Enacted step turn errands) (planned : session.plan step = .ok errands)
    (notDump : ∀ id, step ≠ .dump id) :
    session.Transacts step turn.1 (Errand.transactions errands session.scripts) where
  events_eq := fun _ => enacted.events_eq
  dumped := fun id h => absurd h (notDump id)
  served := Errand.serve_transactions
  committed := fun transaction h => by
    obtain ⟨errand, -, scripts, rfl⟩ := Errand.exists_of_mem_transactions h
    exact Errand.committed_iff
  batch := fun isBatch transaction h => by
    obtain ⟨engine, statements, asks, rfl⟩ := session.exists_asksBatch isBatch planned
    obtain ⟨errand, one, scripts, rfl⟩ := Errand.exists_of_mem_transactions h
    obtain rfl := List.mem_singleton.mp one
    exact ⟨statements, asks, Errand.sent_prefix, Errand.committed_iff_whole⟩
  begun := fun engine statements asks => by
    obtain rfl := Except.ok.inj (planned.symm.trans (session.plan_of_asksBatch asks))
    simp [Errand.transactions]
  single := fun other =>
    Nat.le_trans Errand.length_transactions_le (session.length_le_of_plan other planned)
  force := fun force => by
    obtain ⟨id, strategy, model, engine, rfl, found, rfl⟩ :=
      session.exists_model_of_force force planned
    refine Or.inr ⟨id, strategy, model,
      (engine.rawErrand (model.dropText (.bool true))).transaction session.scripts, rfl, found,
      Errand.sent_single _ _ _, ?_⟩
    rcases Errand.transactions_pair (engine.rawErrand model.schema.createTableText) with h | h
    · exact Or.inl h
    · exact Or.inr ⟨_, h.1, h.2, Errand.sent_single _ _ _⟩
  raised := fun fault => by
    rw [enacted.raised]
    constructor
    · rintro ⟨transaction, h, failed⟩
      obtain ⟨errand, -, scripts, rfl⟩ := Errand.exists_of_mem_transactions h
      exact ⟨_, h, Errand.fault?_eq_some.mp failed⟩
    · rintro ⟨transaction, h, failed⟩
      obtain ⟨errand, -, scripts, rfl⟩ := Errand.exists_of_mem_transactions h
      exact ⟨_, h, Errand.fault?_eq_some.mpr failed⟩

/-- A dump has no transactions. -/
theorem transacts_of_dumped {id : String} {engine : Engine} {turn : Report × Session} {text : String}
    (found : session.databases.find? id = some engine)
    (dumped : turn = (⟨.ok (.dump text),
      [.event (.connect engine.name), .event (.close engine.name)]⟩, session)) :
    session.Transacts (.dump id) turn.1 [] where
  events_eq := fun notDump => absurd rfl (notDump id)
  dumped := fun other same => by
    obtain rfl := Step.dump.inj same
    rw [dumped]
    exact ⟨rfl, Or.inr ⟨engine, found, rfl⟩⟩
  served := trivial
  committed := by simp
  batch := by simp
  begun := fun _ _ asks => by cases asks
  single := fun _ => Nat.zero_le 1
  force := fun _ => Or.inl rfl
  raised := by simp [dumped]

/-- The step that a session takes works by transactions. -/
theorem transacts_step (step : Step) :
    ∃ transactions, session.Transacts step (session.step step).1 transactions := by
  rcases session.step_cases step with
    ⟨failure, planned, refused⟩ | ⟨errands, planned, notDump, enacted⟩ |
      ⟨id, engine, text, rfl, found, dumped⟩
  · refine ⟨[], session.transacts_of_refused refused fun engine statements asks => ?_⟩
    cases planned.symm.trans (session.plan_of_asksBatch asks)
  · exact ⟨_, session.transacts_of_enacted enacted planned notDump⟩
  · exact ⟨[], session.transacts_of_dumped found dumped⟩

/-- The steps of a run, each with the session that it finds. -/
def turns (session : Session) : List Step → List (Session × Step)
  | [] => []
  | step :: rest => (session, step) :: turns (session.step step).2 rest

/-- Every step of every session works by transactions. -/
theorem run_transacts (steps : List Step) :
    List.Forall₂ (fun turn report => ∃ transactions, turn.1.Transacts turn.2 report transactions)
      (session.turns steps) (session.run steps) := by
  induction steps generalizing session with
  | nil => exact .nil
  | cons step rest ih => exact .cons (session.transacts_step step) (ih (session.step step).2)

/-! ## What transactions do not tell -/

/-- A batch of one statement that fails, and a dump. -/
def failingBatchThenDump : List Step :=
  [.engine "e" "sqlite" [.failed ⟨.general, "boom"⟩] [],
    .prepare "p" "e" "INSERT INTO t DEFAULT VALUES", .batch "e" ["p"], .dump "e"]

/-- The batch is sent whole and rolled back, so that being sent whole is not the same as being
committed; and what a dump does is not made of transactions. -/
theorem whole_batch_may_be_rolled_back :
    (run {} failingBatchThenDump).map (fun report => report.trace.events)
        = [[], [],
          [.begin "e", .execute "e" "INSERT INTO t DEFAULT VALUES" (some []), .rollback "e"],
          [.connect "e", .close "e"]] ∧
      (¬ ∃ transactions : List Transaction,
        transactions.flatMap Transaction.events
            = [.begin "e", .execute "e" "INSERT INTO t DEFAULT VALUES" (some []), .rollback "e"] ∧
          ∀ transaction ∈ transactions,
            (transaction.committed = true ↔
              transaction.sent = [⟨"INSERT INTO t DEFAULT VALUES", some []⟩])) ∧
      ¬ ∃ transactions : List Transaction,
        transactions.flatMap Transaction.events = [.connect "e", .close "e"] := by
  refine ⟨rfl, ?_, ?_⟩
  · rintro ⟨transactions, events, whole⟩
    cases transactions with
    | nil => cases events
    | cons transaction rest =>
      rw [List.flatMap_cons, Transaction.events] at events
      obtain ⟨whole, -⟩ := List.forall_mem_cons.mp whole
      have closed : transaction.closing = .commit transaction.engine.name ∧
            transaction.committed = true ∨
          transaction.closing = .rollback transaction.engine.name ∧
            transaction.committed = false := by
        unfold Transaction.closing
        cases transaction.committed <;> simp
      cases sent : transaction.sent with
      | nil =>
        -- the transaction would be closed where the statement is sent
        rcases closed with ⟨h, -⟩ | ⟨h, -⟩ <;> simp [sent, h] at events
      | cons first others =>
        simp only [sent, List.map_cons, List.cons_append, List.cons.injEq, Engine.executed,
          Event.execute.injEq] at events
        obtain ⟨-, ⟨-, sql, bindings⟩, events⟩ := events
        cases others with
        | nil =>
          have all : transaction.sent = [⟨"INSERT INTO t DEFAULT VALUES", some []⟩] := by
            rw [sent, ← sql, ← bindings]
          have committed := whole.mpr all
          rcases closed with ⟨h, -⟩ | ⟨-, h⟩
          · simp [h] at events
          · rw [committed] at h
            cases h
        | cons second others => simp [Engine.executed] at events
  · rintro ⟨transactions, events⟩
    cases transactions with
    | nil => cases events
    | cons transaction rest => cases events

end Session

end TableModel
