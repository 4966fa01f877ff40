/-
# TableModel.Proofs.Session.Plan — what a step asks of the engines, decided before it is done

What a step does is to be refused or to run the errands that it plans. Its plan depends on the state
and the step alone; it is computed here from the plans of models, and every step is shown to follow
its plan. What is proved about steps elsewhere goes through the plan, by the cases of
`Session.step_cases`.

Two kinds of steps stand apart. A dump opens a connection and no transaction. And asking for a
column of the first row may fail after the statement has run, when the row has no such column.
-/
import TableModel.Proofs.Model.Plan
import TableModel.Proofs.Value.Key
import TableModel.Session.Basic

namespace TableModel

open TableModel.Action

/-! ## Columns of rows -/

namespace Prepared

variable {row : Entries} {column : Value} {failure : Failure}

theorem isEngine_of_pick (h : pick row column = .error failure) : failure.isEngine = false := by
  unfold pick at h
  split at h
  · cases h
  · split at h
    · split at h
      · cases h
      · obtain rfl := Except.error.inj h
        rfl
    · obtain rfl := Except.error.inj h
      rfl

/-- Whatever the reason, a column that cannot be picked is not in the row. -/
theorem lookup?_of_pick (h : pick row column = .error failure) :
    Value.lookup? column row = none := by
  unfold pick at h
  split at h
  · cases h
  · split at h
    · split at h
      · cases h
      · assumption
    · rename_i notKey
      exact Value.lookup?_of_not_isKey row (Bool.eq_false_iff.mpr notKey)

end Prepared

namespace Session

variable (session : Session) {step : Step}

/-! ## Plans of steps -/

/-- The plan of a model's call. -/
def callPlan (model : Model) : ModelCall → Except Failure (List Errand)
  | .setDatabase reference => do
    let _ ← session.resolve reference >>= model.setDatabase
    return []
  | .getDatabase => do
    let _ ← model.getDatabase
    return []
  | .createTable strategy => model.createPlan strategy
  | .dropTable silent => model.rawPlan [model.dropText silent]
  | .first filter => model.requestPlan (model.firstRequest filter)
  | .all clauses => model.requestPlan (model.allRequest clauses)
  | .insertOne data orReplace => model.requestPlan (model.insertRequest data orReplace)
  | .insertMany rows orReplace => model.batchPlan rows orReplace
  | .update filter data => model.requestPlan (model.updateRequest filter data)
  | .delete filter => model.requestPlan (model.deleteRequest filter)
  | .upsert data updates filter conflictKeys =>
    model.requestPlan (model.upsertRequest data updates filter conflictKeys)

/-- The plan of a step: a refusal, or the errands that it runs. -/
def plan : Step → Except Failure (List Errand)
  | .engine _ _ _ _ => return []
  | .wrap attributes => do
    let _ ← (wrapDatabase attributes).mapError .database
    return []
  | .model _ options columns reference => do
    let database ← session.resolve reference
    let _ ← Model.defined options columns database
    return []
  | .prepare _ database _ => do
    let _ ← lookup session.databases database
    return []
  | .bind _ statement _ | .view statement => do
    let _ ← lookup session.statements statement
    return []
  | .call id call => do
    let model ← lookup session.models id
    session.callPlan model call
  | .run statement | .all statement | .first statement _ => do
    let prepared ← lookup session.statements statement
    return [prepared.errand]
  | .batch database statements => do
    let engine ← lookup session.databases database
    let prepared ← statements.mapM (lookup session.statements)
    return [Prepared.batchErrand engine prepared]
  | .exec database sql => do
    let engine ← lookup session.databases database
    return [engine.rawErrand sql]
  | .dump database => do
    let engine ← lookup session.databases database
    if engine.dialect = Engine.dumpDialect then return []
    else .error (.database (.dumpUnsupported engine.dialect))

/-! ## Following a plan -/

/-- The step asks for a column of the first row, and the row that the statement yields lacks it. -/
def MissesColumn : Step → Prop
  | .first id column => ∃ statement result row rest,
      session.statements.find? id = some statement ∧
        (statement.run session.scripts).result = .ok result ∧ result.rows = row :: rest ∧
          Value.lookup? column row = none
  | _ => False

/-- A turn that was refused: the failure is no engine's, no engine was reached, the log has asides
only, and the session is what it was. -/
structure Refused (turn : Report × Session) (failure : Failure) : Prop where
  result_eq : turn.1.result = .error failure
  own : failure.isEngine = false
  events_eq : turn.1.trace.events = []
  untold : turn.1.trace.account = []
  state_eq : turn.2 = session

/-- A turn that ran errands. -/
structure Enacted (step : Step) (turn : Report × Session) (errands : List Errand) : Prop where
  events_eq : turn.1.trace.events
    = (Errand.transactions errands session.scripts).flatMap Transaction.events
  told : Chronicle (Errand.transactions errands session.scripts) turn.1.trace.account
  raised : ∀ fault, turn.1.result = .error (.engine fault) ↔
    ∃ transaction ∈ Errand.transactions errands session.scripts, transaction.fault? = some fault
  blamed : ∀ failure, turn.1.result = .error failure →
    failure.isEngine = true ∨ session.MissesColumn step
  models_eq : ∀ failure, turn.1.result = .error failure → turn.2.models = session.models

/-- A turn that went as planned. -/
def Obeys (step : Step) (turn : Report × Session) : Except Failure (List Errand) → Prop
  | .error failure => session.Refused turn failure
  | .ok errands => session.Enacted step turn errands

/-- A turn that yields something without having had an effect. -/
theorem enacted_idle {turn : Report × Session} {reply : Reply} (h : turn.1 = ⟨.ok reply, []⟩) :
    session.Enacted step turn [] := by
  refine ⟨?_, ?_, fun fault => ?_, fun failure hfailure => ?_, fun failure hfailure => ?_⟩
  · rw [h, Errand.transactions]
    rfl
  · rw [h, Errand.transactions]
    exact .nil
  · simp [h, Errand.transactions]
  · rw [h] at hfailure
    cases hfailure
  · rw [h] at hfailure
    cases hfailure

section

variable {α : Type} {action : Action α} {reply : α → Reply} {keep : α → Session → Session}

theorem perform_of_ok {a : α} (h : (action session.scripts).result = .ok a) :
    session.perform action reply keep
      = (⟨.ok (reply a), (action session.scripts).trace⟩,
        keep a { session with scripts := (action session.scripts).scripts }) := by
  simp only [perform, h]

theorem perform_of_error {failure : Failure} (h : (action session.scripts).result = .error failure) :
    session.perform action reply keep
      = (⟨.error failure, (action session.scripts).trace⟩,
        { session with scripts := (action session.scripts).scripts }) := by
  simp only [perform, h]

/-- A step that keeps nothing yields what its action yields. -/
theorem use_eq :
    session.use action reply
      = (⟨(action session.scripts).result.map reply, (action session.scripts).trace⟩,
        { session with scripts := (action session.scripts).scripts }) := by
  cases h : (action session.scripts).result with
  | ok a => exact session.perform_of_ok h
  | error failure => exact session.perform_of_error h

/-- What an action sends is what its turn sends, and so is who is to blame. -/
theorem enacted_perform {errands : List Errand} (sends : Sends action errands)
    (blamed : ∀ failure, (action session.scripts).result = .error failure →
      failure.isEngine = true ∨ session.MissesColumn step) :
    session.Enacted step (session.perform action reply keep) errands := by
  obtain ⟨⟨events, -, raised⟩, told⟩ := sends session.scripts
  cases h : (action session.scripts).result with
  | ok a =>
    rw [h] at raised
    rw [session.perform_of_ok h]
    refine ⟨events, told, fun fault => ?_, fun failure hfailure => ?_, fun failure hfailure => ?_⟩
    · rw [← raised fault]
      simp
    · cases hfailure
    · cases hfailure
  | error failure =>
    rw [h] at raised blamed
    rw [session.perform_of_error h]
    refine ⟨events, told, fun fault => ?_, fun other hother => ?_, fun _ _ => rfl⟩
    · rw [← raised fault]
      simp
    · exact blamed other (congrArg _ (Except.error.inj hother))

/-- A turn goes as its action does. -/
theorem obeys_perform {plan : Except Failure (List Errand)} (carries : Carries action plan) :
    session.Obeys step (session.perform action reply keep) plan := by
  cases plan with
  | error failure =>
    obtain ⟨silent, own⟩ := carries
    rw [Obeys, session.perform_of_error (silent.result_eq _), silent.scripts_eq]
    exact ⟨rfl, own, silent.events_eq _, silent.account_eq _, rfl⟩
  | ok errands =>
    exact session.enacted_perform carries.sends
      fun failure h => Or.inl ((carries session.scripts).blamed failure h)

end

/-! ## Steps follow their plans -/

theorem lookup_eq_ok {α : Type} {things : Keyed α} {id : String} {thing : α} :
    lookup things id = .ok thing ↔ things.find? id = some thing := by
  unfold lookup
  cases things.find? id <;> simp

theorem isEngine_of_lookup {α : Type} {things : Keyed α} {id : String} {failure : Failure}
    (h : lookup things id = .error failure) : failure.isEngine = false := by
  unfold lookup at h
  split at h
  · cases h
  · obtain rfl := Except.error.inj h
    rfl

theorem isEngine_of_resolve {reference : DatabaseReference} {failure : Failure}
    (h : session.resolve reference = .error failure) : failure.isEngine = false := by
  unfold resolve at h
  split at h
  · exact isEngine_of_lookup (map_eq_error.mp h)
  · exact isEngine_of_lookup (map_eq_error.mp h)
  · cases h
  · cases h

/-- A step that is refused at once obeys a plan that refuses it. -/
theorem obeys_refuse {failure : Failure} (own : failure.isEngine = false) :
    session.Obeys step (session.refuse failure) (.error failure) :=
  ⟨rfl, own, rfl, rfl, rfl⟩

/-- A step that has its thing under an identifier goes on with it, and without one it is refused. -/
theorem obeys_lookup {α : Type} {things : Keyed α} {id : String} {turn : Report × Session}
    {plan : α → Except Failure (List Errand)}
    (missing : ∀ failure, lookup things id = .error failure → turn = session.refuse failure)
    (found : ∀ thing, lookup things id = .ok thing → session.Obeys step turn (plan thing)) :
    session.Obeys step turn (lookup things id >>= plan) := by
  cases h : lookup things id with
  | error failure =>
    rw [missing failure h]
    exact session.obeys_refuse (isEngine_of_lookup h)
  | ok thing => exact found thing h

/-- Checks that have passed leave nothing to run. -/
theorem carries_check {α : Type} {action : Action α} {result : Except Failure α}
    (silent : Silent action result)
    (own : ∀ failure, result = .error failure → failure.isEngine = false) :
    Carries action (result >>= fun _ => .ok []) := by
  cases result with
  | error failure => exact ⟨silent, own failure rfl⟩
  | ok a => exact silent.performs

/-- Asking for a column of the first row sends the statement; apart from the engine, only a row that
lacks the column can make it fail. -/
theorem enacted_first {id : String} (column : Value) {statement : Prepared}
    (found : session.statements.find? id = some statement) :
    session.Enacted (.first id column) (session.use (statement.first column) .value)
      [statement.errand] := by
  have sends : Sends (statement.first column) [statement.errand] := by
    refine statement.performs_run.sends.before_silent fun result => ?_
    cases result.rows with
    | nil => exact ⟨_, Silent.pure _, fun fault => by simp⟩
    | cons row rest =>
      exact ⟨_, Silent.ofExcept_id _, fun fault h => by cases Prepared.isEngine_of_pick h⟩
  refine session.enacted_perform sends fun failure h => ?_
  cases hrun : (statement.run session.scripts).result with
  | error earlier =>
    rw [Prepared.first, bind_of_error hrun] at h
    obtain rfl := Except.error.inj h
    exact Or.inl ((statement.performs_run session.scripts).blamed earlier hrun)
  | ok result =>
    rw [Prepared.first, bind_of_ok hrun] at h
    cases hrows : result.rows with
    | nil =>
      rw [hrows] at h
      cases h
    | cons row rest =>
      rw [hrows] at h
      have picked := ((Silent.ofExcept_id (Prepared.pick row column)).result_eq _).symm.trans h
      exact Or.inr ⟨statement, result, row, rest, found, hrun, hrows,
        Prepared.lookup?_of_pick picked⟩

theorem carries_setDatabase (model : Model) (reference : DatabaseReference) :
    Carries (Action.ofExcept (fun failure => failure)
        (session.resolve reference >>= model.setDatabase))
      (session.callPlan model (.setDatabase reference)) := by
  refine carries_check (Silent.ofExcept_id _) fun failure h => ?_
  rcases bind_eq_error.mp h with h | ⟨database, -, h⟩
  · exact session.isEngine_of_resolve h
  · unfold Model.setDatabase at h
    split at h
    · cases h
    · obtain rfl := Except.error.inj h
      rfl

theorem obeys_callModel (id : String) (model : Model) (call : ModelCall) :
    session.Obeys step (session.callModel id model call) (session.callPlan model call) := by
  unfold callModel use callPlan
  cases call with
  | setDatabase reference =>
    exact session.obeys_perform (session.carries_setDatabase model reference)
  | getDatabase =>
    refine session.obeys_perform (carries_check (Silent.ofExcept_id _) fun failure h => ?_)
    exact model.isEngine_of_getDatabase h
  | createTable strategy => exact session.obeys_perform (model.carries_createTable strategy)
  | dropTable silent => exact session.obeys_perform (model.carries_dropTable silent)
  | first filter => exact session.obeys_perform (model.carries_first filter)
  | insertMany rows orReplace =>
    exact session.obeys_perform (model.carries_insertMany rows orReplace)
  | all clauses =>
    exact session.obeys_perform (model.carries_request (model.allRequest clauses) Prepared.performs_run)
  | insertOne data orReplace =>
    exact session.obeys_perform
      (model.carries_request (model.insertRequest data orReplace) Prepared.performs_run)
  | update filter data =>
    exact session.obeys_perform
      (model.carries_request (model.updateRequest filter data) Prepared.performs_run)
  | delete filter =>
    exact session.obeys_perform
      (model.carries_request (model.deleteRequest filter) Prepared.performs_run)
  | upsert data updates filter conflictKeys =>
    exact session.obeys_perform
      (model.carries_request (model.upsertRequest data updates filter conflictKeys)
        Prepared.performs_run)

/-- Every step goes as planned, but for a dump, which does not work by transactions. -/
theorem step_obeys (notDump : ∀ id, step ≠ .dump id) :
    session.Obeys step (session.step step) (session.plan step) := by
  cases step with
  | engine id dialect outcomes dump => exact session.enacted_idle rfl
  | wrap attributes =>
    have silent := Silent.ofExcept .database (wrapDatabase attributes)
    rw [Session.step, use, plan]
    refine session.obeys_perform (carries_check silent fun failure h => ?_)
    exact Failure.isEngine_of_mapError (fun _ => rfl) h
  | model id options columns reference =>
    rw [Session.step, plan]
    cases h : session.resolve reference with
    | error failure => exact session.obeys_refuse (session.isEngine_of_resolve h)
    | ok database =>
      refine session.obeys_perform (carries_check (Model.silent_define _ _ _) fun failure h => ?_)
      exact Model.isEngine_of_defined h
  | prepare id database sql =>
    refine session.obeys_lookup (fun failure h => ?_) fun engine h => ?_
    · rw [Session.step, h]
    · rw [Session.step, h]
      exact session.enacted_idle rfl
  | bind id statement values =>
    refine session.obeys_lookup (fun failure h => ?_) fun prepared h => ?_
    · rw [Session.step, h]
    · rw [Session.step, h]
      exact session.enacted_idle rfl
  | view statement =>
    refine session.obeys_lookup (fun failure h => ?_) fun prepared h => ?_
    · rw [Session.step, h]
    · rw [Session.step, h]
      exact session.enacted_idle rfl
  | call id call =>
    refine session.obeys_lookup (fun failure h => ?_) fun model h => ?_
    · rw [Session.step, h]
    · rw [Session.step, h]
      exact session.obeys_callModel id model call
  | run statement | all statement =>
    refine session.obeys_lookup (fun failure h => ?_) fun prepared h => ?_
    · rw [Session.step, h]
    · rw [Session.step, h]
      exact session.obeys_perform prepared.performs_run
  | first statement column =>
    refine session.obeys_lookup (fun failure h => ?_) fun prepared h => ?_
    · rw [Session.step, h]
    · rw [Session.step, h]
      exact session.enacted_first column (lookup_eq_ok.mp h)
  | batch database statements =>
    rw [Session.step, plan]
    cases h : lookup session.databases database with
    | error failure => exact session.obeys_refuse (isEngine_of_lookup h)
    | ok engine =>
      cases hs : statements.mapM (lookup session.statements) with
      | error failure =>
        obtain ⟨id, -, missing⟩ := exists_of_mapM_eq_error hs
        exact session.obeys_refuse (isEngine_of_lookup missing)
      | ok prepared =>
        have carries : Carries (engine.batch prepared) (.ok [Prepared.batchErrand engine prepared]) :=
          engine.performs_batch prepared
        exact session.obeys_perform carries
  | exec database sql =>
    refine session.obeys_lookup (fun failure h => ?_) fun engine h => ?_
    · rw [Session.step, h]
    · rw [Session.step, h]
      exact session.obeys_perform (engine.performs_exec sql)
  | dump database => exact absurd rfl (notDump database)

/-- A dump is refused as planned, or it connects to the engine and closes the connection, and
changes nothing. -/
theorem step_dump (id : String) :
    (∃ failure, session.plan (.dump id) = .error failure ∧
      session.Refused (session.step (.dump id)) failure) ∨
    ∃ engine text, session.databases.find? id = some engine ∧
      session.step (.dump id)
        = (⟨.ok (.dump text), [.event (.connect engine.name), .event (.close engine.name)]⟩,
          session) := by
  rw [Session.step, plan]
  cases h : lookup session.databases id with
  | error failure => exact Or.inl ⟨failure, rfl, rfl, isEngine_of_lookup h, rfl, rfl, rfl⟩
  | ok engine =>
    dsimp only
    rw [Engine.dumpText, ok_bind]
    by_cases dumpable : engine.dialect = Engine.dumpDialect
    · rw [if_pos dumpable, if_pos dumpable]
      exact Or.inr ⟨engine, String.intercalate "\n" engine.dump, lookup_eq_ok.mp h, rfl⟩
    · rw [if_neg dumpable, if_neg dumpable]
      exact Or.inl ⟨_, rfl, rfl, rfl, rfl, rfl, rfl⟩

/-- All that a step can do: be refused as planned, run the errands that are planned, or dump a
database. -/
theorem step_cases (step : Step) :
    (∃ failure, session.plan step = .error failure ∧
      session.Refused (session.step step) failure) ∨
    (∃ errands, session.plan step = .ok errands ∧ (∀ id, step ≠ .dump id) ∧
      session.Enacted step (session.step step) errands) ∨
    ∃ id engine text, step = .dump id ∧ session.databases.find? id = some engine ∧
      session.step step
        = (⟨.ok (.dump text), [.event (.connect engine.name), .event (.close engine.name)]⟩,
          session) := by
  by_cases dump : ∃ id, step = .dump id
  · obtain ⟨id, rfl⟩ := dump
    rcases session.step_dump id with refused | ⟨engine, text, found, h⟩
    · exact Or.inl refused
    · exact Or.inr (Or.inr ⟨id, engine, text, rfl, found, h⟩)
  · have notDump : ∀ id, step ≠ .dump id := fun id h => dump ⟨id, h⟩
    have obeys := session.step_obeys notDump
    cases planned : session.plan step with
    | error failure =>
      rw [planned] at obeys
      exact Or.inl ⟨failure, rfl, obeys⟩
    | ok errands =>
      rw [planned] at obeys
      exact Or.inr (Or.inl ⟨errands, rfl, notDump, obeys⟩)

end Session

end TableModel
