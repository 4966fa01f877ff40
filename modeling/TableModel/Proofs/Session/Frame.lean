/-
# TableModel.Proofs.Session.Frame — what a step leaves as it is

A step keeps at most one new thing: a model when it defines one or sets a model's database, a prepared
statement when it prepares or binds one, and nothing when it fails. So there are few ways in which the
model or the statement under an identifier can come out of a step. `ModelTurn` and `StatementTurn` list
them, and whatever is not listed leaves the thing under the identifier alone, whether it uses it or
fails.
-/
import TableModel.Proofs.Session.Plan

namespace TableModel

namespace Step

/-- A step that makes a model under an identifier. -/
def MakesModel (id : String) : Step → Prop
  | .model made _ _ _ => made = id
  | _ => False

/-- A step that sets the database of the model under an identifier. -/
def SetsDatabase (id : String) : Step → Prop
  | .call called (.setDatabase _) => called = id
  | _ => False

theorem SetsDatabase.exists_eq {id : String} {step : Step} (sets : step.SetsDatabase id) :
    ∃ reference, step = .call id (.setDatabase reference) := by
  cases step with
  | call called call =>
    cases call with
    | setDatabase reference =>
      obtain rfl := sets
      exact ⟨reference, rfl⟩
    | _ => exact sets.elim
  | _ => exact sets.elim

/-- A step that makes a prepared statement under an identifier. -/
def MakesStatement (id : String) : Step → Prop
  | .prepare made _ _ | .bind made _ _ => made = id
  | _ => False

end Step

namespace Session

variable (session : Session) {step : Step} {id : String}

/-- A step succeeds. -/
def Succeeds (step : Step) : Prop :=
  ∃ reply, (session.step step).1.result = .ok reply

theorem not_succeeds {failure : Failure} (failed : (session.step step).1.result = .error failure) :
    ¬ session.Succeeds step := by
  rintro ⟨reply, succeeded⟩
  rw [failed] at succeeded
  cases succeeded

/-- What a step gives as a database: nothing, or one that has been made. -/
inductive GivesDatabase : DatabaseReference → Option Engine → Prop
  | nothing : GivesDatabase (.value .null) none
  | database {id : String} {engine : Engine} (found : session.databases.find? id = some engine) :
      GivesDatabase (.database id) (some engine)

theorem resolve_eq_nothing {reference : DatabaseReference} :
    session.resolve reference = .ok .nothing ↔ session.GivesDatabase reference none := by
  constructor
  · intro h
    unfold resolve at h
    split at h
    · obtain ⟨engine, -, h⟩ := map_eq_ok.mp h
      cases h
    · obtain ⟨engine, -, h⟩ := map_eq_ok.mp h
      cases h
    · exact .nothing
    · cases h
  · rintro ⟨⟩
    rfl

theorem resolve_eq_engine {reference : DatabaseReference} {engine : Engine} :
    session.resolve reference = .ok (.engine engine) ↔ session.GivesDatabase reference (some engine) := by
  constructor
  · intro h
    unfold resolve at h
    split at h
    · obtain ⟨found, hfound, h⟩ := map_eq_ok.mp h
      obtain rfl := DatabaseArgument.engine.inj h
      exact .database (lookup_eq_ok.mp hfound)
    · obtain ⟨found, -, h⟩ := map_eq_ok.mp h
      cases h
    · cases h
    · cases h
  · rintro ⟨⟩
    rename_i found
    exact map_eq_ok.mpr ⟨engine, lookup_eq_ok.mpr found, rfl⟩

/-! ## The four steps that keep something -/

/-- A step that reaches no engine keeps what it yields, or it fails and nothing changes. -/
theorem perform_silent {α : Type} {action : Action α} {result : Except Failure α} {reply : α → Reply}
    {keep : α → Session → Session} (silent : Action.Silent action result) :
    (∃ a, result = .ok a ∧ (session.perform action reply keep).1.result = .ok (reply a) ∧
      (session.perform action reply keep).2 = keep a session) ∨
    ∃ failure, (session.perform action reply keep).1.result = .error failure ∧
      (session.perform action reply keep).2 = session := by
  cases result with
  | ok a =>
    rw [session.perform_of_ok (silent.result_eq _), silent.scripts_eq]
    exact .inl ⟨a, rfl, rfl, rfl⟩
  | error failure =>
    rw [session.perform_of_error (silent.result_eq _), silent.scripts_eq]
    exact .inr ⟨failure, rfl, rfl⟩

/-- A definition is kept as a model, or it fails and nothing changes. -/
theorem step_model (id : String) (options columns : Value) (reference : DatabaseReference) :
    (∃ model, (session.step (.model id options columns reference)).1.result = .ok (.model model) ∧
      Schema.ofDefinition options columns = .ok model.schema ∧
      session.GivesDatabase reference model.database ∧
      (session.step (.model id options columns reference)).2 = session.keepModel id model) ∨
    ∃ failure, (session.step (.model id options columns reference)).1.result = .error failure ∧
      (session.step (.model id options columns reference)).2 = session := by
  rw [Session.step]
  cases resolved : session.resolve reference with
  | error failure => exact .inr ⟨failure, rfl, rfl⟩
  | ok database =>
    rcases session.perform_silent (Model.silent_define options columns database) with
      ⟨model, defined, replied, kept⟩ | failed
    · obtain ⟨schema, given⟩ := Model.defined_eq_ok.mp defined
      refine .inl ⟨model, replied, schema, ?_, kept⟩
      rcases given with ⟨rfl, given⟩ | ⟨engine, rfl, given⟩
      · rw [given]
        exact session.resolve_eq_nothing.mp resolved
      · rw [given]
        exact session.resolve_eq_engine.mp resolved
    · exact .inr failed

/-- A database that is set is kept with the model, or setting it fails and nothing changes. -/
theorem step_setDatabase (id : String) (reference : DatabaseReference) :
    (∃ model engine, (session.step (.call id (.setDatabase reference))).1.result = .ok .done ∧
      session.models.find? id = some model ∧ session.GivesDatabase reference (some engine) ∧
      (session.step (.call id (.setDatabase reference))).2
        = session.keepModel id { model with database := some engine }) ∨
    ∃ failure, (session.step (.call id (.setDatabase reference))).1.result = .error failure ∧
      (session.step (.call id (.setDatabase reference))).2 = session := by
  rw [Session.step]
  cases found : lookup session.models id with
  | error failure => exact .inr ⟨failure, rfl, rfl⟩
  | ok model =>
    rcases session.perform_silent
        (Action.Silent.ofExcept_id (session.resolve reference >>= model.setDatabase)) with
      ⟨other, bound, replied, kept⟩ | failed
    · obtain ⟨database, resolved, bound⟩ := bind_eq_ok.mp bound
      cases database with
      | engine engine =>
        obtain rfl := Except.ok.inj bound
        exact .inl ⟨model, engine, replied, lookup_eq_ok.mp found,
          session.resolve_eq_engine.mp resolved, kept⟩
      | nothing | other => cases bound
    · exact .inr failed

/-- A statement is prepared on a database that has been made, or nothing changes. -/
theorem step_prepare (id database sql : String) :
    (∃ engine, (session.step (.prepare id database sql)).1.result = .ok .done ∧
      session.databases.find? database = some engine ∧
      (session.step (.prepare id database sql)).2 = session.keepStatement id ⟨engine, sql, []⟩) ∨
    ∃ failure, (session.step (.prepare id database sql)).1.result = .error failure ∧
      (session.step (.prepare id database sql)).2 = session := by
  rw [Session.step]
  cases found : lookup session.databases database with
  | error failure => exact .inr ⟨failure, rfl, rfl⟩
  | ok engine => exact .inl ⟨engine, rfl, lookup_eq_ok.mp found, rfl⟩

/-- Values are bound to a statement that has been made, which gives another one, or nothing changes. -/
theorem step_bind (id source : String) (values : List Value) :
    (∃ statement, (session.step (.bind id source values)).1.result = .ok .done ∧
      session.statements.find? source = some statement ∧
      (session.step (.bind id source values)).2 = session.keepStatement id (statement.bind values)) ∨
    ∃ failure, (session.step (.bind id source values)).1.result = .error failure ∧
      (session.step (.bind id source values)).2 = session := by
  rw [Session.step]
  cases found : lookup session.statements source with
  | error failure => exact .inr ⟨failure, rfl, rfl⟩
  | ok statement => exact .inl ⟨statement, rfl, lookup_eq_ok.mp found, rfl⟩

/-! ## Steps that keep nothing -/

/-- A step that uses databases leaves what has been made alone. -/
theorem use_keeps {α : Type} (action : Action α) (reply : α → Reply) :
    (session.use action reply).2.models = session.models ∧
      (session.use action reply).2.statements = session.statements := by
  rw [session.use_eq]
  exact ⟨rfl, rfl⟩

/-- Other calls of a model leave all models and all statements alone. -/
theorem callModel_keeps (id : String) (model : Model) {call : ModelCall}
    (other : ∀ reference, call ≠ .setDatabase reference) :
    (session.callModel id model call).2.models = session.models ∧
      (session.callModel id model call).2.statements = session.statements := by
  cases call with
  | setDatabase reference => exact absurd rfl (other reference)
  | _ => exact session.use_keeps _ _

/-- Other steps leave all models and all statements alone. -/
theorem step_keeps (noModel : ∀ id, ¬ step.MakesModel id) (noDatabase : ∀ id, ¬ step.SetsDatabase id)
    (noStatement : ∀ id, ¬ step.MakesStatement id) :
    (session.step step).2.models = session.models ∧
      (session.step step).2.statements = session.statements := by
  cases step with
  | engine => exact ⟨rfl, rfl⟩
  | wrap => exact session.use_keeps _ _
  | model id options columns reference => exact absurd rfl (noModel id)
  | prepare id database sql => exact absurd rfl (noStatement id)
  | bind id source values => exact absurd rfl (noStatement id)
  | call id call =>
    rw [Session.step]
    cases lookup session.models id with
    | error failure => exact ⟨rfl, rfl⟩
    | ok model =>
      refine session.callModel_keeps id model ?_
      rintro reference rfl
      exact noDatabase id rfl
  | view statement =>
    rw [Session.step]
    cases lookup session.statements statement <;> exact ⟨rfl, rfl⟩
  | run statement | all statement | first statement column =>
    rw [Session.step]
    cases lookup session.statements statement with
    | error failure => exact ⟨rfl, rfl⟩
    | ok prepared => exact session.use_keeps _ _
  | batch database statements =>
    rw [Session.step]
    cases lookup session.databases database with
    | error failure => exact ⟨rfl, rfl⟩
    | ok engine =>
      cases statements.mapM (lookup session.statements) with
      | error failure => exact ⟨rfl, rfl⟩
      | ok prepared => exact session.use_keeps _ _
  | exec database sql | dump database =>
    rw [Session.step]
    cases lookup session.databases database with
    | error failure => exact ⟨rfl, rfl⟩
    | ok engine => exact session.use_keeps _ _

/-- Models are changed by the steps that make them and the calls that set their databases. -/
theorem step_keeps_models (noModel : ∀ id, ¬ step.MakesModel id) (noDatabase : ∀ id, ¬ step.SetsDatabase id) :
    (session.step step).2.models = session.models := by
  cases step with
  | prepare made database sql =>
    rcases session.step_prepare made database sql with ⟨_, -, -, kept⟩ | ⟨_, -, kept⟩
    · rw [kept, keepStatement]
    · rw [kept]
  | bind made source values =>
    rcases session.step_bind made source values with ⟨_, -, -, kept⟩ | ⟨_, -, kept⟩
    · rw [kept, keepStatement]
    · rw [kept]
  | _ => exact (session.step_keeps noModel noDatabase fun _ => not_false).1

/-- Statements are changed by the steps that make them. -/
theorem step_keeps_statements (noStatement : ∀ id, ¬ step.MakesStatement id) :
    (session.step step).2.statements = session.statements := by
  cases step with
  | model made options columns reference =>
    rcases session.step_model made options columns reference with ⟨_, -, -, -, kept⟩ | ⟨_, -, kept⟩
    · rw [kept, keepModel]
    · rw [kept]
  | call called call =>
    cases call with
    | setDatabase reference =>
      rcases session.step_setDatabase called reference with ⟨_, _, -, -, -, kept⟩ | ⟨_, -, kept⟩
      · rw [kept, keepModel]
      · rw [kept]
    | _ => refine (session.step_keeps ?_ ?_ noStatement).2 <;> exact fun _ => not_false
  | _ => refine (session.step_keeps ?_ ?_ noStatement).2 <;> exact fun _ => not_false

/-! ## What comes out of a step -/

theorem find?_keepModel (id : String) (model : Model) :
    (session.keepModel id model).models.find? id = some model :=
  Keyed.find?_put_self id model session.models

theorem find?_keepModel_of_ne {made : String} (other : made ≠ id) (model : Model) :
    (session.keepModel made model).models.find? id = session.models.find? id :=
  Keyed.find?_put_of_ne other.symm model session.models

theorem find?_keepStatement (id : String) (statement : Prepared) :
    (session.keepStatement id statement).statements.find? id = some statement :=
  Keyed.find?_put_self id statement session.statements

theorem find?_keepStatement_of_ne {made : String} (other : made ≠ id) (statement : Prepared) :
    (session.keepStatement made statement).statements.find? id = session.statements.find? id :=
  Keyed.find?_put_of_ne other.symm statement session.statements

/-- All that a step can do to the model under an identifier: make it, set its database, or leave it
alone. -/
inductive ModelTurn (session : Session) (id : String) (step : Step) : Prop
  | made {options columns : Value} {reference : DatabaseReference} {model : Model}
      (step_eq : step = .model id options columns reference)
      (replied : (session.step step).1.result = .ok (.model model))
      (defined : Schema.ofDefinition options columns = .ok model.schema)
      (gives : session.GivesDatabase reference model.database)
      (now : (session.step step).2.models.find? id = some model)
  | set {reference : DatabaseReference} {model : Model} {engine : Engine}
      (step_eq : step = .call id (.setDatabase reference))
      (succeeds : session.Succeeds step)
      (found : session.models.find? id = some model)
      (gives : session.GivesDatabase reference (some engine))
      (now : (session.step step).2.models.find? id = some { model with database := some engine })
  | kept (notMade : step.MakesModel id → ¬ session.Succeeds step)
      (notSet : step.SetsDatabase id → ¬ session.Succeeds step)
      (now : (session.step step).2.models.find? id = session.models.find? id)

/-- All that a step can do to the statement under an identifier: prepare it, bind it, or leave it
alone. -/
inductive StatementTurn (session : Session) (id : String) (step : Step) : Prop
  | prepared {database sql : String} {engine : Engine}
      (step_eq : step = .prepare id database sql)
      (succeeds : session.Succeeds step)
      (found : session.databases.find? database = some engine)
      (now : (session.step step).2.statements.find? id = some ⟨engine, sql, []⟩)
  | bound {source : String} {values : List Value} {statement : Prepared}
      (step_eq : step = .bind id source values)
      (succeeds : session.Succeeds step)
      (found : session.statements.find? source = some statement)
      (now : (session.step step).2.statements.find? id = some (statement.bind values))
  | kept (notMade : step.MakesStatement id → ¬ session.Succeeds step)
      (now : (session.step step).2.statements.find? id = session.statements.find? id)

theorem modelTurn (id : String) (step : Step) : session.ModelTurn id step := by
  by_cases idle : (∀ id, ¬ step.MakesModel id) ∧ ∀ id, ¬ step.SetsDatabase id
  · refine .kept (fun h => absurd h (idle.1 id)) (fun h => absurd h (idle.2 id)) ?_
    rw [session.step_keeps_models idle.1 idle.2]
  cases step with
  | model made options columns reference =>
    rcases session.step_model made options columns reference with
      ⟨model, replied, defined, gives, kept⟩ | ⟨failure, failed, kept⟩
    · by_cases same : made = id
      · subst same
        refine .made rfl replied defined gives ?_
        rw [kept, find?_keepModel]
      · refine .kept (fun h => absurd h same) False.elim ?_
        rw [kept, session.find?_keepModel_of_ne same]
    · refine .kept (fun _ => session.not_succeeds failed) False.elim ?_
      rw [kept]
  | call called call =>
    cases call with
    | setDatabase reference =>
      rcases session.step_setDatabase called reference with
        ⟨model, engine, replied, found, gives, kept⟩ | ⟨failure, failed, kept⟩
      · by_cases same : called = id
        · subst same
          refine .set rfl ⟨_, replied⟩ found gives ?_
          rw [kept, find?_keepModel]
        · refine .kept False.elim (fun h => absurd h same) ?_
          rw [kept, session.find?_keepModel_of_ne same]
      · refine .kept False.elim (fun _ => session.not_succeeds failed) ?_
        rw [kept]
    | _ => exact (idle ⟨fun _ => not_false, fun _ => not_false⟩).elim
  | _ => exact (idle ⟨fun _ => not_false, fun _ => not_false⟩).elim

theorem statementTurn (id : String) (step : Step) : session.StatementTurn id step := by
  by_cases idle : ∀ id, ¬ step.MakesStatement id
  · refine .kept (fun h => absurd h (idle id)) ?_
    rw [session.step_keeps_statements idle]
  cases step with
  | prepare made database sql =>
    rcases session.step_prepare made database sql with
      ⟨engine, replied, found, kept⟩ | ⟨failure, failed, kept⟩
    · by_cases same : made = id
      · subst same
        refine .prepared rfl ⟨_, replied⟩ found ?_
        rw [kept, find?_keepStatement]
      · refine .kept (fun h => absurd h same) ?_
        rw [kept, session.find?_keepStatement_of_ne same]
    · refine .kept (fun _ => session.not_succeeds failed) ?_
      rw [kept]
  | bind made source values =>
    rcases session.step_bind made source values with
      ⟨statement, replied, found, kept⟩ | ⟨failure, failed, kept⟩
    · by_cases same : made = id
      · subst same
        refine .bound rfl ⟨_, replied⟩ found ?_
        rw [kept, find?_keepStatement]
      · refine .kept (fun h => absurd h same) ?_
        rw [kept, session.find?_keepStatement_of_ne same]
    · refine .kept (fun _ => session.not_succeeds failed) ?_
      rw [kept]
  | _ => exact (idle fun _ => not_false).elim

/-! ## Nothing but what is named -/

/-- A step changes no model but the one that it makes or whose database it sets, and when it fails it
changes none. -/
theorem find?_model_step
    (idle : step.MakesModel id ∨ step.SetsDatabase id → ¬ session.Succeeds step) :
    (session.step step).2.models.find? id = session.models.find? id := by
  cases session.modelTurn id step with
  | made step_eq replied => exact absurd ⟨_, replied⟩ (idle (.inl (by rw [step_eq]; rfl)))
  | set step_eq succeeds => exact absurd succeeds (idle (.inr (by rw [step_eq]; rfl)))
  | kept notMade notSet now => exact now

/-- A step changes no statement but the one that it makes, and when it fails it changes none. -/
theorem find?_statement_step (idle : step.MakesStatement id → ¬ session.Succeeds step) :
    (session.step step).2.statements.find? id = session.statements.find? id := by
  cases session.statementTurn id step with
  | prepared step_eq succeeds => exact absurd succeeds (idle (by rw [step_eq]; rfl))
  | bound step_eq succeeds => exact absurd succeeds (idle (by rw [step_eq]; rfl))
  | kept notMade now => exact now

end Session

end TableModel
