/-
# TableModel.Proofs.Session.History — what models and statements have become of

A session changes with every step, but a model and a prepared statement change only by steps that name
them. So what is under an identifier can be told from a few steps of the history: for a model the step
that made it last and the call that has set its database last, for a statement the step that prepared
it and the steps that bound values to it, one after the other and each to what the one before has made.
`MadeBy` and `Led` are these histories. What is found under an identifier is shown to have exactly the
history that it should have, however many other steps there were, and whether they failed.
-/
import Mathlib.Data.List.Induction
import TableModel.Proofs.Session.Frame
import TableModel.Proofs.Session.Transactions

namespace TableModel

namespace Session

variable {session : Session} {steps before later : List Step} {step : Step} {id : String}

/-! ## Runs -/

/-- The session after steps. -/
def after (session : Session) : List Step → Session
  | [] => session
  | step :: rest => (session.step step).2.after rest

theorem after_cons (session : Session) (step : Step) (rest : List Step) :
    session.after (step :: rest) = (session.step step).2.after rest := rfl

theorem after_append (session : Session) (before later : List Step) :
    session.after (before ++ later) = (session.after before).after later := by
  induction before generalizing session with
  | nil => rfl
  | cons step rest ih => exact ih (session.step step).2

theorem turns_append (session : Session) (before later : List Step) :
    session.turns (before ++ later) = session.turns before ++ (session.after before).turns later := by
  induction before generalizing session with
  | nil => rfl
  | cons step rest ih => exact congrArg _ (ih (session.step step).2)

/-- No step of a kind succeeds. -/
def NoneSucceeds (session : Session) (kind : Step → Prop) (steps : List Step) : Prop :=
  ∀ turn ∈ session.turns steps, kind turn.2 → ¬ turn.1.Succeeds turn.2

section

variable {kind : Step → Prop}

theorem noneSucceeds_nil : session.NoneSucceeds kind [] :=
  List.forall_mem_nil _

theorem noneSucceeds_cons : session.NoneSucceeds kind (step :: later) ↔
    (kind step → ¬ session.Succeeds step) ∧ (session.step step).2.NoneSucceeds kind later :=
  List.forall_mem_cons

theorem noneSucceeds_append : session.NoneSucceeds kind (before ++ later) ↔
    session.NoneSucceeds kind before ∧ (session.after before).NoneSucceeds kind later := by
  rw [NoneSucceeds, turns_append, List.forall_mem_append]
  rfl

theorem noneSucceeds_concat : session.NoneSucceeds kind (steps ++ [step]) ↔
    session.NoneSucceeds kind steps ∧ (kind step → ¬ (session.after steps).Succeeds step) := by
  rw [noneSucceeds_append, noneSucceeds_cons]
  exact and_congr_right fun _ => and_iff_left noneSucceeds_nil

end

/-! ## Runs that leave a thing alone -/

theorem find?_model_after (unmade : session.NoneSucceeds (Step.MakesModel id) steps)
    (unset : session.NoneSucceeds (Step.SetsDatabase id) steps) :
    (session.after steps).models.find? id = session.models.find? id := by
  induction steps generalizing session with
  | nil => rfl
  | cons step rest ih =>
    obtain ⟨notMade, unmade⟩ := noneSucceeds_cons.mp unmade
    obtain ⟨notSet, unset⟩ := noneSucceeds_cons.mp unset
    have now : (session.step step).2.models.find? id = session.models.find? id :=
      session.find?_model_step fun names => names.elim notMade notSet
    exact (ih unmade unset).trans now

theorem find?_statement_after (unmade : session.NoneSucceeds (Step.MakesStatement id) steps) :
    (session.after steps).statements.find? id = session.statements.find? id := by
  induction steps generalizing session with
  | nil => rfl
  | cons step rest ih =>
    obtain ⟨notMade, unmade⟩ := noneSucceeds_cons.mp unmade
    exact (ih unmade).trans (session.find?_statement_step notMade)

/-! ## Models -/

/-- A model keeps its schema until another one is made under its identifier. -/
theorem exists_model_after {model : Model} (found : session.models.find? id = some model)
    (unmade : session.NoneSucceeds (Step.MakesModel id) steps) :
    ∃ other, (session.after steps).models.find? id = some other ∧ other.schema = model.schema := by
  induction steps generalizing session model with
  | nil => exact ⟨model, found, rfl⟩
  | cons step rest ih =>
    obtain ⟨notMade, unmade⟩ := noneSucceeds_cons.mp unmade
    cases session.modelTurn id step with
    | made step_eq replied => exact absurd ⟨_, replied⟩ (notMade (by rw [step_eq]; rfl))
    | set step_eq succeeds here gives now =>
      obtain rfl := Option.some.inj (found.symm.trans here)
      obtain ⟨other, after, schema_eq⟩ := ih now unmade
      exact ⟨other, after, schema_eq⟩
    | kept notMade notSet now => exact ih (now.trans found) unmade

/-- The database of a model after steps: the one that it was given, until another one is set. -/
inductive BoundTo (session : Session) (id : String) (given : Option Engine) :
    List Step → Option Engine → Prop
  | given {steps : List Step} (unset : session.NoneSucceeds (Step.SetsDatabase id) steps) :
      BoundTo session id given steps given
  | set {before later : List Step} {reference : DatabaseReference} {engine : Engine}
      (succeeds : (session.after before).Succeeds (.call id (.setDatabase reference)))
      (gives : (session.after before).GivesDatabase reference (some engine))
      (unset : ((session.after before).step (.call id (.setDatabase reference))).2.NoneSucceeds
        (Step.SetsDatabase id) later) :
      BoundTo session id given (before ++ .call id (.setDatabase reference) :: later) (some engine)

/-- How a model came to be what it is after steps: it was made by one of them, and none made another
one since. -/
inductive MadeBy (session : Session) (id : String) : List Step → Model → Prop
  | intro {before later : List Step} {options columns : Value} {reference : DatabaseReference}
      {made model : Model}
      (replied : ((session.after before).step (.model id options columns reference)).1.result
        = .ok (.model made))
      (schema_eq : model.schema = made.schema)
      (unmade : ((session.after before).step (.model id options columns reference)).2.NoneSucceeds
        (Step.MakesModel id) later)
      (bound : ((session.after before).step (.model id options columns reference)).2.BoundTo id
        made.database later model.database) :
      MadeBy session id (before ++ .model id options columns reference :: later) model

theorem GivesDatabase.unique {reference : DatabaseReference} {database other : Option Engine}
    (gives : session.GivesDatabase reference database)
    (otherwise : session.GivesDatabase reference other) : database = other := by
  cases gives with
  | nothing =>
    cases otherwise
    rfl
  | database found =>
    cases otherwise with
    | database also => exact found.symm.trans also

/-- Setting a database that is not refused is kept with the model. -/
theorem find?_of_setDatabase {reference : DatabaseReference} {engine : Engine} {model : Model}
    (succeeds : session.Succeeds (.call id (.setDatabase reference)))
    (gives : session.GivesDatabase reference (some engine))
    (found : session.models.find? id = some model) :
    (session.step (.call id (.setDatabase reference))).2.models.find? id
      = some { model with database := some engine } := by
  cases session.modelTurn id (.call id (.setDatabase reference)) with
  | made step_eq => cases step_eq
  | set step_eq _ here otherwise now =>
    cases step_eq
    obtain rfl := Option.some.inj (found.symm.trans here)
    rw [now, gives.unique otherwise]
  | kept _ notSet => exact absurd succeeds (notSet rfl)

theorem find?_of_made {options columns : Value} {reference : DatabaseReference} {made : Model}
    (replied : (session.step (.model id options columns reference)).1.result = .ok (.model made)) :
    (session.step (.model id options columns reference)).2.models.find? id = some made := by
  cases session.modelTurn id (.model id options columns reference) with
  | made _ otherwise _ _ now =>
    rw [replied] at otherwise
    cases otherwise
    exact now
  | set step_eq => cases step_eq
  | kept notMade => exact absurd ⟨_, replied⟩ (notMade rfl)

/-- A model that is there at first is there after steps that make no other one, with the database that
it is bound to by then. -/
theorem BoundTo.find?_after {model : Model} {database : Option Engine}
    (found : session.models.find? id = some model)
    (unmade : session.NoneSucceeds (Step.MakesModel id) steps)
    (bound : session.BoundTo id model.database steps database) :
    (session.after steps).models.find? id = some { model with database := database } := by
  cases bound with
  | given unset => exact (find?_model_after unmade unset).trans found
  | @set before later reference engine succeeds gives unset =>
    obtain ⟨first, unmade⟩ := noneSucceeds_append.mp unmade
    obtain ⟨-, unmade⟩ := noneSucceeds_cons.mp unmade
    obtain ⟨other, here, schema_eq⟩ := exists_model_after found first
    have now := find?_of_setDatabase succeeds gives here
    rw [after_append, ← schema_eq]
    exact (find?_model_after unmade unset).trans now

theorem BoundTo.concat {given database : Option Engine} (bound : session.BoundTo id given steps database)
    (idle : step.SetsDatabase id → ¬ (session.after steps).Succeeds step) :
    session.BoundTo id given (steps ++ [step]) database := by
  cases bound with
  | given unset => exact .given (noneSucceeds_concat.mpr ⟨unset, idle⟩)
  | set succeeds gives unset =>
    rw [after_append] at idle
    rw [List.append_assoc, List.cons_append]
    exact .set succeeds gives (noneSucceeds_concat.mpr ⟨unset, idle⟩)

/-- Steps always leave some database, or none, to which a model is bound. -/
theorem exists_boundTo (session : Session) (id : String) (given : Option Engine) (steps : List Step) :
    ∃ database, session.BoundTo id given steps database := by
  induction steps using List.reverseRecOn with
  | nil => exact ⟨given, .given noneSucceeds_nil⟩
  | append_singleton steps step ih =>
    obtain ⟨database, bound⟩ := ih
    by_cases sets : step.SetsDatabase id ∧ (session.after steps).Succeeds step
    · obtain ⟨reference, rfl⟩ := sets.1.exists_eq
      rcases (session.after steps).step_setDatabase id reference with
        ⟨_, engine, -, -, gives, -⟩ | ⟨failure, failed, -⟩
      · exact ⟨some engine, .set sets.2 gives noneSucceeds_nil⟩
      · exact absurd sets.2 ((session.after steps).not_succeeds failed)
    · exact ⟨database, bound.concat fun names succeeds => sets ⟨names, succeeds⟩⟩

theorem MadeBy.find?_after {model : Model} (made : session.MadeBy id steps model) :
    (session.after steps).models.find? id = some model := by
  cases made with
  | intro replied schema_eq unmade bound =>
    rw [after_append]
    have now := bound.find?_after (find?_of_made replied) unmade
    rw [← schema_eq] at now
    exact now

/-- A step that does nothing to a model adds nothing to its history. -/
theorem MadeBy.concat {model : Model} (made : session.MadeBy id steps model)
    (notMade : step.MakesModel id → ¬ (session.after steps).Succeeds step)
    (notSet : step.SetsDatabase id → ¬ (session.after steps).Succeeds step) :
    session.MadeBy id (steps ++ [step]) model := by
  cases made with
  | intro replied schema_eq unmade bound =>
    rw [after_append] at notMade notSet
    rw [List.append_assoc, List.cons_append]
    exact .intro replied schema_eq (noneSucceeds_concat.mpr ⟨unmade, notMade⟩) (bound.concat notSet)

/-- A step that sets the database of a model is the latest one to have done so. -/
theorem MadeBy.set {model : Model} {reference : DatabaseReference} {engine : Engine}
    (made : session.MadeBy id steps model)
    (succeeds : (session.after steps).Succeeds (.call id (.setDatabase reference)))
    (gives : (session.after steps).GivesDatabase reference (some engine)) :
    session.MadeBy id (steps ++ [.call id (.setDatabase reference)])
      { model with database := some engine } := by
  cases made with
  | intro replied schema_eq unmade bound =>
    rw [after_append] at succeeds gives
    rw [List.append_assoc, List.cons_append]
    exact .intro replied schema_eq (noneSucceeds_concat.mpr ⟨unmade, False.elim⟩)
      (.set succeeds gives noneSucceeds_nil)

/-- What is found under an identifier has been made by one of the steps. -/
theorem madeBy_of_find? {model : Model} (start : session.models.find? id = none)
    (found : (session.after steps).models.find? id = some model) : session.MadeBy id steps model := by
  induction steps using List.reverseRecOn generalizing model with
  | nil =>
    rw [after, start] at found
    cases found
  | append_singleton steps step ih =>
    rw [after_append, after_cons, after] at found
    cases (session.after steps).modelTurn id step with
    | made step_eq replied _ _ now =>
      subst step_eq
      obtain rfl := Option.some.inj (now.symm.trans found)
      exact .intro replied rfl noneSucceeds_nil (.given noneSucceeds_nil)
    | set step_eq succeeds here gives now =>
      subst step_eq
      obtain rfl := Option.some.inj (now.symm.trans found)
      exact (ih here).set succeeds gives
    | kept notMade notSet now => exact (ih (now.symm.trans found)).concat notMade notSet

/-! ## Prepared statements -/

/-- How a statement came to be what it is after steps: it was prepared on an engine and then bound, call
after call, each to what the call before has made. What else was made of it, or done with it, is no
part of its history. -/
inductive Led (session : Session) : List Step → String → Engine → String → List (List Value) → Prop
  | prepared {before later : List Step} {id database sql : String} {engine : Engine}
      (found : (session.after before).databases.find? database = some engine)
      (unmade : ((session.after before).step (.prepare id database sql)).2.NoneSucceeds
        (Step.MakesStatement id) later) :
      Led session (before ++ .prepare id database sql :: later) id engine sql []
  | bound {before later : List Step} {id source sql : String} {values : List Value} {engine : Engine}
      {calls : List (List Value)} (led : Led session before source engine sql calls)
      (unmade : ((session.after before).step (.bind id source values)).2.NoneSucceeds
        (Step.MakesStatement id) later) :
      Led session (before ++ .bind id source values :: later) id engine sql (calls ++ [values])

theorem Led.concat {engine : Engine} {sql : String} {calls : List (List Value)}
    (led : session.Led steps id engine sql calls)
    (idle : step.MakesStatement id → ¬ (session.after steps).Succeeds step) :
    session.Led (steps ++ [step]) id engine sql calls := by
  cases led with
  | prepared found unmade =>
    rw [after_append] at idle
    rw [List.append_assoc, List.cons_append]
    exact .prepared found (noneSucceeds_concat.mpr ⟨unmade, idle⟩)
  | bound led unmade =>
    rw [after_append] at idle
    rw [List.append_assoc, List.cons_append]
    exact .bound led (noneSucceeds_concat.mpr ⟨unmade, idle⟩)

/-- A statement that was led to is there, with the values of its calls in their order. -/
theorem Led.find?_after {engine : Engine} {sql : String} {calls : List (List Value)}
    (led : session.Led steps id engine sql calls) :
    (session.after steps).statements.find? id = some ⟨engine, sql, calls.flatten⟩ := by
  induction led with
  | @prepared before later id database sql engine found unmade =>
    have now : ((session.after before).step (.prepare id database sql)).2
        = (session.after before).keepStatement id ⟨engine, sql, []⟩ := by
      rw [Session.step, lookup_eq_ok.mpr found]
    rw [after_append]
    refine (find?_statement_after unmade).trans ?_
    rw [now, find?_keepStatement, List.flatten_nil]
  | @bound before later id source sql values engine calls _ unmade ih =>
    have now : ((session.after before).step (.bind id source values)).2
        = (session.after before).keepStatement id ⟨engine, sql, calls.flatten ++ values⟩ := by
      rw [Session.step, lookup_eq_ok.mpr ih]
      rfl
    rw [after_append]
    refine (find?_statement_after unmade).trans ?_
    rw [now, find?_keepStatement, List.flatten_append, List.flatten_singleton]

/-- A statement that is there was led to. -/
theorem led_of_find? {statement : Prepared} (start : session.statements = [])
    (found : (session.after steps).statements.find? id = some statement) :
    ∃ calls, session.Led steps id statement.engine statement.sql calls ∧
      statement.bindings = calls.flatten := by
  induction steps using List.reverseRecOn generalizing id statement with
  | nil =>
    rw [after, start] at found
    cases found
  | append_singleton steps step ih =>
    rw [after_append, after_cons, after] at found
    cases (session.after steps).statementTurn id step with
    | prepared step_eq succeeds here now =>
      subst step_eq
      obtain rfl := Option.some.inj (now.symm.trans found)
      exact ⟨[], .prepared here noneSucceeds_nil, rfl⟩
    | @bound source values earlier step_eq succeeds here now =>
      subst step_eq
      obtain rfl := Option.some.inj (now.symm.trans found)
      obtain ⟨calls, led, bindings⟩ := ih here
      refine ⟨calls ++ [values], .bound led noneSucceeds_nil, ?_⟩
      rw [List.flatten_append, List.flatten_singleton, ← bindings]
      rfl
    | kept notMade now =>
      obtain ⟨calls, led, bindings⟩ := ih (now.symm.trans found)
      exact ⟨calls, led.concat notMade, bindings⟩

end Session

end TableModel
