/-
# TableModel.Proofs.Model.Plan — what a model asks of its database, decided before it is done

All checks of a model's call are made before it reaches the database. So a call can be taken apart:
its *plan*, which depends on the model and the arguments alone, is a refusal or a list of errands, and
what the call does is to be refused or to run its errands. Plans are computed here next to the
actions, without log and scripts, and every call is shown to carry its plan.
-/
import TableModel.Model.Basic
import TableModel.Proofs.Database.Execution

namespace TableModel

open TableModel.Action

/-! ## Statements and schemas without their log -/

theorem Request.silent_generate (request : Request) :
    Silent request.generate (request.statement.mapError .statement) :=
  Silent.remarked .statement request.statement Statement.generatedMessage (by decide)

theorem Schema.silent_define (options columns : Value) :
    Silent (Schema.define options columns)
      ((Schema.ofDefinition options columns).mapError .schema) :=
  Silent.remarked .schema (Schema.ofDefinition options columns) Schema.validatedMessage (by decide)

namespace Model

variable (model : Model)

/-- The model of a definition. -/
def defined (options columns : Value) (database : DatabaseArgument) : Except Failure Model := do
  let schema ← (Schema.ofDefinition options columns).mapError .schema
  match database with
  | .nothing => return ⟨schema, none⟩
  | .engine engine => return ⟨schema, some engine⟩
  | .other => throw (.database .notADatabase)

/-- A model that is made has the schema of its definition and the database that is given with it. -/
theorem defined_eq_ok {options columns : Value} {database : DatabaseArgument} {made : Model} :
    defined options columns database = .ok made ↔
      Schema.ofDefinition options columns = .ok made.schema ∧
        (database = .nothing ∧ made.database = none ∨
          ∃ engine, database = .engine engine ∧ made.database = some engine) := by
  obtain ⟨schema, bound⟩ := made
  constructor
  · intro h
    obtain ⟨read, hread, h⟩ := bind_eq_ok.mp h
    cases database with
    | nothing =>
      cases h
      exact ⟨mapError_eq_ok.mp hread, .inl ⟨rfl, rfl⟩⟩
    | engine engine =>
      cases h
      exact ⟨mapError_eq_ok.mp hread, .inr ⟨engine, rfl, rfl⟩⟩
    | other => cases h
  · rintro ⟨read, ⟨rfl, given⟩ | ⟨engine, rfl, given⟩⟩
    · obtain rfl : bound = none := given
      exact bind_eq_ok.mpr ⟨schema, mapError_eq_ok.mpr read, rfl⟩
    · obtain rfl : bound = some engine := given
      exact bind_eq_ok.mpr ⟨schema, mapError_eq_ok.mpr read, rfl⟩

theorem isEngine_of_defined {options columns : Value} {database : DatabaseArgument}
    {failure : Failure} (h : defined options columns database = .error failure) :
    failure.isEngine = false := by
  rcases bind_eq_error.mp h with h | ⟨schema, -, h⟩
  · exact Failure.isEngine_of_mapError (fun _ => rfl) h
  · cases database with
    | nothing => cases h
    | engine engine => cases h
    | other =>
      obtain rfl := throw_eq_error.mp h
      rfl

theorem silent_define (options columns : Value) (database : DatabaseArgument) :
    Silent (define options columns database) (defined options columns database) := by
  refine (Schema.silent_define options columns).bind fun schema _ => ?_
  cases database with
  | nothing => exact Silent.pure _
  | engine engine => exact Silent.pure _
  | other => exact Silent.fail _

/-- The statement of a request, prepared on the model's database. -/
def prepared (request : Request) : Except Failure Prepared := do
  let statement ← request.statement.mapError .statement
  let engine ← model.getDatabase
  return ⟨engine, statement.text, statement.bindings⟩

theorem silent_prepareRequest (request : Request) :
    Silent (model.prepareRequest request) (model.prepared request) :=
  request.silent_generate.bind fun _ _ =>
    (Silent.ofExcept_id model.getDatabase).bind fun _ _ => Silent.pure _

/-- The insertions of rows, prepared one by one. -/
def preparedRows (orReplace : Value) (rows : List Value) : Except Failure (List Prepared) :=
  rows.mapM fun row => model.prepared (model.insertRequest row orReplace)

theorem silent_prepareRows (orReplace : Value) (rows : List Value) :
    Silent (model.prepareRows orReplace rows) (model.preparedRows orReplace rows) := by
  induction rows with
  | nil => exact Silent.pure []
  | cons row rest ih =>
    rw [preparedRows, List.mapM_cons]
    exact (model.silent_prepareRequest _).bind fun _ _ => ih.bind fun _ _ => Silent.pure _

variable {model} in
theorem getDatabase_eq_ok {engine : Engine} :
    model.getDatabase = .ok engine ↔ model.database = some engine := by
  unfold getDatabase
  cases model.database <;> simp

theorem prepared_eq_ok {request : Request} {prepared : Prepared} :
    model.prepared request = .ok prepared ↔
      ∃ statement engine, request.statement = .ok statement ∧ model.database = some engine ∧
        prepared = ⟨engine, statement.text, statement.bindings⟩ := by
  constructor
  · intro h
    obtain ⟨statement, made, h⟩ := bind_eq_ok.mp h
    obtain ⟨engine, bound, h⟩ := bind_eq_ok.mp h
    exact ⟨statement, engine, mapError_eq_ok.mp made, getDatabase_eq_ok.mp bound,
      (pure_eq_ok.mp h).symm⟩
  · rintro ⟨statement, engine, made, bound, rfl⟩
    refine bind_eq_ok.mpr ⟨statement, mapError_eq_ok.mpr made, ?_⟩
    exact bind_eq_ok.mpr ⟨engine, getDatabase_eq_ok.mpr bound, rfl⟩

/-! ## Plans of models -/

/-- The plan of a single statement. -/
def requestPlan (request : Request) : Except Failure (List Errand) := do
  let statement ← model.prepared request
  return [statement.errand]

/-- The plan of raw statements, each in its transaction. -/
def rawPlan (texts : List String) : Except Failure (List Errand) := do
  let engine ← model.getDatabase
  return texts.map engine.rawErrand

/-- The plan of a batch of insertions. -/
def batchPlan (rows orReplace : Value) : Except Failure (List Errand) :=
  match rows.items? with
  | none => .error .notIterable
  | some items => do
    let statements ← model.preparedRows orReplace items
    if statements.isEmpty then .error (.statement .insertWithoutData)
    else do
      let engine ← model.getDatabase
      return [Prepared.batchErrand engine statements]

/-- The statement that drops the model's table. -/
def dropText (silent : Value) : String :=
  dropTableText model.schema.tableName.shown silent.truth

/-- The plan of creating the table. -/
def createPlan (strategy : Value) : Except Failure (List Errand) :=
  match Strategy.ofValue? strategy with
  | none => .error (.unknownStrategy strategy)
  | some .alter => .error .strategyNotImplemented
  | some .force => model.rawPlan [model.dropText (.bool true), model.schema.createTableText]
  | some .plain => model.rawPlan [model.schema.createTableText]

variable {model} {errands : List Errand}

theorem requestPlan_eq_ok {request : Request} :
    model.requestPlan request = .ok errands ↔
      ∃ prepared, model.prepared request = .ok prepared ∧ errands = [prepared.errand] := by
  simp only [requestPlan, bind_eq_ok, pure_eq_ok, @eq_comm _ errands]

theorem rawPlan_eq_ok {texts : List String} :
    model.rawPlan texts = .ok errands ↔
      ∃ engine, model.database = some engine ∧ errands = texts.map engine.rawErrand := by
  simp only [rawPlan, bind_eq_ok, pure_eq_ok, getDatabase_eq_ok, @eq_comm _ errands]

theorem Strategy.ofValue?_eq_force {strategy : Value} :
    Strategy.ofValue? strategy = some .force ↔ strategy.isText "force" = true := by
  cases strategy with
  | label name =>
    simp only [ofValue?, Value.isText, beq_iff_eq]
    grind
  | _ => simp [ofValue?, Value.isText]

theorem isEmpty_of_preparedRows {orReplace : Value} {items : List Value}
    {statements : List Prepared} (made : model.preparedRows orReplace items = .ok statements)
    (given : items ≠ []) : statements.isEmpty = false := by
  cases mapM_eq_ok.mp made with
  | nil => exact absurd rfl given
  | cons _ _ => rfl

theorem batchPlan_of_preparedRows {rows orReplace : Value} {items : List Value} {engine : Engine}
    {statements : List Prepared} (listed : rows.items? = some items)
    (made : model.preparedRows orReplace items = .ok statements) (given : items ≠ [])
    (bound : model.database = some engine) :
    model.batchPlan rows orReplace = .ok [Prepared.batchErrand engine statements] := by
  rw [batchPlan, listed]
  dsimp only
  rw [made, ok_bind, isEmpty_of_preparedRows made given, getDatabase_eq_ok.mpr bound]
  rfl

/-- A batch of insertions needs rows, a statement for each of them, and a database. -/
theorem batchPlan_eq_ok {rows orReplace : Value} :
    model.batchPlan rows orReplace = .ok errands ↔
      ∃ engine items statements, model.database = some engine ∧ rows.items? = some items ∧
        items ≠ [] ∧
        List.Forall₂ (fun row prepared => ∃ statement,
          (model.insertRequest row orReplace).statement = .ok statement ∧
            prepared = ⟨engine, statement.text, statement.bindings⟩) items statements ∧
        errands = [Prepared.batchErrand engine statements] := by
  constructor
  · intro h
    unfold batchPlan at h
    split at h
    · cases h
    · rename_i items listed
      obtain ⟨statements, made, h⟩ := bind_eq_ok.mp h
      split at h
      · cases h
      · rename_i filled
        obtain ⟨engine, bound, h⟩ := bind_eq_ok.mp h
        rw [getDatabase_eq_ok] at bound
        refine ⟨engine, items, statements, bound, listed, ?_, ?_, (pure_eq_ok.mp h).symm⟩
        · rintro rfl
          obtain rfl := List.forall₂_nil_left_iff.mp (mapM_eq_ok.mp made)
          exact filled rfl
        · refine (mapM_eq_ok.mp made).imp fun row prepared h => ?_
          obtain ⟨statement, own, made, hown, rfl⟩ := model.prepared_eq_ok.mp h
          obtain rfl := Option.some.inj (bound.symm.trans hown)
          exact ⟨statement, made, rfl⟩
  · rintro ⟨engine, items, statements, bound, listed, given, each, rfl⟩
    refine batchPlan_of_preparedRows listed (mapM_eq_ok.mpr (each.imp fun row prepared h => ?_))
      given bound
    obtain ⟨statement, made, rfl⟩ := h
    exact model.prepared_eq_ok.mpr ⟨statement, engine, made, bound, rfl⟩

variable (model)

/-! ## Models follow their plans -/

theorem isEngine_of_getDatabase {failure : Failure} (h : model.getDatabase = .error failure) :
    failure.isEngine = false := by
  unfold getDatabase at h
  split at h
  · cases h
  · obtain rfl := Except.error.inj h
    rfl

theorem isEngine_of_prepared {request : Request} {failure : Failure}
    (h : model.prepared request = .error failure) : failure.isEngine = false := by
  rcases bind_eq_error.mp h with h | ⟨statement, -, h⟩
  · exact Failure.isEngine_of_mapError (fun _ => rfl) h
  · rcases bind_eq_error.mp h with h | ⟨engine, -, h⟩
    · exact model.isEngine_of_getDatabase h
    · cases h

theorem isEngine_of_preparedRows {orReplace : Value} {rows : List Value} {failure : Failure}
    (h : model.preparedRows orReplace rows = .error failure) : failure.isEngine = false := by
  obtain ⟨row, -, hrow⟩ := exists_of_mapM_eq_error h
  exact model.isEngine_of_prepared hrow

/-- A request is refused, or its statement is the errand. -/
theorem carries_request {α : Type} {use : Prepared → Action α} (request : Request)
    (performs : ∀ statement : Prepared, Performs (use statement) [statement.errand]) :
    Carries (model.prepareRequest request >>= use) (model.requestPlan request) :=
  Carries.bind (model.silent_prepareRequest request) (fun _ => model.isEngine_of_prepared)
    fun statement _ => performs statement

theorem carries_first (filter : Value) :
    Carries (model.first filter) (model.requestPlan (model.firstRequest filter)) := by
  refine model.carries_request _ fun statement => ?_
  refine statement.performs_run.before_silent fun result => ?_
  -- without a column the row itself is asked for, and that is always there
  cases result.rows with
  | nil => exact ⟨_, Silent.pure _⟩
  | cons row rest => exact ⟨_, Silent.ofExcept_id _⟩

/-- A raw statement is refused for want of a database, or it is the errand. -/
theorem carries_raw (message text : String) :
    Carries (do
      Action.log .info .model message
      let engine ← Action.ofExcept id model.getDatabase
      engine.exec text) (model.rawPlan [text]) := by
  have remark : Silent (Action.log .info .model message) (.ok ()) := Silent.log (by decide)
  refine Carries.after_silent remark ?_
  exact Carries.bind (Silent.ofExcept_id _) (fun _ => model.isEngine_of_getDatabase)
    fun engine _ => engine.performs_exec text

theorem carries_dropTable (silent : Value) :
    Carries (model.dropTable silent) (model.rawPlan [model.dropText silent]) :=
  model.carries_raw _ _

theorem carries_createPlain :
    Carries model.createPlain (model.rawPlan [model.schema.createTableText]) :=
  model.carries_raw _ _

theorem carries_createTable (strategy : Value) :
    Carries (model.createTable strategy) (model.createPlan strategy) := by
  unfold createTable createPlan
  cases Strategy.ofValue? strategy with
  | none => exact ⟨Silent.fail _, rfl⟩
  | some way =>
    cases way with
    | plain => exact model.carries_createPlain
    | alter => exact ⟨Silent.fail _, rfl⟩
    | force =>
      have drop := model.carries_dropTable (.bool true)
      have create := model.carries_createPlain
      unfold rawPlan at drop create ⊢
      -- without a database the first of the two is refused, with one neither is
      cases h : model.getDatabase with
      | error failure =>
        rw [h] at drop
        exact ⟨drop.1.bind_error, drop.2⟩
      | ok engine =>
        rw [h] at drop create
        exact Performs.bind drop fun _ => create

theorem carries_insertMany (rows orReplace : Value) :
    Carries (model.insertMany rows orReplace) (model.batchPlan rows orReplace) := by
  unfold insertMany batchPlan
  cases rows.items? with
  | none => exact ⟨Silent.fail _, rfl⟩
  | some items =>
    refine Carries.bind (model.silent_prepareRows orReplace items)
      (fun _ => model.isEngine_of_preparedRows) fun statements _ => ?_
    split
    · exact ⟨Silent.fail _, rfl⟩
    · have remark : Silent (Action.log .debug .model ("Inserting " ++ toString statements.length
          ++ " rows into " ++ model.schema.tableName.shown)) (.ok ()) := Silent.log (by decide)
      refine Carries.after_silent remark ?_
      exact Carries.bind (Silent.ofExcept_id _) (fun _ => model.isEngine_of_getDatabase)
        fun engine _ => engine.performs_batch statements

end Model

/-! ## Results -/

theorem Model.result_insertOne (model : Model) {row orReplace : Value} {prepared : Prepared}
    (made : model.prepared (model.insertRequest row orReplace) = .ok prepared) (scripts : Scripts) :
    (model.insertOne row orReplace scripts).result
      = (scripts.next prepared.engine.script).verdict := by
  have silent := model.silent_prepareRequest (model.insertRequest row orReplace)
  rw [made] at silent
  rw [Model.insertOne, silent.result_bind, prepared.result_run]

theorem Model.result_insertMany (model : Model) {rows orReplace : Value} {items : List Value}
    {statements : List Prepared} {engine : Engine} (listed : rows.items? = some items)
    (made : model.preparedRows orReplace items = .ok statements) (given : items ≠ [])
    (bound : model.database = some engine) (scripts : Scripts) :
    (model.insertMany rows orReplace scripts).result
      = ((Prepared.batchErrand engine statements).transaction scripts).verdict := by
  have silent := model.silent_prepareRows orReplace items
  rw [made] at silent
  have remark : Silent (Action.log .debug .model ("Inserting " ++ toString statements.length
      ++ " rows into " ++ model.schema.tableName.shown)) (.ok ()) := Silent.log (by decide)
  have database : Silent (Action.ofExcept id model.getDatabase) (.ok engine) := by
    rw [getDatabase_eq_ok.mpr bound]
    exact Silent.ofExcept_id (.ok engine)
  rw [insertMany, listed]
  dsimp only
  rw [silent.result_bind, isEmpty_of_preparedRows made given, if_neg Bool.false_ne_true,
    remark.result_bind, database.result_bind, engine.result_batch]

/-- What has statements for rows is bound to a database. -/
theorem Model.bound_of_preparedRows (model : Model) {orReplace : Value} {items : List Value}
    {statements : List Prepared} (made : model.preparedRows orReplace items = .ok statements)
    (given : items ≠ []) : ∃ engine, model.database = some engine := by
  obtain ⟨row, rest, rfl⟩ := List.exists_cons_of_ne_nil given
  rw [Model.preparedRows, List.mapM_cons] at made
  obtain ⟨prepared, first, -⟩ := bind_eq_ok.mp made
  obtain ⟨statement, engine, -, bound, -⟩ := model.prepared_eq_ok.mp first
  exact ⟨engine, bound⟩

end TableModel
