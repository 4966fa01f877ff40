/-
# TableModel.Proofs.Model.Requests — what is left to check in the requests of a model

A model fills in most of a request by itself: the table is the one of its schema, the kind is a kind,
the clauses are a record and the conflict target of an upsert falls back on the primary key. For a
model whose schema was accepted all of this is as a statement needs it, so only what the caller gives
can be wrong. A request that is accepted is then a single errand, whatever the scripts hold, and one
that is refused reaches no engine.
-/
import TableModel.Proofs.Model.Plan
import TableModel.Proofs.Schema.WellFormed
import TableModel.Proofs.Statement.Documented

namespace TableModel

open TableModel.Action

/-- A statement as it reaches an engine. -/
def Statement.sent (statement : Statement) : Sent :=
  ⟨statement.text, some statement.bindings⟩

namespace Model

/-- A model of an accepted definition that has a database. -/
structure Constructed (model : Model) (engine : Engine) : Prop where
  defined : ∃ options columns, Schema.ofDefinition options columns = .ok model.schema
  bound : model.database = some engine

variable {model : Model} {engine : Engine} {kind : StatementKind} {clauses : Clauses}
  {target : Value} {statement : Statement}

namespace Constructed

/-- The table of an accepted definition has a name. -/
theorem named (constructed : model.Constructed engine) : model.schema.tableName.isEmpty = false := by
  obtain ⟨options, columns, accepted⟩ := constructed.defined
  obtain ⟨given, declared, parts, -⟩ := Schema.ofDefinition_eq_ok.mp accepted
  exact parts.named

/-- The primary key of an accepted definition is a conflict target. -/
theorem listsNames (constructed : model.Constructed engine) :
    model.primaryKeysValue.ListsNames model.schema.primaryKeys := by
  obtain ⟨options, columns, accepted⟩ := constructed.defined
  obtain ⟨given, declared, parts, -⟩ := Schema.ofDefinition_eq_ok.mp accepted
  have keys := parts.primaryKeys
  exact .sequence (.tuple _) keys.ne_nil keys.named

/-- A request with the clauses of a record is checked from the clauses on. -/
theorem statement_request (constructed : model.Constructed engine) :
    (model.request kind clauses.toValue target).statement
      = Statement.ofClauses kind model.schema.tableName clauses target := by
  have table : (Value.label model.schema.tableName).name? = some model.schema.tableName :=
    Value.name?_eq_some.mpr ⟨rfl, constructed.named⟩
  unfold Request.statement request
  dsimp only
  rw [table]
  rfl

/-- A request whose clauses have their shapes makes the statement of its kind. -/
theorem statement_of_made (constructed : model.Constructed engine) (shaped : clauses.Shaped)
    (made : Statement.Made model.schema.tableName clauses target kind statement) :
    (model.request kind clauses.toValue target).statement = .ok statement := by
  rw [constructed.statement_request]
  exact Statement.ofClauses_eq_ok.mpr ⟨shaped, made⟩

/-- A filter that is no mapping is what is wrong with a request, whatever else is. -/
theorem statement_of_filter (constructed : model.Constructed engine)
    (noMapping : ¬ clauses.filter.IsOptionalMap) :
    (model.request kind clauses.toValue target).statement = .error (.notMapping .filter) := by
  rw [constructed.statement_request]
  have refused : ClauseName.filter.entries clauses.filter = .error (.notMapping .filter) :=
    ClauseName.entries_eq_error.mpr ⟨noMapping, rfl⟩
  exact bind_eq_error.mpr (.inl refused)

end Constructed

/-! ## Accepted and refused requests -/

/-- The plan of a request that is accepted is its statement. -/
theorem requestPlan_of_statement {request : Request} (constructed : model.Constructed engine)
    (made : request.statement = .ok statement) :
    model.requestPlan request = .ok [⟨engine, [statement.sent]⟩] := by
  have prepared := model.prepared_eq_ok.mpr ⟨statement, engine, made, constructed.bound, rfl⟩
  exact requestPlan_eq_ok.mpr ⟨_, prepared, rfl⟩

/-- A request that is accepted is an errand. -/
theorem runs_request {request : Request} (constructed : model.Constructed engine)
    (made : request.statement = .ok statement) :
    Runs (model.prepareRequest request >>= Prepared.run) [⟨engine, [statement.sent]⟩] := by
  have carries := model.carries_request request Prepared.performs_run
  rw [requestPlan_of_statement constructed made] at carries
  exact carries.runs

/-- A request that is refused reaches no engine. -/
theorem quiet_request {request : Request} {e : StatementError} (refused : request.statement = .error e) :
    Quiet (model.prepareRequest request >>= Prepared.run) (.error (.statement e)) := by
  have silent := model.silent_prepareRequest request
  have failed : model.prepared request = .error (.statement e) := by
    rw [prepared, refused]
    rfl
  rw [failed] at silent
  exact silent.bind_error.quiet

/-- A model of the members of teams. Its primary key has two columns, in another order than they are
declared. -/
def members : Model where
  schema := {
    tableName := .plain "members"
    columns := [(.plain "id", ⟨.integer, false, false, false, false, none⟩),
      (.plain "team", ⟨.text, true, true, false, false, none⟩)]
    primaryKeys := [.plain "team", .plain "id"]
    autoIncrement := none
    uniqueKeys := []
    withoutRowid := .null }
  database := some ⟨"e", "sqlite", [], 0⟩

/-- The options of the members. -/
def membersOptions : Value :=
  .map [(.text "table_name", .text "members"),
    (.text "primary_keys", .list [.text "team", .text "id"])]

/-- The columns of the members. -/
def membersColumns : Value :=
  .map [(.text "id", .map [(.text "type", .text "int")]),
    (.text "team", .map [(.text "type", .text "text"), (.text "primary_key", .bool true),
      (.text "not_null", .bool true)])]

theorem constructed_members : members.Constructed ⟨"e", "sqlite", [], 0⟩ :=
  ⟨⟨membersOptions, membersColumns, rfl⟩, rfl⟩

end Model

/-! ## A single statement in the events -/

/-- The only statement among the events of a single errand is the one that was sent. -/
theorem Action.Runs.executed {α : Type} {action : Action α} {engine : Engine} {sent : Sent}
    (runs : Runs action [⟨engine, [sent]⟩]) {scripts : Scripts} {name sql : String}
    {bindings : Option (List Value)}
    (event : .execute name sql bindings ∈ (action scripts).trace.events) :
    name = engine.name ∧ sql = sent.sql ∧ bindings = sent.bindings := by
  have events := (runs scripts).events_eq
  rw [Errand.transactions_singleton, List.flatMap_singleton, Transaction.events,
    Errand.sent_single] at events
  rw [events, List.mem_cons, List.mem_append, List.mem_map, List.mem_singleton] at event
  rcases event with opening | ⟨other, member, executed⟩ | closing
  · cases opening
  · obtain rfl := List.mem_singleton.mp member
    cases executed
    exact ⟨rfl, rfl, rfl⟩
  · unfold Transaction.closing at closing
    split at closing <;> cases closing

end TableModel
