/-
# TableModel.Proofs.Model.Preconditions — a constructed model meets what statements ask for

Definitions and requests are checked by different functions and in different forms: the schema has a
table's name and a list of keys, a request has values that may be anything. What the first check lets
pass has to be enough for the second. It is: the table of an accepted definition has a name, and its
primary key is a conflict target whenever no other is given. So mappings of the right sort are all
that a caller owes, and whatever else is given, an error is about what was given.
-/
import TableModel.Proofs.Model.Requests

namespace TableModel

open TableModel.Action

/-! ## Errors that the caller causes -/

/-- The errors about filters, data and updates, which a model takes from its caller as they are. -/
def StatementError.BlamesCaller : StatementError → Prop
  | .notMapping _ | .insertWithoutData | .updateWithoutData | .upsertIncomplete | .columnNotText => True
  | _ => False

/-- An error of clauses that are given blames the caller, or else a count, the ordering of a selection
or the conflict target of an upsert. -/
theorem Statement.ofClauses_eq_error {kind : StatementKind} {table : Label} {clauses : Clauses}
    {target : Value} {e : StatementError} (h : ofClauses kind table clauses target = .error e) :
    e.BlamesCaller ∨ ¬ clauses.limit.IsOptionalCount ∨ ¬ clauses.offset.IsOptionalCount ∨
      kind = .select ∧ readOrder clauses.orderBy = .error e ∨
      kind = .upsert ∧ readTarget target = .error e := by
  have mapping : ∀ {name : ClauseName} {value : Value}, name.entries value = .error e →
      e.BlamesCaller := by
    intro name value h
    rw [(ClauseName.entries_eq_error.mp h).2]
    trivial
  have inserting : ∀ {entries : List (Value × Value)}, Row.ofTextEntries entries = .error e →
      e.BlamesCaller := by
    intro entries h
    rw [Row.ofTextEntries_eq_error h]
    trivial
  rcases bind_eq_error.mp h with h | ⟨filter, -, h⟩
  · exact .inl (mapping h)
  rcases bind_eq_error.mp h with h | ⟨data, -, h⟩
  · exact .inl (mapping h)
  rcases bind_eq_error.mp h with h | ⟨updates, -, h⟩
  · exact .inl (mapping h)
  rcases bind_eq_error.mp h with h | ⟨limit, -, h⟩
  · exact .inr (.inl (ClauseName.count_eq_error.mp h).1)
  rcases bind_eq_error.mp h with h | ⟨offset, -, h⟩
  · exact .inr (.inr (.inl (ClauseName.count_eq_error.mp h).1))
  cases kind with
  | select =>
    rcases bind_eq_error.mp h with h | ⟨order, -, h⟩
    · exact .inr (.inr (.inr (.inl ⟨rfl, h⟩)))
    · cases h
  | delete => cases h
  | insert | insertOrReplace =>
    left
    rcases refuse_eq_error.mp h with ⟨-, rfl⟩ | ⟨-, h⟩
    · trivial
    · rcases bind_eq_error.mp h with h | ⟨row, -, h⟩
      · exact inserting h
      · cases h
  | update =>
    left
    rcases refuse_eq_error.mp h with ⟨-, rfl⟩ | ⟨-, h⟩
    · trivial
    · cases h
  | upsert =>
    rcases refuse_eq_error.mp h with ⟨-, rfl⟩ | ⟨-, h⟩
    · exact .inl trivial
    · rcases bind_eq_error.mp h with h | ⟨names, -, h⟩
      · exact .inr (.inr (.inr (.inr ⟨rfl, h⟩)))
      · rcases bind_eq_error.mp h with h | ⟨row, -, h⟩
        · exact .inl (inserting h)
        · cases h

namespace Model

variable {model : Model} {engine : Engine}

/-- The requests of a model for single rows and for rows that pass a filter. An upsert is given no
conflict target of its own. -/
inductive Asks (model : Model) : Request → Prop
  | first (filter : Value) : Asks model (model.firstRequest filter)
  | insert (data orReplace : Value) : Asks model (model.insertRequest data orReplace)
  | update (filter data : Value) : Asks model (model.updateRequest filter data)
  | delete (filter : Value) : Asks model (model.deleteRequest filter)
  | upsert (data updates filter : Value) {conflictKeys : Value} (missing : conflictKeys.truth = false) :
      Asks model (model.upsertRequest data updates filter conflictKeys)

/-- Without a conflict target of its own an upsert has the primary key for one. -/
theorem upsertRequest_of_missing (data updates filter : Value) {conflictKeys : Value}
    (missing : conflictKeys.truth = false) :
    model.upsertRequest data updates filter conflictKeys
      = model.request .upsert ({ filter, data, updates } : Clauses).toValue model.primaryKeysValue := by
  rw [upsertRequest, missing]
  rfl

namespace Constructed

/-- The primary key is read as a conflict target. -/
theorem readTarget (constructed : model.Constructed engine) :
    TableModel.readTarget model.primaryKeysValue = .ok model.schema.primaryKeys :=
  readTarget_eq_ok.mpr (Value.names?_eq_some.mpr constructed.listsNames)

/-- Whatever is given, an error is about what was given. -/
theorem blamesCaller (constructed : model.Constructed engine) {request : Request}
    (asked : model.Asks request) {e : StatementError} (refused : request.statement = .error e) :
    e.BlamesCaller := by
  -- counts and orderings are never the caller's here
  have own : ∀ {kind : StatementKind} {clauses : Clauses} {target : Value},
      (model.request kind clauses.toValue target).statement = .error e →
      clauses.limit.IsOptionalCount → clauses.offset = .null → clauses.orderBy = .null →
      (kind = .upsert → target = model.primaryKeysValue) → e.BlamesCaller := by
    intro kind clauses target h limit offset order targeted
    rw [constructed.statement_request] at h
    rcases Statement.ofClauses_eq_error h with blames | h | h | ⟨-, h⟩ | ⟨upserts, h⟩
    · exact blames
    · exact absurd limit h
    · rw [offset] at h
      exact absurd .null h
    · rw [order] at h
      cases h
    · rw [targeted upserts, constructed.readTarget] at h
      cases h
  cases asked with
  | first filter => exact own refused (.count 1) rfl rfl fun h => by cases h
  | insert data orReplace =>
    refine own refused .null rfl rfl fun h => ?_
    unfold insertKind at h
    split at h <;> cases h
  | update filter data => exact own refused .null rfl rfl fun h => by cases h
  | delete filter => exact own refused .null rfl rfl fun h => by cases h
  | upsert data updates filter missing =>
    rw [upsertRequest_of_missing data updates filter missing] at refused
    exact own refused .null rfl rfl fun _ => rfl

end Constructed

/-! ## Calls that reach the engine -/

/-- The upsert of a model whose conflict target is the primary key. -/
def keyedUpsert (model : Model) (row : Row) (updates filter : List (Value × Value)) : Statement :=
  .upsert model.schema.tableName.shown row (model.schema.primaryKeys.map Label.content)
    (Row.ofEntries updates) (Row.ofEntries filter)

/-- What a model does whatever its engine has in store: with mappings of the right sort each call is
one statement, and nothing but the engine makes it fail. -/
structure Serves (model : Model) (engine : Engine) : Prop where
  first : ∀ filter : Value, filter.IsOptionalMap →
    Runs (model.first filter) [⟨engine, [(Statement.select model.schema.tableName.shown
      (Row.ofEntries filter.members) none (some ⟨1, none⟩)).sent]⟩]
  delete : ∀ filter : Value, filter.IsOptionalMap →
    Runs (model.delete filter) [⟨engine, [(Statement.delete model.schema.tableName.shown
      (Row.ofEntries filter.members)).sent]⟩]
  insertOne : ∀ (data : List (Value × Value)) (orReplace : Value), data ≠ [] →
    (Value.map data).HasTextKeys → ∃ row, Row.ofTextEntries data = .ok row ∧
      Runs (model.insertOne (.map data) orReplace) [⟨engine, [(Statement.insert orReplace.truth
        model.schema.tableName.shown row).sent]⟩]
  update : ∀ (filter : Value) (data : List (Value × Value)), filter.IsOptionalMap → data ≠ [] →
    Runs (model.update filter (.map data)) [⟨engine, [(Statement.update model.schema.tableName.shown
      (Row.ofEntries data) (Row.ofEntries filter.members)).sent]⟩]
  upsert : ∀ (data updates filter : List (Value × Value)) (conflictKeys : Value), data ≠ [] →
    (Value.map data).HasTextKeys → updates ≠ [] → filter ≠ [] → conflictKeys.truth = false →
    ∃ row, Row.ofTextEntries data = .ok row ∧
      Runs (model.upsert (.map data) (.map updates) (.map filter) conflictKeys)
        [⟨engine, [(model.keyedUpsert row updates filter).sent]⟩]
  /-- An upsert names the primary key, in its order. -/
  target : ∀ row updates filter, ∃ front back, (model.keyedUpsert row updates filter).text
    = front ++ " ON CONFLICT (" ++ String.intercalate ", " (model.schema.primaryKeys.map Label.content)
      ++ ") DO UPDATE SET " ++ back
  /-- The primary key has the order in which the definition lists it. -/
  listed : ∀ options columns given, Schema.ofDefinition options columns = .ok model.schema →
    options.GivesOptions given → given.primaryKeys.ListsNames model.schema.primaryKeys
  /-- Whatever else is given, an error is about what was given. -/
  blamesCaller : ∀ request, model.Asks request → ∀ e, request.statement = .error e → e.BlamesCaller

/-- A constructed model with a database serves its callers. -/
theorem serves_of_constructed (constructed : model.Constructed engine) : model.Serves engine where
  first := by
    intro filter shape
    have shaped : ({ filter, limit := .int 1 } : Clauses).Shaped :=
      ⟨shape, .null, .null, .count 1, .null⟩
    have made : (model.firstRequest filter).statement = .ok _ :=
      constructed.statement_of_made shaped (.select rfl)
    have carries := model.carries_first filter
    rw [requestPlan_of_statement constructed made] at carries
    exact carries.runs
  delete := by
    intro filter shape
    have shaped : ({ filter } : Clauses).Shaped := ⟨shape, .null, .null, .null, .null⟩
    have made : (model.deleteRequest filter).statement = .ok _ :=
      constructed.statement_of_made shaped .delete
    exact runs_request constructed made
  insertOne := by
    intro data orReplace given textual
    obtain ⟨row, texts⟩ := Row.exists_ofTextEntries_eq_ok textual
    have shaped : ({ data := .map data } : Clauses).Shaped :=
      ⟨.null, .map data, .null, .null, .null⟩
    have made : (model.insertRequest (.map data) orReplace).statement
        = .ok (.insert orReplace.truth model.schema.tableName.shown row) := by
      apply constructed.statement_of_made shaped
      unfold insertKind
      cases orReplace.truth with
      | true => exact .insertOrReplace given texts
      | false => exact .insert given texts
    exact ⟨row, texts, runs_request constructed made⟩
  update := by
    intro filter data shape given
    have shaped : ({ filter, data := .map data } : Clauses).Shaped :=
      ⟨shape, .map data, .null, .null, .null⟩
    have made : (model.updateRequest filter (.map data)).statement = .ok _ :=
      constructed.statement_of_made shaped (.update given)
    exact runs_request constructed made
  upsert := by
    intro data updates filter conflictKeys given textual changes filtered missing
    obtain ⟨row, texts⟩ := Row.exists_ofTextEntries_eq_ok textual
    have shaped : ({ filter := .map filter, data := .map data, updates := .map updates } :
        Clauses).Shaped := ⟨.map filter, .map data, .map updates, .null, .null⟩
    have made : (model.upsertRequest (.map data) (.map updates) (.map filter) conflictKeys).statement
        = .ok (model.keyedUpsert row updates filter) := by
      rw [upsertRequest_of_missing _ _ _ missing]
      exact constructed.statement_of_made shaped
        (.upsert given changes filtered constructed.readTarget texts)
    exact ⟨row, texts, runs_request constructed made⟩
  target := by
    intro row updates filter
    rw [keyedUpsert, Statement.text_upsert]
    refine ⟨"INSERT INTO `" ++ model.schema.tableName.shown ++ "` " ++ Row.insertText row.columns,
      Row.changeText (Row.ofEntries updates).columns
        ++ Row.filterText (Row.ofEntries filter).columns, ?_⟩
    simp only [String.append_assoc]
  listed := by
    intro options columns given accepted gives
    obtain ⟨other, declared, parts, -⟩ := Schema.ofDefinition_eq_ok.mp accepted
    have read := TableOptions.ofValue_eq_ok.mpr gives
    rw [TableOptions.ofValue_eq_ok.mpr parts.options, Except.ok.injEq] at read
    exact read ▸ parts.primaryKeys
  blamesCaller := fun _ asked _ => constructed.blamesCaller asked

/-- Members upsert on both of their keys, also where an empty list is given for a conflict target. -/
theorem serves_members :
    members.Serves ⟨"e", "sqlite", [], 0⟩ ∧
      Runs (members.upsert (.map [(.text "id", .int 7)]) (.map [(.text "team", .text "red")])
          (.map [(.text "id", .int 7)]) (.list []))
        [⟨⟨"e", "sqlite", [], 0⟩, [⟨"INSERT INTO `members` (id) VALUES (?) ON CONFLICT (team, id)"
          ++ " DO UPDATE SET team = ? WHERE id = ?", some [.int 7, .text "red", .int 7]⟩]⟩] := by
  have serves := serves_of_constructed constructed_members
  obtain ⟨row, texts, runs⟩ := serves.upsert [(.text "id", .int 7)] [(.text "team", .text "red")]
    [(.text "id", .int 7)] (.list []) (by simp) (by decide) (by simp) (by simp) rfl
  obtain rfl := Except.ok.inj texts
  exact ⟨serves, runs⟩

end Model

end TableModel
