/-
# TableModel.Statement.Request — from a request to a statement

A request names a kind, a table, clauses and, for an upsert, the conflict target; each is a dynamic
value. `Request.statement` checks them in a fixed order, and the first check that fails decides the
error: the table, the kind, the shape and the keys of the clauses, then that `where`, `data` and
`upsert_only_update_data` are mappings and `limit` and `offset` counts, and last what the kind
itself needs. Clauses that a kind has no use for are checked all the same and then left out.
-/
import TableModel.Statement.Basic

namespace TableModel

/-! ## Clauses -/

/-- The clauses of a request, as they are given. -/
structure Clauses where
  filter : Value := .null
  data : Value := .null
  updates : Value := .null
  limit : Value := .null
  offset : Value := .null
  orderBy : Value := .null
  deriving Repr, Inhabited

namespace Clauses

/-- The keys of clauses. -/
def keys : List String :=
  [ClauseName.filter.key, ClauseName.data.key, ClauseName.updates.key, ClauseName.limit.key,
   ClauseName.offset.key, ClauseName.orderBy.key]

/-- The clauses as a value. -/
def toValue (clauses : Clauses) : Value :=
  .clauses clauses.filter clauses.data clauses.updates clauses.limit clauses.offset clauses.orderBy

/-- Clauses from nothing, from a record or from a mapping with known keys. -/
def ofValue : Value → Except StatementError Clauses
  | .null => .ok {}
  | .clauses filter data updates limit offset orderBy =>
    .ok { filter, data, updates, limit, offset, orderBy }
  | .map entries =>
    match Value.unknownKeys keys entries with
    | [] => .ok {
        filter := Value.field ClauseName.filter.key entries
        data := Value.field ClauseName.data.key entries
        updates := Value.field ClauseName.updates.key entries
        limit := Value.field ClauseName.limit.key entries
        offset := Value.field ClauseName.offset.key entries
        orderBy := Value.field ClauseName.orderBy.key entries }
    | unknown =>
      match Value.sortedContents? unknown with
      | some names => .error (.unknownClauses names)
      | none => .error .unlistable
  | _ => .error .clausesShape

@[simp] theorem ofValue_toValue (clauses : Clauses) : ofValue clauses.toValue = .ok clauses := rfl

end Clauses

/-! ## Reading clauses -/

/-- The entries of a clause that is a mapping or not given. -/
def ClauseName.entries (clause : ClauseName) (value : Value) :
    Except StatementError (List (Value × Value)) :=
  match value with
  | .null => .ok []
  | .map entries => .ok entries
  | _ => .error (.notMapping clause)

/-- The number of a clause that is a count or not given. -/
def ClauseName.count (clause : ClauseName) (value : Value) :
    Except StatementError (Option Nat) :=
  match value with
  | .null => .ok none
  | other =>
    match other.count? with
    | some n => .ok (some n)
    | none => .error (.notCount clause)

namespace Row

/-- A row whose columns are shown, as in conditions and assignments. -/
def ofEntries (entries : List (Value × Value)) : Row :=
  entries.map fun entry => (entry.1.shown, entry.2)

/-- A row whose columns are joined, as in an insertion: every key has to be text. -/
def ofTextEntries : List (Value × Value) → Except StatementError Row
  | [] => .ok []
  | (key, value) :: rest =>
    match key with
    | .label name => (ofTextEntries rest).map fun row => (name.content, value) :: row
    | _ => .error .columnNotText

/-- A filter by itself: nothing for a value that is false, the equations of a mapping. -/
def ofFilter (value : Value) : Except StatementError Row :=
  if value.truth then
    match value.entries? with
    | some entries => .ok (ofEntries entries)
    | none => .error .filterShape
  else .ok []

end Row

/-! ## Statements -/

/-- The kind that a value names: a kind itself, or a text that spells one. -/
def StatementKind.ofValue (value : Value) : Except StatementError StatementKind :=
  match value with
  | .label (.statementKind kind) => .ok kind
  | .label name =>
    match StatementKind.ofSpelling? name.content with
    | some kind => .ok kind
    | none => .error .kind
  | _ => .error .kind

/-- The conflict target of an upsert: one name or a list of names. -/
def readTarget (value : Value) : Except StatementError (List Label) :=
  match value.names? with
  | some names => .ok names
  | none =>
    if value.label?.isNone && !value.truth then .error .targetMissing else .error .targetShape

/-- The ordering of a selection; a value that is false orders nothing. -/
def readOrder (value : Value) : Except StatementError (Option OrderSpec) :=
  if value.truth then (OrderSpec.ofValue value).map some else .ok none

/-- The statement of a kind on a table with the given clauses and conflict target. -/
def Statement.ofClauses (kind : StatementKind) (table : Label) (clauses : Clauses)
    (target : Value) : Except StatementError Statement := do
  let filter ← ClauseName.filter.entries clauses.filter
  let data ← ClauseName.data.entries clauses.data
  let updates ← ClauseName.updates.entries clauses.updates
  let limit ← ClauseName.limit.count clauses.limit
  let offset ← ClauseName.offset.count clauses.offset
  match kind with
  | .select =>
    let order ← readOrder clauses.orderBy
    return .select table.shown (Row.ofEntries filter) order (limit.map fun n => ⟨n, offset⟩)
  | .delete =>
    return .delete table.shown (Row.ofEntries filter)
  | .insert | .insertOrReplace =>
    if data.isEmpty then throw .insertWithoutData
    let row ← Row.ofTextEntries data
    return .insert (kind == .insertOrReplace) table.shown row
  | .update =>
    if data.isEmpty then throw .updateWithoutData
    return .update table.shown (Row.ofEntries data) (Row.ofEntries filter)
  | .upsert =>
    if data.isEmpty || updates.isEmpty || filter.isEmpty then throw .upsertIncomplete
    let names ← readTarget target
    let row ← Row.ofTextEntries data
    return .upsert table.shown row (names.map Label.content) (Row.ofEntries updates)
      (Row.ofEntries filter)

/-- A request for a statement. -/
structure Request where
  kind : Value
  table : Value
  clauses : Value := .null
  /-- The conflict target of an upsert. -/
  target : Value := .null
  deriving Repr, Inhabited

/-- The statement of a request, or the first check that fails. -/
def Request.statement (request : Request) : Except StatementError Statement := do
  let some table := request.table.name? | throw .tableName
  let kind ← StatementKind.ofValue request.kind
  let clauses ← Clauses.ofValue request.clauses
  Statement.ofClauses kind table clauses request.target

end TableModel
