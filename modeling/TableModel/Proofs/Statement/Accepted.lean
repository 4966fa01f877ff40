/-
# TableModel.Proofs.Statement.Accepted — which requests make which statements

The checks of a request are undone once: `Request.statement` yields a statement exactly when the
table has a name, the kind is spelled, the clauses are read, each clause has the shape that it has
for all kinds, and the statement is the one of its kind. `Made` says what each kind still asks for
and what it makes of its clauses; the clauses that it does not mention are left out.
-/
import TableModel.Proofs.Statement.Shape
import TableModel.Proofs.Value.Names
import TableModel.Statement.Request

namespace TableModel

namespace Value

/-- A mapping or nothing. -/
inductive IsOptionalMap : Value → Prop
  | null : IsOptionalMap .null
  | map (entries : List (Value × Value)) : IsOptionalMap (.map entries)

/-- A count or nothing. -/
inductive IsOptionalCount : Value → Prop
  | null : IsOptionalCount .null
  | count (n : Nat) : IsOptionalCount (.int n)

end Value

/-! ## Single clauses -/

theorem ClauseName.entries_eq_ok {clause : ClauseName} {value : Value}
    {entries : List (Value × Value)} :
    clause.entries value = .ok entries ↔ value.IsOptionalMap ∧ value.members = entries := by
  constructor
  · intro h
    cases value <;> simp only [ClauseName.entries, reduceCtorEq, Except.ok.injEq] at h
    · exact ⟨.null, h⟩
    · exact ⟨.map _, h⟩
  · rintro ⟨h, rfl⟩
    cases h <;> rfl

theorem ClauseName.count_eq_ok {clause : ClauseName} {value : Value} {n : Option Nat} :
    clause.count value = .ok n ↔ value.IsOptionalCount ∧ value.count? = n := by
  constructor
  · intro h
    match value, h with
    | .null, h => exact ⟨.null, by simpa [ClauseName.count, Value.count?] using h⟩
    | .int (.ofNat m), h => exact ⟨.count m, by simpa [ClauseName.count, Value.count?] using h⟩
  · rintro ⟨h, rfl⟩
    cases h <;> rfl

namespace Row

/-- A row is inserted only when all of its columns are labels; they stand in it by their contents. -/
theorem ofTextEntries_eq_ok {entries : List (Value × Value)} {row : Row} :
    ofTextEntries entries = .ok row ↔
      List.Forall₂ (fun entry column => ∃ name : Label, entry.1 = .label name ∧
        (name.content, entry.2) = column) entries row := by
  induction entries generalizing row with
  | nil => simp [ofTextEntries, eq_comm]
  | cons entry entries ih =>
    obtain ⟨key, value⟩ := entry
    rw [List.forall₂_cons_left_iff]
    constructor
    · intro h
      match key, h with
      | .label name, h =>
        obtain ⟨rest, hrest, rfl⟩ := map_eq_ok.mp h
        exact ⟨_, rest, ⟨name, rfl, rfl⟩, ih.mp hrest, rfl⟩
    · rintro ⟨_, rest, ⟨name, rfl, rfl⟩, hrest, rfl⟩
      exact map_eq_ok.mpr ⟨rest, ih.mpr hrest, rfl⟩

theorem columns_ofEntries (entries : List (Value × Value)) :
    (ofEntries entries).columns = (entries.map Prod.fst).map Value.shown := by
  simp [columns, ofEntries]

theorem values_ofEntries (entries : List (Value × Value)) :
    (ofEntries entries).values = entries.map Prod.snd := by
  simp [values, ofEntries]

/-- A row to insert has the entries' values, and its columns are the contents of labels. -/
theorem exists_labels_of_ofTextEntries {entries : List (Value × Value)} {row : Row}
    (h : ofTextEntries entries = .ok row) :
    ∃ names : List Label, entries.map Prod.fst = names.map Value.label ∧
      row.columns = names.map Label.content ∧ row.values = entries.map Prod.snd := by
  have all := ofTextEntries_eq_ok.mp h
  clear h
  induction all with
  | nil => exact ⟨[], rfl, rfl, rfl⟩
  | cons hentry _ ih =>
    obtain ⟨names, hkeys, hcolumns, hvalues⟩ := ih
    obtain ⟨name, hkey, rfl⟩ := hentry
    refine ⟨name :: names, ?_, ?_, ?_⟩
    · rw [List.map_cons, List.map_cons, hkey, hkeys]
    · exact congrArg _ hcolumns
    · exact congrArg _ hvalues

end Row

theorem readTarget_eq_ok {target : Value} {names : List Label} :
    readTarget target = .ok names ↔ target.names? = some names := by
  unfold readTarget
  split
  · rename_i found hfound
    rw [hfound, Except.ok.injEq, Option.some.injEq]
  · rename_i hnone
    rw [hnone]
    split <;> simp

/-! ## Statements -/

namespace Clauses

/-- The shapes that clauses have whatever the kind. -/
structure Shaped (clauses : Clauses) : Prop where
  filter : clauses.filter.IsOptionalMap
  data : clauses.data.IsOptionalMap
  updates : clauses.updates.IsOptionalMap
  limit : clauses.limit.IsOptionalCount
  offset : clauses.offset.IsOptionalCount

/-- The page of a selection: an offset counts only together with a limit. -/
def page (clauses : Clauses) : Option Page :=
  clauses.limit.count?.map fun n => ⟨n, clauses.offset.count?⟩

/-- The entries whose values a kind binds, clause after clause. -/
def bound (clauses : Clauses) : StatementKind → List (Value × Value)
  | .select | .delete => clauses.filter.members
  | .insert | .insertOrReplace => clauses.data.members
  | .update => clauses.data.members ++ clauses.filter.members
  | .upsert => clauses.data.members ++ clauses.updates.members ++ clauses.filter.members

end Clauses

namespace Statement

/-- What a kind needs, and the statement that it makes. -/
inductive Made (table : Label) (clauses : Clauses) (target : Value) :
    StatementKind → Statement → Prop
  | select {order : Option OrderSpec} (ordered : readOrder clauses.orderBy = .ok order) :
      Made table clauses target .select
        (.select table.shown (Row.ofEntries clauses.filter.members) order clauses.page)
  | delete :
      Made table clauses target .delete
        (.delete table.shown (Row.ofEntries clauses.filter.members))
  | insert {row : Row} (given : clauses.data.members ≠ [])
      (texts : Row.ofTextEntries clauses.data.members = .ok row) :
      Made table clauses target .insert (.insert false table.shown row)
  | insertOrReplace {row : Row} (given : clauses.data.members ≠ [])
      (texts : Row.ofTextEntries clauses.data.members = .ok row) :
      Made table clauses target .insertOrReplace (.insert true table.shown row)
  | update (given : clauses.data.members ≠ []) :
      Made table clauses target .update
        (.update table.shown (Row.ofEntries clauses.data.members)
          (Row.ofEntries clauses.filter.members))
  | upsert {row : Row} {names : List Label} (given : clauses.data.members ≠ [])
      (changes : clauses.updates.members ≠ []) (filtered : clauses.filter.members ≠ [])
      (targeted : readTarget target = .ok names)
      (texts : Row.ofTextEntries clauses.data.members = .ok row) :
      Made table clauses target .upsert
        (.upsert table.shown row (names.map Label.content)
          (Row.ofEntries clauses.updates.members) (Row.ofEntries clauses.filter.members))

theorem ofClauses_eq_ok {kind : StatementKind} {table : Label} {clauses : Clauses} {target : Value}
    {statement : Statement} :
    ofClauses kind table clauses target = .ok statement ↔
      clauses.Shaped ∧ Made table clauses target kind statement := by
  constructor
  · intro h
    obtain ⟨filter, hfilter, h⟩ := bind_eq_ok.mp h
    obtain ⟨data, hdata, h⟩ := bind_eq_ok.mp h
    obtain ⟨updates, hupdates, h⟩ := bind_eq_ok.mp h
    obtain ⟨limit, hlimit, h⟩ := bind_eq_ok.mp h
    obtain ⟨offset, hoffset, h⟩ := bind_eq_ok.mp h
    obtain ⟨filterShape, rfl⟩ := ClauseName.entries_eq_ok.mp hfilter
    obtain ⟨dataShape, rfl⟩ := ClauseName.entries_eq_ok.mp hdata
    obtain ⟨updatesShape, rfl⟩ := ClauseName.entries_eq_ok.mp hupdates
    obtain ⟨limitShape, rfl⟩ := ClauseName.count_eq_ok.mp hlimit
    obtain ⟨offsetShape, rfl⟩ := ClauseName.count_eq_ok.mp hoffset
    refine ⟨⟨filterShape, dataShape, updatesShape, limitShape, offsetShape⟩, ?_⟩
    -- the shapes are checked for every kind, what follows is up to the kind
    cases kind with
    | select =>
      obtain ⟨order, horder, h⟩ := bind_eq_ok.mp h
      obtain rfl := pure_eq_ok.mp h
      exact .select horder
    | delete =>
      obtain rfl := pure_eq_ok.mp h
      exact .delete
    | insert =>
      obtain ⟨given, h⟩ := refuse_eq_ok.mp h
      obtain ⟨row, hrow, h⟩ := bind_eq_ok.mp h
      obtain rfl := pure_eq_ok.mp h
      exact .insert (List.isEmpty_eq_false_iff.mp given) hrow
    | insertOrReplace =>
      obtain ⟨given, h⟩ := refuse_eq_ok.mp h
      obtain ⟨row, hrow, h⟩ := bind_eq_ok.mp h
      obtain rfl := pure_eq_ok.mp h
      exact .insertOrReplace (List.isEmpty_eq_false_iff.mp given) hrow
    | update =>
      obtain ⟨given, h⟩ := refuse_eq_ok.mp h
      obtain rfl := pure_eq_ok.mp h
      exact .update (List.isEmpty_eq_false_iff.mp given)
    | upsert =>
      obtain ⟨complete, h⟩ := refuse_eq_ok.mp h
      obtain ⟨names, hnames, h⟩ := bind_eq_ok.mp h
      obtain ⟨row, hrow, h⟩ := bind_eq_ok.mp h
      obtain rfl := pure_eq_ok.mp h
      simp only [Bool.or_eq_false_iff, List.isEmpty_eq_false_iff] at complete
      exact .upsert complete.1.1 complete.1.2 complete.2 hnames hrow
  · rintro ⟨shaped, made⟩
    refine bind_eq_ok.mpr ⟨_, ClauseName.entries_eq_ok.mpr ⟨shaped.filter, rfl⟩, ?_⟩
    refine bind_eq_ok.mpr ⟨_, ClauseName.entries_eq_ok.mpr ⟨shaped.data, rfl⟩, ?_⟩
    refine bind_eq_ok.mpr ⟨_, ClauseName.entries_eq_ok.mpr ⟨shaped.updates, rfl⟩, ?_⟩
    refine bind_eq_ok.mpr ⟨_, ClauseName.count_eq_ok.mpr ⟨shaped.limit, rfl⟩, ?_⟩
    refine bind_eq_ok.mpr ⟨_, ClauseName.count_eq_ok.mpr ⟨shaped.offset, rfl⟩, ?_⟩
    cases made with
    | select ordered => exact bind_eq_ok.mpr ⟨_, ordered, rfl⟩
    | delete => rfl
    | insert given texts | insertOrReplace given texts =>
      refine refuse_eq_ok.mpr ⟨List.isEmpty_eq_false_iff.mpr given, ?_⟩
      exact bind_eq_ok.mpr ⟨_, texts, rfl⟩
    | update given => exact refuse_eq_ok.mpr ⟨List.isEmpty_eq_false_iff.mpr given, rfl⟩
    | upsert given changes filtered targeted texts =>
      refine refuse_eq_ok.mpr ⟨?_, bind_eq_ok.mpr ⟨_, targeted, bind_eq_ok.mpr ⟨_, texts, rfl⟩⟩⟩
      simp only [Bool.or_eq_false_iff, List.isEmpty_eq_false_iff]
      exact ⟨⟨given, changes⟩, filtered⟩

end Statement

/-- The parts of a request that has been accepted. -/
structure Request.Accepted (request : Request) (kind : StatementKind) (table : Label)
    (clauses : Clauses) (statement : Statement) : Prop where
  table_eq : request.table = .label table
  named : table.isEmpty = false
  kind_eq : StatementKind.ofValue request.kind = .ok kind
  clauses_eq : Clauses.ofValue request.clauses = .ok clauses
  shaped : clauses.Shaped
  made : Statement.Made table clauses request.target kind statement

/-- A request yields a statement exactly when its parts are accepted and make that statement. -/
theorem Request.statement_eq_ok {request : Request} {statement : Statement} :
    request.statement = .ok statement ↔
      ∃ kind table clauses, request.Accepted kind table clauses statement := by
  constructor
  · intro h
    unfold Request.statement at h
    split at h
    · rename_i table htable
      obtain ⟨kind, hkind, h⟩ := bind_eq_ok.mp h
      obtain ⟨clauses, hclauses, h⟩ := bind_eq_ok.mp h
      obtain ⟨shaped, made⟩ := Statement.ofClauses_eq_ok.mp h
      obtain ⟨table_eq, named⟩ := Value.name?_eq_some.mp htable
      exact ⟨kind, table, clauses, table_eq, named, hkind, hclauses, shaped, made⟩
    · simp at h
  · rintro ⟨kind, table, clauses, accepted⟩
    unfold Request.statement
    rw [Value.name?_eq_some.mpr ⟨accepted.table_eq, accepted.named⟩, accepted.kind_eq,
      accepted.clauses_eq]
    exact Statement.ofClauses_eq_ok.mpr ⟨accepted.shaped, accepted.made⟩

end TableModel
