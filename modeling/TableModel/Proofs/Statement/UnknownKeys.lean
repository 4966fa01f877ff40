/-
# TableModel.Proofs.Statement.UnknownKeys — what becomes of a misspelled key of a request

A misspelled clause is an unknown one, and an unknown clause is reported. A misspelled key of an
ordering is not: a mapping that is a term of an ordering is asked for its column, its direction and
its nulls, and for nothing else. So an ordering says the same with its unknown keys as without them,
and a request that has some is accepted as if they were not there.
-/
import TableModel.Proofs.Statement.Escapes

namespace TableModel

/-! ## Orderings without unknown keys -/

/-- The keys of a mapping that is a term of an ordering. -/
def OrderSpec.keys : List String :=
  ["column", "descending", "null_last"]

namespace Value

/-- The entries of a mapping that have known keys. -/
def knownEntries (known : List String) (entries : List (Value × Value)) : List (Value × Value) :=
  entries.filter fun entry => known.any fun name => entry.1.isText name

theorem hasKeysOf_knownEntries (known : List String) (entries : List (Value × Value)) :
    HasKeysOf known (knownEntries known entries) := by
  intro entry member
  simpa using (List.mem_filter.mp member).2

/-- What is under a known key does not depend on the unknown ones. -/
theorem field?_knownEntries {known : List String} {name : String} (documented : name ∈ known)
    (entries : List (Value × Value)) : field? name (knownEntries known entries) = field? name entries := by
  rw [field?, field?, knownEntries, List.find?_filter]
  congr 2
  funext entry
  cases h : entry.1.isText name with
  | false => simp
  | true =>
    have known : (known.any fun other => entry.1.isText other) = true :=
      List.any_eq_true.mpr ⟨name, documented, h⟩
    simp [known]

/-- A mapping in an ordering, however deep, has a key that is none of the documented ones. -/
def HasStrayOrderKey (order : Value) : Prop :=
  ∃ leaf ∈ order.orderLeaves, leaf.HasUnknownKey OrderSpec.keys

mutual

/-- An ordering without the unknown keys of its mappings. -/
def tidied : Value → Value
  | .list items => .list (allTidied items)
  | .tuple items => .tuple (allTidied items)
  | .map entries => .map (knownEntries OrderSpec.keys entries)
  | value => value

/-- Orderings without the unknown keys of their mappings. -/
def allTidied : List Value → List Value
  | [] => []
  | item :: rest => item.tidied :: allTidied rest

end

theorem isEmpty_allTidied (items : List Value) : (allTidied items).isEmpty = items.isEmpty := by
  cases items <;> rfl

mutual

/-- No unknown keys are left in a tidied ordering. -/
theorem known_of_mem_tidied : ∀ value : Value, ∀ leaf ∈ value.tidied.orderLeaves,
    HasKeysOf OrderSpec.keys leaf.members
  | .list items => known_of_mem_allTidied items
  | .tuple items => known_of_mem_allTidied items
  | .map entries => by
    simp only [tidied, orderLeaves, List.mem_singleton, forall_eq]
    exact hasKeysOf_knownEntries _ entries
  | .null | .bool _ | .int _ | .float _ | .label _ | .bytes _ | .buffer _ | .ordering .. | .descriptor ..
  | .tableOptions .. | .clauses .. => by
    simp only [tidied, orderLeaves, List.mem_singleton, forall_eq]
    exact List.forall_mem_nil _

theorem known_of_mem_allTidied : ∀ items : List Value, ∀ leaf ∈ itemLeaves (allTidied items),
    HasKeysOf OrderSpec.keys leaf.members
  | [] => List.forall_mem_nil _
  | item :: rest => by
    rw [allTidied, itemLeaves, List.forall_mem_append]
    exact ⟨known_of_mem_tidied item, known_of_mem_allTidied rest⟩

end

theorem not_hasStrayOrderKey_tidied (value : Value) : ¬ value.tidied.HasStrayOrderKey := by
  rintro ⟨leaf, member, unknown⟩
  exact unknown (known_of_mem_tidied value leaf member)

/-- A column cannot be lost with the unknown keys, so an ordering stays true. -/
theorem truth_tidied {value : Value} (order : value.IsOrder) : value.tidied.truth = value.truth := by
  cases order with
  | list | tuple => simp only [tidied, truth, isEmpty_allTidied]
  | @mapping entries named =>
    obtain ⟨entry, member, isColumn⟩ := named
    have kept : entry ∈ knownEntries OrderSpec.keys entries :=
      List.mem_filter.mpr ⟨member, List.any_eq_true.mpr ⟨"column", by decide, isColumn⟩⟩
    rw [tidied, truth, truth, List.isEmpty_eq_false_iff.mpr (List.ne_nil_of_mem kept),
      List.isEmpty_eq_false_iff.mpr (List.ne_nil_of_mem member)]
  | name | record => rfl

theorem truth_tidied_of_not_truth {value : Value} (none : value.truth = false) :
    value.tidied.truth = false := by
  cases value with
  | list | tuple => simpa only [tidied, truth, isEmpty_allTidied] using none
  | map entries =>
    obtain rfl : entries = [] := by simpa [truth] using none
    rfl
  | _ => exact none

end Value

namespace OrderSpec

mutual

/-- Unknown keys of an ordering are not looked at. -/
theorem ofValue_tidied : ∀ value : Value, ofValue value.tidied = ofValue value
  | .list items => by rw [Value.tidied, ofValue, ofValue, ofValues_allTidied items]
  | .tuple items => by rw [Value.tidied, ofValue, ofValue, ofValues_allTidied items]
  | .map entries => by
    have same : ∀ name ∈ keys, Value.field? name (Value.knownEntries keys entries) =
        Value.field? name entries := fun name documented => Value.field?_knownEntries documented entries
    simp only [Value.tidied, ofValue, Value.field, same "column" (by decide),
      same "descending" (by decide), same "null_last" (by decide)]
  | .null | .bool _ | .int _ | .float _ | .label _ | .bytes _ | .buffer _ | .ordering .. | .descriptor ..
  | .tableOptions .. | .clauses .. => rfl

theorem ofValues_allTidied : ∀ items : List Value, ofValues (Value.allTidied items) = ofValues items
  | [] => rfl
  | item :: rest => by
    rw [Value.allTidied, ofValues, ofValues, ofValue_tidied item, ofValues_allTidied rest]

end

end OrderSpec

theorem readOrder_tidied {value : Value} {order : Option OrderSpec}
    (read : readOrder value = .ok order) : readOrder value.tidied = .ok order := by
  rw [← read]
  cases given : value.truth with
  | false =>
    rw [readOrder_of_not_truth given, readOrder_of_not_truth (Value.truth_tidied_of_not_truth given)]
  | true =>
    have order : value.IsOrder :=
      (exists_readOrder_eq_ok.mp ⟨order, read⟩).resolve_left (by simp [given])
    rw [readOrder, readOrder, Value.truth_tidied order, OrderSpec.ofValue_tidied]

/-! ## Requests -/

/-- Clauses whose ordering has no unknown keys. -/
def Clauses.tidied (clauses : Clauses) : Clauses :=
  { clauses with orderBy := clauses.orderBy.tidied }

/-- A statement is made alike of clauses with a tidied ordering. -/
theorem Statement.Made.tidied {kind : StatementKind} {table : Label} {clauses : Clauses} {target : Value}
    {statement : Statement} (made : Made table clauses target kind statement) :
    Made table clauses.tidied target kind statement := by
  cases made with
  | select ordered => exact .select (readOrder_tidied ordered)
  | delete => exact .delete
  | insert given texts => exact .insert given texts
  | insertOrReplace given texts => exact .insertOrReplace given texts
  | update given => exact .update given
  | upsert given changes filtered targeted texts =>
    exact .upsert given changes filtered targeted texts

namespace Request

variable {request : Request}

/-- A request has an unknown clause. -/
def HasUnknownClause (request : Request) : Prop :=
  request.clauses.HasUnknownKey Clauses.keys

/-- A request has an ordering with an unknown key. -/
def HasStrayOrderKey (request : Request) : Prop :=
  ∃ clauses, request.clauses.GivesClauses clauses ∧ clauses.orderBy.HasStrayOrderKey

/-- A request has an unknown key in one of its mappings that are read by their keys. -/
def HasUnknownKey (request : Request) : Prop :=
  request.HasUnknownClause ∨ request.HasStrayOrderKey

theorem Documented.not_hasUnknownClause (documented : request.Documented) :
    ¬ request.HasUnknownClause := by
  obtain ⟨table, kind, clauses, meets⟩ := documented
  exact not_not_intro meets.gives.known

/-- The request with other clauses. -/
def withClauses (request : Request) (clauses : Clauses) : Request :=
  { request with clauses := clauses.toValue }

theorem not_hasUnknownKey_tidied {clauses : Clauses} :
    ¬ (request.withClauses clauses.tidied).HasUnknownKey := by
  have gives : (request.withClauses clauses.tidied).clauses.GivesClauses clauses.tidied :=
    .record clauses.tidied
  rintro (unknown | ⟨others, otherwise, stray⟩)
  · exact unknown gives.known
  · rw [otherwise.unique gives] at stray
    exact Value.not_hasStrayOrderKey_tidied _ stray

/-- What becomes of the unknown keys of a request. -/
structure TreatsUnknownKeys (request : Request) : Prop where
  /-- They are told, unless they cannot be listed, or the ordering alone has them and nothing else is
  wrong. -/
  told_iff : (request.HasUnknownKey → ∃ e, request.statement = .error e ∧ e.isFinding = true) ↔
    ¬ (request.ClausesEscape ∨ request.HasStrayOrderKey ∧ request.Documented)
  /-- An accepted request has no unknown clause. -/
  known : ∀ statement, request.statement = .ok statement → ¬ request.HasUnknownClause
  /-- An accepted request makes the same statement without the unknown keys of its ordering. -/
  ignored : ∀ statement clauses, request.statement = .ok statement →
    request.clauses.GivesClauses clauses →
    ¬ (request.withClauses clauses.tidied).HasUnknownKey ∧
      (request.withClauses clauses.tidied).statement = .ok statement

theorem treatsUnknownKeys (request : Request) : request.TreatsUnknownKeys where
  told_iff := by
    rw [exists_finding_iff_not_documented]
    constructor
    · rintro told (escape | ⟨stray, documented⟩)
      · have unknown : request.HasUnknownClause := by
          obtain ⟨_, _, -, -, -, untextual⟩ := escape
          exact Value.hasUnknownKey_of_not_hasTextKeys untextual
        exact (told (.inl unknown)).2 escape
      · exact (told (.inr stray)).1 documented
    · intro exceptions unknown
      rw [not_or] at exceptions
      refine ⟨fun documented => ?_, exceptions.1⟩
      rcases unknown with unknown | stray
      · exact documented.not_hasUnknownClause unknown
      · exact exceptions.2 ⟨stray, documented⟩
  known := by
    intro statement accepted
    exact (exists_statement_eq_ok_iff.mp ⟨statement, accepted⟩).1.not_hasUnknownClause
  ignored := by
    intro statement clauses h gives
    obtain ⟨kind, table, others, accepted⟩ := statement_eq_ok.mp h
    obtain rfl := (Clauses.ofValue_eq_ok.mp accepted.clauses_eq).unique gives
    obtain ⟨filter, data, updates, limit, offset⟩ := accepted.shaped
    refine ⟨not_hasUnknownKey_tidied, statement_eq_ok.mpr ⟨kind, table, others.tidied, ?_⟩⟩
    exact ⟨accepted.table_eq, accepted.named, accepted.kind_eq, Clauses.ofValue_toValue _,
      ⟨filter, data, updates, limit, offset⟩, accepted.made.tidied⟩

end Request

end TableModel
