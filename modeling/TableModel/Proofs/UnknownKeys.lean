/-
# TableModel.Proofs.UnknownKeys — whether misspelled keys are noticed

Four sorts of mappings are read by their keys: the options of a table, the descriptors of its columns,
the clauses of a request and the terms of an ordering. Whoever misspells a key wants to be told. For
the first three that is what happens, as long as the unknown keys can be listed; the terms of an
ordering are the ones whose unknown keys are ignored.
-/
import TableModel.Proofs.Schema.Escapes
import TableModel.Proofs.Statement.UnknownKeys

namespace TableModel

namespace Schema

variable {options columns : Value}

/-- A definition has an unknown option, or a descriptor with an unknown key. -/
def HasUnknownKey (options columns : Value) : Prop :=
  options.HasUnknownKey TableOptions.keys ∨
    ∃ entry ∈ columns.members, entry.2.HasUnknownKey Descriptor.keys

theorem not_hasUnknownKey_of_ofDefinition {schema : Schema}
    (accepted : ofDefinition options columns = .ok schema) : ¬ HasUnknownKey options columns := by
  obtain ⟨given, declared, parts, -⟩ := ofDefinition_eq_ok.mp accepted
  rintro (unknown | ⟨entry, member, unknown⟩)
  · exact unknown parts.options.known
  · exact unknown (parts.declares.known entry member)

/-- Unknown keys that cannot be listed are unknown keys. -/
theorem ColumnsEscape.hasUnknownKey (escape : ColumnsEscape options columns) :
    HasUnknownKey options columns := by
  obtain ⟨_, _, _, -, -, -, -, before, entry, after, rfl, -, _, -, -, untextual⟩ := escape
  exact .inr ⟨entry, by simp, Value.hasUnknownKey_of_not_hasTextKeys untextual⟩

/-- What becomes of the unknown keys of a definition. -/
structure TreatsUnknownKeys (options columns : Value) : Prop where
  /-- They are told, unless the first column that cannot be read has some that cannot be listed. -/
  told_iff : (HasUnknownKey options columns →
      ∃ e, ofDefinition options columns = .error e ∧ e.isFinding = true) ↔
    ¬ ColumnsEscape options columns
  /-- An accepted definition has no unknown keys. -/
  known : ∀ schema, ofDefinition options columns = .ok schema → ¬ HasUnknownKey options columns

theorem treatsUnknownKeys (options columns : Value) : TreatsUnknownKeys options columns where
  told_iff := by
    rw [exists_finding_iff, escapes_ofDefinition]
    constructor
    · intro told escape
      exact (told escape.hasUnknownKey).2 escape
    · intro listed unknown
      refine ⟨?_, listed⟩
      rintro ⟨schema, accepted⟩
      exact not_hasUnknownKey_of_ofDefinition accepted unknown
  known := fun _ accepted => not_hasUnknownKey_of_ofDefinition accepted

end Schema

/-- Unknown keys of requests and of definitions are told, but for those of orderings, which are ignored,
and for those that cannot be listed. -/
theorem unknown_keys_are_told_or_ignored (request : Request) (options columns : Value) :
    request.TreatsUnknownKeys ∧ Schema.TreatsUnknownKeys options columns :=
  ⟨request.treatsUnknownKeys, Schema.treatsUnknownKeys options columns⟩

/-- A selection in descending order, but for a misspelled direction. -/
def misspelledDirection : Request where
  kind := .text "SELECT"
  table := .text "t"
  clauses := .map [(.text "order_by", .map [(.text "column", .text "a"), (.text "desc", .bool true)])]

/-- The misspelled direction is an unknown key, and the rows come in ascending order. -/
theorem misspelled_direction_is_ignored :
    misspelledDirection.HasUnknownKey ∧
      (∃ statement, misspelledDirection.statement = .ok statement ∧
        statement.text = "SELECT * FROM `t` ORDER BY \"a\"") ∧
      ¬ ∃ e, misspelledDirection.statement = .error e ∧ e.isFinding = true := by
  have accepted : ∃ statement, misspelledDirection.statement = .ok statement ∧
      statement.text = "SELECT * FROM `t` ORDER BY \"a\"" := ⟨_, rfl, by decide⟩
  have gives : misspelledDirection.clauses.GivesClauses
      { orderBy := .map [(.text "column", .text "a"), (.text "desc", .bool true)] } :=
    Clauses.ofValue_eq_ok.mp rfl
  refine ⟨.inr ⟨_, gives, _, List.mem_singleton_self _, by decide⟩, accepted, ?_⟩
  rintro ⟨e, refused, -⟩
  obtain ⟨statement, h, -⟩ := accepted
  rw [h] at refused
  cases refused

end TableModel
