/-
# TableModel.Proofs.Statement.Escapes — which failures of requests are no findings

A request is either made into a statement or told what is wrong with it, with two exceptions. Unknown
clauses are listed in the error about them, and when one of them is no text, they cannot be listed.
The columns of a row to insert are joined in the text of the statement, and when one of them is no
text, they cannot be joined. Both depend on keys of mappings alone, and the first shows up early, as
soon as the clauses are read, the second only after everything else has passed.
-/
import TableModel.Proofs.Escapes
import TableModel.Proofs.Statement.Documented

namespace TableModel

open StatementError (isFinding)

variable {kind : StatementKind} {table : Label} {clauses : Clauses} {target : Value}

/-! ## Single checks -/

theorem StatementKind.not_escapes_ofValue {value : Value} : ¬ Escapes isFinding (ofValue value) := by
  rintro ⟨e, h, hidden⟩
  rw [eq_kind_of_ofValue_eq_error h] at hidden
  cases hidden

theorem ClauseName.not_escapes_entries {clause : ClauseName} {value : Value} :
    ¬ Escapes isFinding (clause.entries value) := by
  rintro ⟨e, h, hidden⟩
  rw [(entries_eq_error.mp h).2] at hidden
  cases hidden

theorem ClauseName.not_escapes_count {clause : ClauseName} {value : Value} :
    ¬ Escapes isFinding (clause.count value) := by
  rintro ⟨e, h, hidden⟩
  rw [(count_eq_error.mp h).2] at hidden
  cases hidden

theorem not_escapes_readOrder {value : Value} : ¬ Escapes isFinding (readOrder value) := by
  rintro ⟨e, h, hidden⟩
  obtain ⟨leaf, -, fault⟩ := (readOrder_eq_error.mp h).2.exists_fault
  rw [fault.isFinding] at hidden
  cases hidden

theorem not_escapes_readTarget {value : Value} : ¬ Escapes isFinding (readTarget value) := by
  rintro ⟨e, h, hidden⟩
  rw [(readTarget_eq_error.mp h).2] at hidden
  split at hidden <;> cases hidden

/-! ## Keys that are no text -/

namespace Clauses

/-- Unknown clauses cannot be listed exactly when a key of the mapping is no text. -/
theorem ofValue_eq_unlistable {value : Value} :
    ofValue value = .error .unlistable ↔ ¬ value.HasTextKeys := by
  constructor
  · intro h textual
    have fault := (ofValue_eq_error textual).mp h
    cases fault
  · intro untextual
    cases value with
    | map entries =>
      simp only [ofValue]
      split
      · rename_i known
        exact absurd (Value.unknownKeys_eq_nil.mp known).hasTextKeys untextual
      · rw [Value.sortedContents?_unknownKeys_eq_none.mpr untextual]
    | _ => exact absurd (by rintro key ⟨⟩) untextual

theorem escapes_ofValue {value : Value} : Escapes isFinding (ofValue value) ↔ ¬ value.HasTextKeys := by
  constructor
  · rintro ⟨e, h, hidden⟩ textual
    rw [((ofValue_eq_error textual).mp h).isFinding] at hidden
    cases hidden
  · exact fun untextual => ⟨_, ofValue_eq_unlistable.mpr untextual, rfl⟩

end Clauses

namespace Row

theorem hasTextKeys_of_ofTextEntries {value : Value} {row : Row}
    (texts : ofTextEntries value.members = .ok row) : value.HasTextKeys := by
  obtain ⟨names, hkeys, -⟩ := exists_labels_of_ofTextEntries texts
  intro key hkey
  rw [Value.keys, hkeys] at hkey
  obtain ⟨name, -, rfl⟩ := List.mem_map.mp hkey
  exact ⟨name, rfl⟩

/-- The columns of a row cannot be joined exactly when one of them is no text. -/
theorem ofTextEntries_eq_columnNotText {value : Value} :
    ofTextEntries value.members = .error .columnNotText ↔ ¬ value.HasTextKeys := by
  constructor
  · intro h textual
    obtain ⟨row, texts⟩ := exists_ofTextEntries_eq_ok textual
    rw [texts] at h
    cases h
  · intro untextual
    cases h : ofTextEntries value.members with
    | ok row => exact absurd (hasTextKeys_of_ofTextEntries h) untextual
    | error e => rw [ofTextEntries_eq_error h]

theorem escapes_ofTextEntries {value : Value} :
    Escapes isFinding (ofTextEntries value.members) ↔ ¬ value.HasTextKeys := by
  rw [← ofTextEntries_eq_columnNotText]
  constructor
  · rintro ⟨e, h, -⟩
    rw [h, ofTextEntries_eq_error h]
  · exact fun h => ⟨_, h, rfl⟩

end Row

/-! ## Clauses of a kind -/

/-- The kinds whose statements join the columns of a row. -/
def StatementKind.JoinsColumns : StatementKind → Prop
  | .insert | .insertOrReplace | .upsert => True
  | .select | .update | .delete => False

namespace Statement

/-- A kind makes a statement when it has what it needs and can join the columns that it joins. -/
theorem exists_made_iff : (∃ statement, Made table clauses target kind statement) ↔
    kind.Needs clauses target ∧ (kind.JoinsColumns → clauses.data.HasTextKeys) := by
  constructor
  · rintro ⟨statement, made⟩
    refine ⟨made.needs, fun joins => ?_⟩
    cases made with
    | select | delete | update => exact joins.elim
    | insert given texts | insertOrReplace given texts | upsert given changes filtered targeted texts =>
      exact Row.hasTextKeys_of_ofTextEntries texts
  · rintro ⟨needs, textual⟩
    cases kind with
    | select =>
      obtain ⟨order, ordered⟩ := exists_readOrder_eq_ok.mpr needs
      exact ⟨_, .select ordered⟩
    | delete => exact ⟨_, .delete⟩
    | update => exact ⟨_, .update needs⟩
    | insert | insertOrReplace | upsert => exact (exists_made (textual trivial)).mpr needs

/-- The last thing that can go wrong: everything is as it is needed, but columns cannot be joined. -/
theorem ofClauses_eq_columnNotText (shaped : clauses.Shaped) (needs : kind.Needs clauses target)
    (joins : kind.JoinsColumns) (untextual : ¬ clauses.data.HasTextKeys) :
    ofClauses kind table clauses target = .error .columnNotText := by
  have unjoined := Row.ofTextEntries_eq_columnNotText.mpr untextual
  refine bind_eq_error.mpr (.inr ⟨_, ClauseName.entries_eq_ok.mpr ⟨shaped.filter, rfl⟩, ?_⟩)
  refine bind_eq_error.mpr (.inr ⟨_, ClauseName.entries_eq_ok.mpr ⟨shaped.data, rfl⟩, ?_⟩)
  refine bind_eq_error.mpr (.inr ⟨_, ClauseName.entries_eq_ok.mpr ⟨shaped.updates, rfl⟩, ?_⟩)
  refine bind_eq_error.mpr (.inr ⟨_, ClauseName.count_eq_ok.mpr ⟨shaped.limit, rfl⟩, ?_⟩)
  refine bind_eq_error.mpr (.inr ⟨_, ClauseName.count_eq_ok.mpr ⟨shaped.offset, rfl⟩, ?_⟩)
  cases kind with
  | select | delete | update => exact joins.elim
  | insert | insertOrReplace =>
    refine refuse_eq_error.mpr (.inr ⟨List.isEmpty_eq_false_iff.mpr needs, ?_⟩)
    exact bind_eq_error.mpr (.inl unjoined)
  | upsert =>
    obtain ⟨given, changes, filtered, names, listed⟩ := needs
    have targeted := readTarget_eq_ok.mpr (Value.names?_eq_some.mpr listed)
    refine refuse_eq_error.mpr (.inr ⟨?_, bind_eq_error.mpr (.inr ⟨_, targeted, ?_⟩)⟩)
    · simp only [Bool.or_eq_false_iff, List.isEmpty_eq_false_iff]
      exact ⟨⟨given, changes⟩, filtered⟩
    · exact bind_eq_error.mpr (.inl unjoined)

theorem escapes_ofClauses : Escapes isFinding (ofClauses kind table clauses target) ↔
    clauses.Shaped ∧ kind.Needs clauses target ∧ kind.JoinsColumns ∧ ¬ clauses.data.HasTextKeys := by
  constructor
  · intro escapes
    unfold ofClauses at escapes
    obtain ⟨filter, hfilter, escapes⟩ := (Escapes.bind_of_answers ClauseName.not_escapes_entries).mp escapes
    obtain ⟨data, hdata, escapes⟩ := (Escapes.bind_of_answers ClauseName.not_escapes_entries).mp escapes
    obtain ⟨updates, hupdates, escapes⟩ := (Escapes.bind_of_answers ClauseName.not_escapes_entries).mp escapes
    obtain ⟨limit, hlimit, escapes⟩ := (Escapes.bind_of_answers ClauseName.not_escapes_count).mp escapes
    obtain ⟨offset, hoffset, escapes⟩ := (Escapes.bind_of_answers ClauseName.not_escapes_count).mp escapes
    obtain ⟨filterShape, rfl⟩ := ClauseName.entries_eq_ok.mp hfilter
    obtain ⟨dataShape, rfl⟩ := ClauseName.entries_eq_ok.mp hdata
    obtain ⟨updatesShape, rfl⟩ := ClauseName.entries_eq_ok.mp hupdates
    refine ⟨⟨filterShape, dataShape, updatesShape, (ClauseName.count_eq_ok.mp hlimit).1,
      (ClauseName.count_eq_ok.mp hoffset).1⟩, ?_⟩
    -- what is left is up to the kind
    cases kind with
    | select =>
      obtain ⟨order, -, escapes⟩ := (Escapes.bind_of_answers not_escapes_readOrder).mp escapes
      exact absurd escapes (Escapes.not_ok _)
    | delete => exact absurd escapes (Escapes.not_ok _)
    | insert | insertOrReplace =>
      obtain ⟨given, escapes⟩ := (Escapes.refuse_iff rfl).mp escapes
      have given := List.isEmpty_eq_false_iff.mp given
      rcases Escapes.bind_iff.mp escapes with escapes | ⟨row, -, escapes⟩
      · exact ⟨given, trivial, Row.escapes_ofTextEntries.mp escapes⟩
      · exact absurd escapes (Escapes.not_ok _)
    | update =>
      obtain ⟨-, escapes⟩ := (Escapes.refuse_iff rfl).mp escapes
      exact absurd escapes (Escapes.not_ok _)
    | upsert =>
      obtain ⟨complete, escapes⟩ := (Escapes.refuse_iff rfl).mp escapes
      simp only [Bool.or_eq_false_iff, List.isEmpty_eq_false_iff] at complete
      obtain ⟨names, targeted, escapes⟩ := (Escapes.bind_of_answers not_escapes_readTarget).mp escapes
      have listed := Value.names?_eq_some.mp (readTarget_eq_ok.mp targeted)
      rcases Escapes.bind_iff.mp escapes with escapes | ⟨row, -, escapes⟩
      · exact ⟨⟨complete.1.1, complete.1.2, complete.2, names, listed⟩, trivial,
          Row.escapes_ofTextEntries.mp escapes⟩
      · exact absurd escapes (Escapes.not_ok _)
  · rintro ⟨shaped, needs, joins, untextual⟩
    exact ⟨_, ofClauses_eq_columnNotText shaped needs joins untextual, rfl⟩

end Statement

/-! ## Requests -/

namespace Request

variable {request : Request}

/-- A request with a table and a kind whose clauses have a key that is no text. -/
def ClausesEscape (request : Request) : Prop :=
  ∃ (table : Label) (kind : StatementKind), request.table = .label table ∧ table.isEmpty = false ∧
    request.kind.GivesKind kind ∧ ¬ request.clauses.HasTextKeys

/-- A documented request to insert a row that has a column which is no text. -/
def ColumnsEscape (request : Request) : Prop :=
  ∃ table kind clauses, request.Meets table kind clauses ∧ kind.JoinsColumns ∧
    ¬ clauses.data.HasTextKeys

/-- Unknown clauses that cannot be listed are met before anything else about the clauses. -/
theorem ClausesEscape.statement_eq (escape : request.ClausesEscape) :
    request.statement = .error .unlistable := by
  obtain ⟨table, kind, table_eq, named, spelled, untextual⟩ := escape
  unfold statement
  rw [Value.name?_eq_some.mpr ⟨table_eq, named⟩, StatementKind.ofValue_eq_ok.mpr spelled,
    Clauses.ofValue_eq_unlistable.mpr untextual]
  rfl

/-- Columns that cannot be joined are met after everything else. -/
theorem ColumnsEscape.statement_eq (escape : request.ColumnsEscape) :
    request.statement = .error .columnNotText := by
  obtain ⟨table, kind, clauses, meets, joins, untextual⟩ := escape
  unfold statement
  rw [Value.name?_eq_some.mpr ⟨meets.table_eq, meets.named⟩, StatementKind.ofValue_eq_ok.mpr meets.spelled,
    Clauses.ofValue_eq_ok.mpr meets.gives]
  exact Statement.ofClauses_eq_columnNotText meets.shaped meets.needs joins untextual

theorem ColumnsEscape.documented (escape : request.ColumnsEscape) : request.Documented := by
  obtain ⟨table, kind, clauses, meets, -⟩ := escape
  exact ⟨table, kind, clauses, meets⟩

/-- A failure of a request is no finding exactly when keys that are no text stand in its way. -/
theorem escapes_statement :
    Escapes isFinding request.statement ↔ request.ClausesEscape ∨ request.ColumnsEscape := by
  constructor
  · intro escapes
    unfold statement at escapes
    split at escapes
    · rename_i table htable
      obtain ⟨table_eq, named⟩ := Value.name?_eq_some.mp htable
      obtain ⟨kind, hkind, escapes⟩ :=
        (Escapes.bind_of_answers StatementKind.not_escapes_ofValue).mp escapes
      have spelled := StatementKind.ofValue_eq_ok.mp hkind
      rcases Escapes.bind_iff.mp escapes with escapes | ⟨clauses, hclauses, escapes⟩
      · exact .inl ⟨table, kind, table_eq, named, spelled, Clauses.escapes_ofValue.mp escapes⟩
      · obtain ⟨shaped, needs, joins, untextual⟩ := Statement.escapes_ofClauses.mp escapes
        exact .inr ⟨table, kind, clauses, ⟨table_eq, named, spelled, Clauses.ofValue_eq_ok.mp hclauses,
          shaped, needs⟩, joins, untextual⟩
    · exact absurd (Escapes.error_iff.mp escapes) (by decide)
  · rintro (escape | escape)
    · exact ⟨_, escape.statement_eq, rfl⟩
    · exact ⟨_, escape.statement_eq, rfl⟩

/-- A request is accepted exactly when it is documented and has no columns that cannot be joined. -/
theorem exists_statement_eq_ok_iff :
    (∃ statement, request.statement = .ok statement) ↔ request.Documented ∧ ¬ request.ColumnsEscape := by
  constructor
  · rintro ⟨statement, h⟩
    obtain ⟨kind, table, clauses, accepted⟩ := statement_eq_ok.mp h
    refine ⟨⟨table, kind, clauses, accepted.table_eq, accepted.named,
      StatementKind.ofValue_eq_ok.mp accepted.kind_eq, Clauses.ofValue_eq_ok.mp accepted.clauses_eq,
      accepted.shaped, accepted.made.needs⟩, fun escape => ?_⟩
    rw [escape.statement_eq] at h
    cases h
  · rintro ⟨⟨table, kind, clauses, meets⟩, joined⟩
    obtain ⟨statement, made⟩ : ∃ statement, Statement.Made table clauses request.target kind statement := by
      refine Statement.exists_made_iff.mpr ⟨meets.needs, fun joins => ?_⟩
      by_contra untextual
      exact joined ⟨table, kind, clauses, meets, joins, untextual⟩
    exact ⟨statement, statement_eq_ok.mpr ⟨kind, table, clauses, meets.table_eq, meets.named,
      StatementKind.ofValue_eq_ok.mpr meets.spelled, Clauses.ofValue_eq_ok.mpr meets.gives, meets.shaped,
      made⟩⟩

/-- A request is told what is wrong with it exactly when it is not documented, unless its clauses have a
key that is no text. -/
theorem exists_finding_iff_not_documented :
    (∃ e, request.statement = .error e ∧ e.isFinding = true) ↔
      ¬ request.Documented ∧ ¬ request.ClausesEscape := by
  rw [exists_finding_iff, exists_statement_eq_ok_iff, escapes_statement]
  constructor
  · rintro ⟨refused, answers⟩
    rw [not_or] at answers
    exact ⟨fun documented => refused ⟨documented, answers.2⟩, answers.1⟩
  · rintro ⟨undocumented, listed⟩
    refine ⟨fun accepted => undocumented accepted.1, ?_⟩
    rintro (escape | escape)
    · exact listed escape
    · exact undocumented escape.documented

/-- A request yields a statement or a finding about it, whatever it is made of, unless its clauses
have a key that is no text or it inserts into a column that is no text. -/
theorem answers_unless_keys_escape (request : Request) :
    (Answers isFinding request.statement ↔ ¬ request.ClausesEscape ∧ ¬ request.ColumnsEscape) ∧
      (request.ClausesEscape → request.statement = .error .unlistable) ∧
      (request.ColumnsEscape → request.statement = .error .columnNotText) := by
  refine ⟨?_, ClausesEscape.statement_eq, ColumnsEscape.statement_eq⟩
  rw [answers_iff, escapes_statement, not_or]

/-- A clause whose key is a number, and a column whose key is one. -/
theorem numbers_as_keys_escape :
    ¬ Answers isFinding (Request.mk (.text "SELECT") (.text "t") (.map [(.int 1, .int 2)]) .null).statement ∧
      ¬ Answers isFinding (Request.mk (.text "INSERT") (.text "t")
        (.map [(.text "data", .map [(.int 1, .int 2)])]) .null).statement := by
  have unlisted : (Request.mk (.text "SELECT") (.text "t") (.map [(.int 1, .int 2)]) .null).statement
      = .error .unlistable := by rfl
  have unjoined : (Request.mk (.text "INSERT") (.text "t")
      (.map [(.text "data", .map [(.int 1, .int 2)])]) .null).statement = .error .columnNotText := by rfl
  rw [answers_iff, answers_iff, not_not, not_not]
  exact ⟨⟨_, unlisted, rfl⟩, _, unjoined, rfl⟩

end Request

end TableModel
