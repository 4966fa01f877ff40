/-
# TableModel.Proofs.Schema.Escapes — which failures of definitions are no findings

A definition is either made into a schema or told what is wrong with it, with one exception. Unknown
keys of a column's descriptor are listed in the error about them, and when one of them is no text,
they cannot be listed. Unknown options of a table are listed as well, but each of them is shown first,
and everything can be shown. So it depends on the first column that cannot be read whether a failure
is a finding, and on nothing that is checked after the columns.
-/
import TableModel.Proofs.Escapes
import TableModel.Proofs.Schema.WellFormed

namespace TableModel

open SchemaError (isFinding)

variable {α : Type} {name : Label} {value : Value}

theorem Schema.Finds.not_escapes {result : Except SchemaError α} (finds : Finds result) :
    ¬ Escapes isFinding result := by
  rintro ⟨e, h, hidden⟩
  rw [finds e h] at hidden
  cases hidden

/-- One error of definitions is no finding. -/
theorem SchemaError.escapes_iff {result : Except SchemaError α} :
    Escapes isFinding result ↔ result = .error .unlistable := by
  constructor
  · rintro ⟨e, rfl, hidden⟩
    cases e with
    | unlistable => rfl
    | _ => cases hidden
  · exact fun h => ⟨_, h, rfl⟩

/-! ## Single columns -/

/-- Unknown keys of a descriptor cannot be listed exactly when a key of it is no text. -/
theorem Descriptor.escapes_ofValue :
    Escapes isFinding (ofValue name value) ↔ ¬ value.HasTextKeys := by
  constructor
  · intro escapes textual
    exact (Schema.finds_descriptorOfValue name textual).not_escapes escapes
  · intro untextual
    rw [SchemaError.escapes_iff]
    cases value with
    | map entries =>
      simp only [ofValue]
      split
      · rename_i known
        exact absurd (Value.unknownKeys_eq_nil.mp known).hasTextKeys untextual
      · rw [Value.sortedContents?_unknownKeys_eq_none.mpr untextual]
    | _ => exact absurd (by rintro key ⟨⟩) untextual

theorem Column.escapes_ofValue : Escapes isFinding (ofValue name value) ↔ ¬ value.HasTextKeys := by
  constructor
  · intro escapes textual
    exact (Schema.finds_columnOfValue name textual).not_escapes escapes
  · intro untextual
    unfold ofValue
    exact Escapes.bind_iff.mpr (.inl (Descriptor.escapes_ofValue.mpr untextual))

namespace Schema

/-- An entry of a column that has a name and whose descriptor has a key that is no text. -/
def ColumnEscapes (entry : Value × Value) : Prop :=
  ∃ name : Label, entry.1 = .label name ∧ name.isEmpty = false ∧ ¬ entry.2.HasTextKeys

theorem escapes_readColumn {entry : Value × Value} :
    Escapes isFinding (readColumn entry) ↔ ColumnEscapes entry := by
  unfold readColumn ColumnEscapes
  simp only [← Value.name?_eq_some, ← and_assoc]
  cases entry.1.name? with
  | none => simp [Escapes.error_iff, isFinding]
  | some name => simp [Escapes.map_iff, Column.escapes_ofValue]

/-! ## Definitions -/

/-- Columns that can be read up to one whose descriptor has a key that is no text. -/
def UpToEscape (columns : Value) : Prop :=
  ∃ before entry after, columns = .map (before ++ entry :: after) ∧
    (∀ earlier ∈ before, ∃ column : Label × Column, earlier.1 = .label column.1 ∧
      column.1.isEmpty = false ∧ earlier.2.GivesColumn column.2) ∧ ColumnEscapes entry

theorem escapes_readColumns {columns : Value} :
    Escapes isFinding (readColumns columns) ↔ UpToEscape columns := by
  have each : ∀ entries : List (Value × Value), Escapes isFinding (entries.mapM readColumn) ↔
      UpToEscape (.map entries) := by
    intro entries
    simp only [Escapes.mapM_iff, escapes_readColumn, readColumn_eq_ok, UpToEscape, Value.map.injEq]
  cases columns with
  | map entries =>
    cases entries with
    | nil => simp [readColumns, UpToEscape, Escapes.error_iff, isFinding]
    | cons entry rest =>
      rw [readColumns, Escapes.map_iff]
      exact each _
  | _ => simp [readColumns, UpToEscape, Escapes.error_iff, isFinding]

/-- A definition that can be read up to a column whose descriptor has a key that is no text. -/
def ColumnsEscape (options columns : Value) : Prop :=
  ∃ (given : TableOptions) (tableName : Label) (primaryKeys : List Label),
    options.GivesOptions given ∧ given.tableName = .label tableName ∧ tableName.isEmpty = false ∧
      given.primaryKeys.ListsNames primaryKeys ∧ UpToEscape columns

/-- A failure of a definition is no finding exactly when a descriptor's key that is no text stands in
the way of the columns. -/
theorem escapes_ofDefinition {options columns : Value} :
    Escapes isFinding (ofDefinition options columns) ↔ ColumnsEscape options columns := by
  constructor
  · intro escapes
    unfold ofDefinition at escapes
    obtain ⟨given, hgiven, escapes⟩ :=
      (Escapes.bind_of_answers (finds_optionsOfValue _).not_escapes).mp escapes
    obtain ⟨tableName, htable, escapes⟩ :=
      (Escapes.bind_of_answers (finds_readTableName _).not_escapes).mp escapes
    obtain ⟨primaryKeys, hkeys, escapes⟩ :=
      (Escapes.bind_of_answers (finds_readPrimaryKeys _).not_escapes).mp escapes
    obtain ⟨label, named⟩ := readTableName_eq_ok.mp htable
    refine ⟨given, tableName, primaryKeys, TableOptions.ofValue_eq_ok.mp hgiven, label, named,
      readPrimaryKeys_eq_ok.mp hkeys, ?_⟩
    rcases Escapes.bind_iff.mp escapes with escapes | ⟨collected, -, escapes⟩
    · exact escapes_readColumns.mp escapes
    · -- what is checked after the columns is no matter of keys
      refine absurd escapes (Finds.not_escapes ?_)
      refine .bind (finds_checkPrimaryKeys primaryKeys collected) fun _ => ?_
      refine .bind (finds_readAutoIncrement given.autoIncrement primaryKeys collected) fun _ => ?_
      exact .bind (finds_readUniqueKeys collected given.uniqueKeys) fun _ => .refuse rfl (.ok _)
  · rintro ⟨given, tableName, primaryKeys, gives, label, named, listed, upTo⟩
    unfold ofDefinition
    refine Escapes.bind_iff.mpr (.inr ⟨given, TableOptions.ofValue_eq_ok.mpr gives, ?_⟩)
    refine Escapes.bind_iff.mpr (.inr ⟨tableName, readTableName_eq_ok.mpr ⟨label, named⟩, ?_⟩)
    refine Escapes.bind_iff.mpr (.inr ⟨primaryKeys, readPrimaryKeys_eq_ok.mpr listed, ?_⟩)
    exact Escapes.bind_iff.mpr (.inl (escapes_readColumns.mpr upTo))

/-- A definition yields a schema or a finding about it, whatever it is made of, unless a descriptor has
a key that is no text and everything before that column can be read. -/
theorem answers_unless_columns_escape (options columns : Value) :
    (Answers isFinding (ofDefinition options columns) ↔ ¬ ColumnsEscape options columns) ∧
      (ColumnsEscape options columns → ofDefinition options columns = .error .unlistable) := by
  refine ⟨answers_iff.trans escapes_ofDefinition.not, fun escape => ?_⟩
  exact SchemaError.escapes_iff.mp (escapes_ofDefinition.mpr escape)

/-- A descriptor that has a number among its keys. -/
theorem number_in_descriptor_escapes :
    ¬ Answers isFinding (ofDefinition
      (.map [(.text "table_name", .text "t"), (.text "primary_keys", .text "id")])
      (.map [(.text "id", .map [(.text "type", .text "integer"), (.int 1, .int 2)])])) := by
  rw [answers_iff, not_not, SchemaError.escapes_iff]
  rfl

end Schema

end TableModel
