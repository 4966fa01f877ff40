/-
# TableModel.Proofs.Statement.Unambiguous — a statement's text determines what was asked for

Two requests that are accepted and yield one text ask for the same kind of statement on the same
table, with the same columns in each clause that the kind uses and, for a selection, the same
ordering terms and page. The names have to be identifiers, as for layouts, and an ordering must not
have empty lists inside it: they leave a separator in the text with nothing to separate.

What is *not* determined: the values, which are bound and not printed, the clauses that the kind
leaves out, an offset without a limit, and how an ordering or a conflict target was grouped.
-/
import TableModel.Proofs.Statement.Accepted
import TableModel.Proofs.Statement.Layout
import TableModel.Proofs.Statement.Ordering
import TableModel.Proofs.Value.PlainName

namespace TableModel

open Text

/-! ## The layout of a request -/

namespace Clauses

/-- The ordering terms of clauses, from left to right; an ordering that is false has none. -/
def orderTerms (clauses : Clauses) : List OrderTerm :=
  if clauses.orderBy.truth then clauses.orderBy.orderLeaves.map Value.orderTerm else []

/-- The names that a kind takes from clauses and from a conflict target are identifiers, and an
ordering has no empty lists inside it. -/
structure PlainNames (clauses : Clauses) (kind : StatementKind) (target : Value) : Prop where
  bound : ∀ entry ∈ clauses.bound kind, entry.1.IsPlainName
  ordered : kind = .select → clauses.orderBy.truth = true →
    clauses.orderBy.solid = true ∧
      ∀ leaf ∈ clauses.orderBy.orderLeaves, leaf.orderColumn.IsPlainName
  targeted : kind = .upsert → ∀ names, target.names? = some names →
    ∀ name ∈ names, (Value.label name).IsPlainName

/-- The clauses that a kind uses agree: the columns of each in their order, the ordering terms, the
limit and, where there is one, the offset. -/
def SameEffect (kind : StatementKind) (clauses : Clauses) (target : Value) (other : Clauses)
    (otherTarget : Value) : Prop :=
  match kind with
  | .select =>
    clauses.filter.keys = other.filter.keys ∧ clauses.orderTerms = other.orderTerms ∧
      clauses.limit = other.limit ∧ (clauses.limit ≠ .null → clauses.offset = other.offset)
  | .delete => clauses.filter.keys = other.filter.keys
  | .insert | .insertOrReplace => clauses.data.keys = other.data.keys
  | .update => clauses.data.keys = other.data.keys ∧ clauses.filter.keys = other.filter.keys
  | .upsert =>
    clauses.data.keys = other.data.keys ∧ clauses.updates.keys = other.updates.keys ∧
      clauses.filter.keys = other.filter.keys ∧ target.names? = otherTarget.names?

/-- The layout of the statement that a kind makes of clauses. -/
def layout (clauses : Clauses) (table : String) (target : Value) : StatementKind → Layout
  | .select =>
    .select table (clauses.filter.keys.map Value.shown) clauses.orderTerms clauses.page
  | .delete => .delete table (clauses.filter.keys.map Value.shown)
  | .insert => .insert false table (clauses.data.keys.map Value.shown)
  | .insertOrReplace => .insert true table (clauses.data.keys.map Value.shown)
  | .update =>
    .update table (clauses.data.keys.map Value.shown) (clauses.filter.keys.map Value.shown)
  | .upsert =>
    .upsert table (clauses.data.keys.map Value.shown)
      ((target.names?.getD []).map Label.content) (clauses.updates.keys.map Value.shown)
      (clauses.filter.keys.map Value.shown)

/-- An accepted ordering is written as the clause of its terms. -/
theorem orderText_eq {clauses : Clauses} {order : Option OrderSpec}
    (ordered : readOrder clauses.orderBy = .ok order)
    (solid : clauses.orderBy.truth = true → clauses.orderBy.solid = true) :
    Statement.orderText order = OrderTerm.clauseText clauses.orderTerms := by
  unfold readOrder at ordered
  unfold orderTerms
  split at ordered
  · rename_i given
    obtain ⟨spec, hspec, rfl⟩ := map_eq_ok.mp ordered
    obtain ⟨htext, hterms⟩ := OrderSpec.text_of_ofValue hspec (solid given)
    rw [if_pos given, ← OrderSpec.terms_of_ofValue hspec, Statement.orderText, htext]
    -- the clause of a list that is not empty has its keyword
    cases hall : spec.terms with
    | nil => exact absurd hall hterms
    | cons term rest => rfl
  · rename_i absent
    obtain rfl := Except.ok.inj ordered
    rw [if_neg absent]
    rfl

/-- The keys of the clauses that a kind binds are plain. -/
theorem PlainNames.keys {clauses : Clauses} {kind : StatementKind} {target : Value}
    (h : clauses.PlainNames kind target) :
    ∀ key ∈ (clauses.bound kind).map Prod.fst, key.IsPlainName := by
  intro key hkey
  obtain ⟨entry, hentry, rfl⟩ := List.mem_map.mp hkey
  exact h.bound entry hentry

theorem PlainNames.update_keys {clauses : Clauses} {target : Value}
    (h : clauses.PlainNames .update target) :
    (∀ key ∈ clauses.data.keys, key.IsPlainName) ∧
      ∀ key ∈ clauses.filter.keys, key.IsPlainName := by
  have keys := h.keys
  rw [Clauses.bound, List.map_append, List.forall_mem_append] at keys
  exact keys

theorem PlainNames.upsert_keys {clauses : Clauses} {target : Value}
    (h : clauses.PlainNames .upsert target) :
    (∀ key ∈ clauses.data.keys, key.IsPlainName) ∧
      (∀ key ∈ clauses.updates.keys, key.IsPlainName) ∧
      ∀ key ∈ clauses.filter.keys, key.IsPlainName := by
  have keys := h.keys
  rw [Clauses.bound, List.map_append, List.map_append, List.forall_mem_append, List.forall_mem_append,
    and_assoc] at keys
  exact keys

end Clauses

/-- The columns of a row to insert are what its keys show, when these are plain names. -/
theorem Row.columns_of_ofTextEntries {entries : List (Value × Value)} {row : Row}
    (texts : ofTextEntries entries = .ok row)
    (plain : ∀ key ∈ entries.map Prod.fst, key.IsPlainName) :
    row.columns = (entries.map Prod.fst).map Value.shown := by
  obtain ⟨names, hkeys, hcolumns, -⟩ := exists_labels_of_ofTextEntries texts
  rw [hcolumns, hkeys, List.map_map]
  refine List.map_congr_left fun name hname => ?_
  have hplain := plain (.label name) (by rw [hkeys]; exact List.mem_map_of_mem hname)
  obtain ⟨text, htext, -⟩ := Value.isPlainName_iff.mp hplain
  obtain rfl := Value.label.inj htext
  rfl

namespace Statement

/-- The statement that a kind makes has the text of its layout. -/
theorem Made.text_eq {table : Label} {clauses : Clauses} {target : Value} {kind : StatementKind}
    {statement : Statement} (made : Made table clauses target kind statement)
    (plain : clauses.PlainNames kind target) :
    statement.text = (clauses.layout table.shown target kind).text := by
  cases made with
  | select ordered =>
    rw [text_select, Row.columns_ofEntries,
      Clauses.orderText_eq ordered fun given => (plain.ordered rfl given).1]
    simp only [Layout.text, Layout.opening, Layout.table, Layout.body, Clauses.layout, Value.keys,
      String.append_assoc]
  | delete =>
    rw [text_delete, Row.columns_ofEntries]
    simp only [Layout.text, Layout.opening, Layout.table, Layout.body, Clauses.layout, Value.keys,
      String.append_assoc]
  | insert given texts | insertOrReplace given texts =>
    rw [text_insert, Row.columns_of_ofTextEntries texts plain.keys]
    simp only [Layout.text, Layout.opening, Layout.table, Layout.body, Clauses.layout, Value.keys,
      String.append_assoc]
  | update given =>
    rw [text_update, Row.columns_ofEntries, Row.columns_ofEntries]
    simp only [Layout.text, Layout.opening, Layout.table, Layout.body, Clauses.layout, Value.keys,
      String.append_assoc]
  | upsert given changes filtered targeted texts =>
    rw [text_upsert, Row.columns_ofEntries, Row.columns_ofEntries,
      Row.columns_of_ofTextEntries texts plain.upsert_keys.1]
    simp only [Layout.text, Layout.opening, Layout.table, Layout.body, Clauses.layout, Value.keys,
      readTarget_eq_ok.mp targeted, Option.getD_some, String.append_assoc]

/-- The layout of an accepted statement is one of identifiers. -/
theorem Made.plain_layout {table : Label} {clauses : Clauses} {target : Value}
    {kind : StatementKind} {statement : Statement}
    (made : Made table clauses target kind statement) (plain : clauses.PlainNames kind target)
    (named : isIdentifier table.shown = true) :
    (clauses.layout table.shown target kind).Plain := by
  have identifiers : ∀ {keys : List Value}, (∀ key ∈ keys, key.IsPlainName) →
      ∀ column ∈ keys.map Value.shown, isIdentifier column = true := by
    intro keys hkeys
    rw [List.forall_mem_map]
    intro key hkey
    exact (hkeys key hkey).identifier
  have nonempty : ∀ {value : Value}, value.members ≠ [] → value.keys.map Value.shown ≠ [] := by
    intro value hvalue
    simpa [Value.keys] using hvalue
  refine ⟨by cases made <;> exact named, ?_⟩
  cases made with
  | select ordered =>
    refine ⟨identifiers plain.keys, ?_⟩
    intro term hterm
    unfold Clauses.orderTerms at hterm
    split at hterm
    · rename_i given
      obtain ⟨leaf, hleaf, rfl⟩ := List.mem_map.mp hterm
      rw [Value.column_orderTerm]
      exact ((plain.ordered rfl given).2 leaf hleaf).identifier
    · simp at hterm
  | delete => exact identifiers plain.keys
  | insert given texts | insertOrReplace given texts =>
    exact ⟨nonempty given, identifiers plain.keys⟩
  | update given =>
    obtain ⟨hdata, hfilter⟩ := plain.update_keys
    exact ⟨⟨nonempty given, identifiers hdata⟩, identifiers hfilter⟩
  | upsert given changes filtered targeted texts =>
    obtain ⟨hdata, hupdates, hfilter⟩ := plain.upsert_keys
    have hnames := readTarget_eq_ok.mp targeted
    refine ⟨⟨nonempty given, identifiers hdata⟩, ⟨?_, ?_⟩,
      ⟨nonempty changes, identifiers hupdates⟩, identifiers hfilter⟩
    · simpa [hnames] using (Value.names?_eq_some.mp hnames).ne_nil
    · rw [hnames, Option.getD_some, List.forall_mem_map]
      intro name hname
      obtain ⟨text, htext, hidentifier⟩ :=
        Value.isPlainName_iff.mp (plain.targeted rfl _ hnames name hname)
      obtain rfl := Value.label.inj htext
      exact hidentifier

end Statement

namespace Value

theorem IsOptionalCount.eq_of_count?_eq {value other : Value} (h : value.IsOptionalCount)
    (h' : other.IsOptionalCount) (same : value.count? = other.count?) : value = other := by
  cases h with
  | null => cases h' with
    | null => rfl
    | count n => exact absurd same (by simp [count?])
  | count m => cases h' with
    | null => exact absurd same (by simp [count?])
    | count n =>
      obtain rfl : m = n := by simpa [count?] using same
      rfl

end Value

namespace Clauses

/-- A page determines the limit and, where there is one, the offset. -/
theorem page_eq {clauses other : Clauses} (shaped : clauses.Shaped) (shaped' : other.Shaped)
    (same : clauses.page = other.page) :
    clauses.limit = other.limit ∧ (clauses.limit ≠ .null → clauses.offset = other.offset) := by
  obtain ⟨_, _, _, limit, offset, _⟩ := clauses
  obtain ⟨_, _, _, limit', offset', _⟩ := other
  have hlimit : limit.IsOptionalCount := shaped.limit
  have hlimit' : limit'.IsOptionalCount := shaped'.limit
  have hoffset : offset.IsOptionalCount := shaped.offset
  have hoffset' : offset'.IsOptionalCount := shaped'.offset
  cases hlimit with
  | null =>
    cases hlimit' with
    | null => exact ⟨rfl, fun limited => absurd rfl limited⟩
    | count n => simp [page, Value.count?] at same
  | count m =>
    cases hlimit' with
    | null => simp [page, Value.count?] at same
    | count n =>
      obtain ⟨rfl, hcount⟩ : m = n ∧ offset.count? = offset'.count? := by
        simpa [page, Value.count?] using same
      exact ⟨rfl, fun _ => hoffset.eq_of_count?_eq hoffset' hcount⟩

theorem kind_layout (clauses : Clauses) (table : String) (target : Value) (kind : StatementKind) :
    (clauses.layout table target kind).kind = kind := by
  cases kind <;> rfl

theorem table_layout (clauses : Clauses) (table : String) (target : Value) (kind : StatementKind) :
    (clauses.layout table target kind).table = table := by
  cases kind <;> rfl

/-- Clauses with one layout have the same effect. -/
theorem sameEffect_of_layout_eq {kind : StatementKind} {clauses other : Clauses}
    {table table' : Label} {target otherTarget : Value} {statement statement' : Statement}
    (shaped : clauses.Shaped) (shaped' : other.Shaped)
    (made : Statement.Made table clauses target kind statement)
    (made' : Statement.Made table' other otherTarget kind statement')
    (plain : clauses.PlainNames kind target) (plain' : other.PlainNames kind otherTarget)
    (same : clauses.layout table.shown target kind = other.layout table'.shown otherTarget kind) :
    SameEffect kind clauses target other otherTarget := by
  -- plain keys are determined by what they show
  cases made with
  | select ordered =>
    simp only [layout, Layout.select.injEq] at same
    obtain ⟨-, hfilter, horder, hpage⟩ := same
    exact ⟨Value.eq_of_map_shown_eq plain.keys plain'.keys hfilter, horder,
      page_eq shaped shaped' hpage⟩
  | delete =>
    simp only [layout, Layout.delete.injEq] at same
    exact Value.eq_of_map_shown_eq plain.keys plain'.keys same.2
  | insert given texts | insertOrReplace given texts =>
    simp only [layout, Layout.insert.injEq] at same
    exact Value.eq_of_map_shown_eq plain.keys plain'.keys same.2.2
  | update given =>
    simp only [layout, Layout.update.injEq] at same
    obtain ⟨-, hdata, hfilter⟩ := same
    exact ⟨Value.eq_of_map_shown_eq plain.update_keys.1 plain'.update_keys.1 hdata,
      Value.eq_of_map_shown_eq plain.update_keys.2 plain'.update_keys.2 hfilter⟩
  | upsert given changes filtered targeted texts =>
    cases made' with
    | upsert _ _ _ targeted' _ =>
      have hnames := readTarget_eq_ok.mp targeted
      have hothers := readTarget_eq_ok.mp targeted'
      simp only [layout, Layout.upsert.injEq, hnames, hothers, Option.getD_some] at same
      obtain ⟨-, hdata, htarget, hupdates, hfilter⟩ := same
      obtain ⟨data, updates, filter⟩ := plain.upsert_keys
      obtain ⟨data', updates', filter'⟩ := plain'.upsert_keys
      refine ⟨Value.eq_of_map_shown_eq data data' hdata,
        Value.eq_of_map_shown_eq updates updates' hupdates,
        Value.eq_of_map_shown_eq filter filter' hfilter, ?_⟩
      rw [hnames, hothers, Label.eq_of_map_content_eq (plain.targeted rfl _ hnames)
        (plain'.targeted rfl _ hothers) htarget]

end Clauses

namespace Request

/-- The names of a request are identifiers: its table, and what its kind takes from its clauses. -/
structure PlainNames (request : Request) : Prop where
  table : request.table.IsPlainName
  clauses : ∀ kind clauses, StatementKind.ofValue request.kind = .ok kind →
    Clauses.ofValue request.clauses = .ok clauses → clauses.PlainNames kind request.target

/-- Requests with plain names that yield one text ask for the same kind of statement on the same
table, and the clauses that the kind uses agree. -/
theorem text_determines_request {first second : Request} {statement statement' : Statement}
    (accepted : first.statement = .ok statement) (accepted' : second.statement = .ok statement')
    (plain : first.PlainNames) (plain' : second.PlainNames)
    (same : statement.query.text = statement'.query.text) :
    first.table = second.table ∧
      ∃ kind clauses clauses', StatementKind.ofValue first.kind = .ok kind ∧
        StatementKind.ofValue second.kind = .ok kind ∧
        Clauses.ofValue first.clauses = .ok clauses ∧
        Clauses.ofValue second.clauses = .ok clauses' ∧
        Clauses.SameEffect kind clauses first.target clauses' second.target := by
  obtain ⟨kind, table, clauses, parts⟩ := statement_eq_ok.mp accepted
  obtain ⟨kind', table', clauses', parts'⟩ := statement_eq_ok.mp accepted'
  have names := plain.clauses kind clauses parts.kind_eq parts.clauses_eq
  have names' := plain'.clauses kind' clauses' parts'.kind_eq parts'.clauses_eq
  have htable : (Value.label table).IsPlainName := parts.table_eq ▸ plain.table
  have htable' : (Value.label table').IsPlainName := parts'.table_eq ▸ plain'.table
  -- both texts are texts of layouts, and a plain layout is determined by its text
  have layouts : clauses.layout table.shown first.target kind
      = clauses'.layout table'.shown second.target kind' := by
    apply Layout.eq_of_text_eq (parts.made.plain_layout names htable.identifier)
      (parts'.made.plain_layout names' htable'.identifier)
    rw [← parts.made.text_eq names, ← parts'.made.text_eq names']
    exact same
  have kinds := congrArg Layout.kind layouts
  rw [Clauses.kind_layout, Clauses.kind_layout] at kinds
  subst kinds
  have tables := congrArg Layout.table layouts
  rw [Clauses.table_layout, Clauses.table_layout] at tables
  refine ⟨?_, kind, clauses, clauses', parts.kind_eq, parts'.kind_eq, parts.clauses_eq,
    parts'.clauses_eq, Clauses.sameEffect_of_layout_eq parts.shaped parts'.shaped parts.made
      parts'.made names names' layouts⟩
  rw [parts.table_eq, parts'.table_eq, htable.eq_text, htable'.eq_text]
  exact congrArg Value.text tables

/-- The first users by name and then by age, the ordering in two groups. -/
def groupedSelection : Request where
  kind := .label (.statementKind .select)
  table := .text "users"
  clauses := .clauses (.map [(.text "id", .int 1)]) .null .null (.int 10) .null
    (.list [.text "name", .tuple [.ordering (.text "age") (.bool true) .null]])

/-- The same for another id, the kind spelled out, the ordering flat and a term of it a mapping. -/
def flatSelection : Request where
  kind := .text "select"
  table := .text "users"
  clauses := .map [(.text "where", .map [(.text "id", .int 2)]),
    (.text "order_by", .list [.text "name",
      .map [(.text "column", .text "age"), (.text "descending", .int 1)]]),
    (.text "limit", .int 10)]

theorem plainNames_groupedSelection : groupedSelection.PlainNames := by
  refine ⟨by decide, fun kind clauses hkind hclauses => ?_⟩
  obtain rfl := Except.ok.inj hkind
  obtain rfl := Except.ok.inj hclauses
  exact ⟨by decide, fun _ _ => by decide, fun h => by simp at h⟩

theorem plainNames_flatSelection : flatSelection.PlainNames := by
  refine ⟨by decide, fun kind clauses hkind hclauses => ?_⟩
  obtain rfl := Except.ok.inj hkind
  obtain rfl := Except.ok.inj hclauses
  exact ⟨by decide, fun _ _ => by decide, fun h => by simp at h⟩

theorem text_determines_selections :
    ∃ statement statement', groupedSelection.statement = .ok statement ∧
      flatSelection.statement = .ok statement' ∧ groupedSelection.PlainNames ∧
      flatSelection.PlainNames ∧ statement.query.text = statement'.query.text ∧
      groupedSelection.table = flatSelection.table ∧
      ∃ kind clauses clauses', StatementKind.ofValue groupedSelection.kind = .ok kind ∧
        StatementKind.ofValue flatSelection.kind = .ok kind ∧
        Clauses.ofValue groupedSelection.clauses = .ok clauses ∧
        Clauses.ofValue flatSelection.clauses = .ok clauses' ∧
        Clauses.SameEffect kind clauses groupedSelection.target clauses' flatSelection.target := by
  have same : (Statement.select "users" [("id", .int 1)]
        (some (.group [.term ⟨"name", false, false⟩, .group [.term ⟨"age", true, false⟩]]))
        (some ⟨10, none⟩)).query.text
      = (Statement.select "users" [("id", .int 2)]
        (some (.group [.term ⟨"name", false, false⟩, .term ⟨"age", true, false⟩]))
        (some ⟨10, none⟩)).query.text := by
    decide
  exact ⟨_, _, rfl, rfl, plainNames_groupedSelection, plainNames_flatSelection, same,
    text_determines_request rfl rfl plainNames_groupedSelection plainNames_flatSelection same⟩

end Request

end TableModel
