/-
# TableModel.Proofs.Statement.Placeholders — each value is bound to the placeholder of its column

The values of a statement are bound by position: the i-th value goes to the i-th question mark of
the text, so a clause that is printed in one order and bound in another would write values to the
wrong columns. Here the text is read on its own. `PlaceholderOf text i key` says that the i-th
question mark of a text belongs to a column, either by an equation `<column> = ?` or by its position
in a list of placeholders behind a list of columns. The main statement is that this holds, for every
accepted request and every i, of the i-th entry of the clauses that the kind binds.

Question marks in names would be counted as well, so the names of a statement have to be without.
-/
import Mathlib.Algebra.GroupWithZero.Nat
import TableModel.Proofs.Statement.Accepted

namespace TableModel

/-! ## Counting question marks -/

/-- How many question marks a text has. -/
def markCount (text : String) : Nat :=
  text.toList.count '?'

@[simp] theorem markCount_append (left right : String) :
    markCount (left ++ right) = markCount left + markCount right := by
  simp [markCount]

theorem markCount_eq_zero {text : String} : markCount text = 0 ↔ '?' ∉ text.toList := by
  rw [markCount, List.count_eq_zero]

theorem markCount_intercalate {separator : String} (h : markCount separator = 0)
    (parts : List String) :
    markCount (separator.intercalate parts) = (parts.map markCount).sum := by
  induction parts with
  | nil => rfl
  | cons part parts ih =>
    cases parts with
    | nil => simp
    | cons next parts => simp [String.intercalate_cons_cons, ih, h]

/-- Joined parts without question marks have none. -/
theorem markCount_intercalate_eq_zero {separator : String} (h : markCount separator = 0)
    {parts : List String} (unmarked : ∀ part ∈ parts, markCount part = 0) :
    markCount (separator.intercalate parts) = 0 := by
  rw [markCount_intercalate h, List.sum_eq_zero_iff_forall_eq_nat]
  intro n hn
  obtain ⟨part, hpart, rfl⟩ := List.mem_map.mp hn
  exact unmarked part hpart

theorem markCount_toString (n : Nat) : markCount (toString n) = 0 := by
  rw [markCount_eq_zero]
  intro h
  simp only [Nat.toString_eq_repr, Nat.toList_repr] at h
  have hdigit := Nat.isDigit_of_mem_toDigits (by decide) (by decide) h
  exact absurd hdigit (by decide)

namespace Row

theorem markCount_equationText {column : String} (h : markCount column = 0) :
    markCount (equationText column) = 1 := by
  rw [equationText, markCount_append, h]
  rfl

end Row

/-! ## Placeholders of columns -/

/-- What stands before an equation. -/
def openers : List String := [" WHERE ", " AND ", " SET ", ", "]

/-- The question mark with number `i` in a text is the placeholder of a column. -/
inductive PlaceholderOf (text : String) (i : Nat) : Value → Prop
  /-- It is the mark of an equation with the column. -/
  | equation {key : Value} (front opener back : String) (opens : opener ∈ openers)
      (split : text = front ++ opener ++ key.shown ++ " = ?" ++ back)
      (index : markCount (front ++ opener ++ key.shown ++ " = ") = i) : PlaceholderOf text i key
  /-- It has the position in a list of placeholders that the column has in the list of columns
  before it. -/
  | position {column : Label} (front back : String) (columns : List String) {j : Nat}
      (split : text = front ++ "(" ++ String.intercalate ", " columns ++ ") VALUES ("
        ++ String.intercalate ", " (List.replicate columns.length "?") ++ ")" ++ back)
      (named : columns[j]? = some column.content)
      (index : markCount (front ++ "(" ++ String.intercalate ", " columns ++ ") VALUES (") + j = i) :
      PlaceholderOf text i (.label column)

theorem PlaceholderOf.append_left {text : String} {i : Nat} {key : Value}
    (h : PlaceholderOf text i key) (before : String) :
    PlaceholderOf (before ++ text) (markCount before + i) key := by
  cases h with
  | equation front opener back opens split index =>
    refine .equation (before ++ front) opener back opens ?_ ?_
    · rw [split]
      simp only [String.append_assoc]
    · simp only [markCount_append] at index ⊢
      omega
  | position front back columns split named index =>
    refine .position (before ++ front) back columns ?_ named ?_
    · rw [split]
      simp only [String.append_assoc]
    · simp only [markCount_append] at index ⊢
      omega

theorem PlaceholderOf.append_right {text : String} {i : Nat} {key : Value}
    (h : PlaceholderOf text i key) (behind : String) : PlaceholderOf (text ++ behind) i key := by
  cases h with
  | equation front opener back opens split index =>
    exact .equation front opener _ opens (by rw [split, String.append_assoc]) index
  | position front back columns split named index =>
    exact .position front _ columns (by rw [split, String.append_assoc]) named index

/-- The question marks of a text are the placeholders of columns, one by one. -/
structure Placed (text : String) (keys : List Value) : Prop where
  count : markCount text = keys.length
  place : ∀ (i : Nat) (h : i < keys.length), PlaceholderOf text i keys[i]

namespace Placed

/-- A text without question marks has the placeholders of no columns. -/
theorem nil {text : String} (unmarked : markCount text = 0) : Placed text [] where
  count := unmarked
  place := fun i h => absurd h (Nat.not_lt_zero i)

/-- Placeholders of one text and then those of another. -/
theorem append {left right : String} {keys others : List Value} (hleft : Placed left keys)
    (hright : Placed right others) : Placed (left ++ right) (keys ++ others) where
  count := by rw [markCount_append, hleft.count, hright.count, List.length_append]
  place := by
    intro i h
    -- the marks of the left text come first, those of the right one are counted behind them
    by_cases hi : i < keys.length
    · rw [List.getElem_append_left hi]
      exact (hleft.place i hi).append_right right
    · rw [List.getElem_append_right (by omega)]
      have hplace := (hright.place (i - keys.length) (by simp at h; omega)).append_left left
      rwa [hleft.count, Nat.add_sub_cancel' (by omega)] at hplace

/-! ## Lists of equations and rows to insert -/

/-- One equation behind an opener. -/
theorem equation {key : Value} {front opener : String} (hopener : opener ∈ openers)
    (hfront : markCount front = 0) (hzero : markCount opener = 0)
    (hkey : markCount key.shown = 0) :
    Placed (front ++ opener ++ Row.equationText key.shown) [key] where
  count := by
    simp only [markCount_append, hfront, hzero, Row.markCount_equationText hkey]
    rfl
  place := by
    intro i hi
    obtain rfl : i = 0 := by simpa using hi
    refine .equation front opener "" hopener ?_ ?_
    · simp [Row.equationText, String.append_assoc]
    · simp only [markCount_append, hfront, hzero, List.getElem_singleton, hkey]
      rfl

/-- Equations, the first of them behind an opener and the others behind a separator that is one. -/
theorem equations {separator : String} (hsep : separator ∈ openers)
    (hsepZero : markCount separator = 0) :
    ∀ {keys : List Value} (front opener : String), keys ≠ [] → opener ∈ openers →
      markCount front = 0 → markCount opener = 0 → (∀ key ∈ keys, markCount key.shown = 0) →
      Placed (front ++ opener
        ++ separator.intercalate ((keys.map Value.shown).map Row.equationText)) keys := by
  intro keys
  induction keys with
  | nil => intro _ _ hne; exact absurd rfl hne
  | cons key keys ih =>
    intro front opener _ hopener hfront hzero unmarked
    have first := equation hopener hfront hzero (unmarked key (by simp))
    -- the separator between two equations is the opener of the second
    cases keys with
    | nil => simpa using first
    | cons next keys =>
      have rest := ih "" separator (by simp) hsep rfl hsepZero
        fun other hother => unmarked other (by simp [List.mem_cons.mp hother])
      simpa [String.intercalate_cons_cons, String.append_assoc] using first.append rest

/-- The equations of a filter. -/
theorem filter {keys : List Value} (unmarked : ∀ key ∈ keys, markCount key.shown = 0) :
    Placed (Row.filterText (keys.map Value.shown)) keys := by
  cases keys with
  | nil => exact nil rfl
  | cons key keys =>
    have between : " AND " ∈ openers := by decide
    have h := equations between rfl "" " WHERE " (by simp) (by decide) rfl rfl unmarked
    simpa [Row.filterText] using h

/-- The equations of columns to change, behind the keyword. -/
theorem changes {keys : List Value} {front : String} (hne : keys ≠ [])
    (hfront : markCount front = 0) (unmarked : ∀ key ∈ keys, markCount key.shown = 0) :
    Placed (front ++ " SET " ++ Row.changeText (keys.map Value.shown)) keys :=
  equations (by decide) rfl front " SET " hne (by decide) hfront rfl unmarked

/-- The placeholders of a row to insert have the positions of their columns. -/
theorem insert {names : List Label}
    (unmarked : ∀ name ∈ names, markCount name.content = 0) :
    Placed (Row.insertText (names.map Label.content)) (names.map Value.label) := by
  have hnames : markCount (String.intercalate ", " (names.map Label.content)) = 0 :=
    markCount_intercalate_eq_zero rfl (List.forall_mem_map.mpr unmarked)
  constructor
  · have hslots : markCount (String.intercalate ", " (List.replicate names.length "?"))
        = names.length := by
      rw [markCount_intercalate rfl, List.map_replicate]
      simp [markCount]
    simp only [Row.insertText, markCount_append, List.length_map, hnames, hslots]
    simp [markCount]
  · intro i hi
    have hlength : i < names.length := by simpa using hi
    rw [List.getElem_map]
    refine .position "" "" (names.map Label.content) (j := i) ?_ ?_ ?_
    · simp [Row.insertText]
    · simp [hlength]
    · simp only [markCount_append, hnames]
      simp [markCount]

end Placed

/-! ## Orderings and pages -/

namespace OrderSpec

/-- The columns of an optional ordering. -/
def columns (order : Option OrderSpec) : List String :=
  (order.elim [] terms).map OrderTerm.column

end OrderSpec

theorem OrderTerm.markCount_text {term : OrderTerm} (h : markCount term.column = 0) :
    markCount term.text = 0 := by
  simp only [OrderTerm.text, markCount_append, h]
  cases term.descending <;> cases term.nullsLast <;> rfl

namespace OrderSpec

mutual

theorem markCount_text : ∀ {spec : OrderSpec},
    (∀ term ∈ spec.terms, markCount term.column = 0) → markCount spec.text = 0
  | .term t, unmarked => OrderTerm.markCount_text (unmarked t (by simp [terms]))
  | .group specs, unmarked => by
    rw [text]
    exact markCount_intercalate_eq_zero rfl
      (markCount_texts (by simpa [terms] using unmarked))

theorem markCount_texts : ∀ {specs : List OrderSpec},
    (∀ term ∈ allTerms specs, markCount term.column = 0) →
    ∀ part ∈ texts specs, markCount part = 0
  | [], _, part, hpart => by simp [texts] at hpart
  | spec :: specs, unmarked, part, hpart => by
    simp only [allTerms, List.mem_append] at unmarked
    rcases List.mem_cons.mp hpart with rfl | hpart
    · exact markCount_text fun term hterm => unmarked term (Or.inl hterm)
    · exact markCount_texts (fun term hterm => unmarked term (Or.inr hterm)) part hpart

end

end OrderSpec

namespace Statement

theorem markCount_orderText {order : Option OrderSpec}
    (unmarked : ∀ column ∈ OrderSpec.columns order, markCount column = 0) :
    markCount (orderText order) = 0 := by
  cases order with
  | none => rfl
  | some spec =>
    have hspec : markCount spec.text = 0 := OrderSpec.markCount_text fun term hterm =>
      unmarked _ (List.mem_map_of_mem (by simpa using hterm))
    rw [orderText, markCount_append, hspec]
    rfl

theorem markCount_pageText (page : Option Page) : markCount (pageText page) = 0 := by
  match page with
  | none => rfl
  | some ⟨limit, none⟩ =>
    simp only [pageText, markCount_append, markCount_toString]
    rfl
  | some ⟨limit, some offset⟩ =>
    simp only [pageText, markCount_append, markCount_toString]
    rfl

/-! ## Whole statements -/

/-- The names in the text of a statement: its table, its columns and its conflict target. -/
def names : Statement → List String
  | select table filter order _ => table :: (filter.columns ++ OrderSpec.columns order)
  | delete table filter => table :: filter.columns
  | insert _ table row => table :: row.columns
  | update table changes filter => table :: (changes.columns ++ filter.columns)
  | upsert table row target changes filter =>
    table :: (row.columns ++ target ++ changes.columns ++ filter.columns)

theorem placed_select {table : String} {filter : List (Value × Value)} {order : Option OrderSpec}
    {page : Option Page}
    (unmarked : ∀ name ∈ (select table (Row.ofEntries filter) order page).names,
      markCount name = 0) :
    Placed (select table (Row.ofEntries filter) order page).text (filter.map Prod.fst) := by
  simp only [names, List.forall_mem_cons, List.forall_mem_append, Row.columns_ofEntries] at unmarked
  obtain ⟨htable, hfilter, horder⟩ := unmarked
  have hfront : markCount ("SELECT * FROM `" ++ table ++ "`") = 0 := by
    simp only [markCount_append, htable]
    rfl
  have placed := (((Placed.nil hfront).append (Placed.filter (List.forall_mem_map.mp hfilter))).append
    (Placed.nil (markCount_orderText horder))).append (Placed.nil (markCount_pageText page))
  rw [text_select, Row.columns_ofEntries]
  simpa using placed

theorem placed_delete {table : String} {filter : List (Value × Value)}
    (unmarked : ∀ name ∈ (delete table (Row.ofEntries filter)).names, markCount name = 0) :
    Placed (delete table (Row.ofEntries filter)).text (filter.map Prod.fst) := by
  simp only [names, List.forall_mem_cons, Row.columns_ofEntries] at unmarked
  obtain ⟨htable, hfilter⟩ := unmarked
  have hfront : markCount ("DELETE FROM `" ++ table ++ "`") = 0 := by
    simp only [markCount_append, htable]
    rfl
  rw [text_delete, Row.columns_ofEntries]
  exact (Placed.nil hfront).append (Placed.filter (List.forall_mem_map.mp hfilter))

theorem placed_insert {replace : Bool} {table : String} {labels : List Label} {row : Row}
    (columns : row.columns = labels.map Label.content)
    (unmarked : ∀ name ∈ (insert replace table row).names, markCount name = 0) :
    Placed (insert replace table row).text (labels.map Value.label) := by
  simp only [names, List.forall_mem_cons, columns] at unmarked
  obtain ⟨htable, hrow⟩ := unmarked
  have hfront : markCount ((if replace then "INSERT or REPLACE INTO `" else "INSERT INTO `")
      ++ table ++ "` ") = 0 := by
    simp only [markCount_append, htable]
    cases replace <;> rfl
  rw [text_insert, columns]
  exact (Placed.nil hfront).append (Placed.insert (List.forall_mem_map.mp hrow))

theorem placed_update {table : String} {data filter : List (Value × Value)} (given : data ≠ [])
    (unmarked : ∀ name ∈ (update table (Row.ofEntries data) (Row.ofEntries filter)).names,
      markCount name = 0) :
    Placed (update table (Row.ofEntries data) (Row.ofEntries filter)).text
      ((data ++ filter).map Prod.fst) := by
  simp only [names, List.forall_mem_cons, List.forall_mem_append, Row.columns_ofEntries] at unmarked
  obtain ⟨htable, hdata, hfilter⟩ := unmarked
  have hfront : markCount ("UPDATE `" ++ table ++ "`") = 0 := by
    simp only [markCount_append, htable]
    rfl
  have keyword : "` SET " = "`" ++ " SET " := rfl
  have placed := (Placed.changes (by simpa using given) hfront (List.forall_mem_map.mp hdata)).append
    (Placed.filter (List.forall_mem_map.mp hfilter))
  rw [text_update, Row.columns_ofEntries, Row.columns_ofEntries, keyword, List.map_append]
  simpa only [String.append_assoc] using placed

theorem placed_upsert {table : String} {labels : List Label} {updates filter : List (Value × Value)}
    {row : Row} {target : List String} (columns : row.columns = labels.map Label.content)
    (given : updates ≠ [])
    (unmarked : ∀ name ∈ (upsert table row target (Row.ofEntries updates)
      (Row.ofEntries filter)).names, markCount name = 0) :
    Placed (upsert table row target (Row.ofEntries updates) (Row.ofEntries filter)).text
      (labels.map Value.label ++ (updates ++ filter).map Prod.fst) := by
  simp only [names, List.forall_mem_cons, List.forall_mem_append, Row.columns_ofEntries,
    columns] at unmarked
  obtain ⟨htable, ⟨⟨hrow, htarget⟩, hupdates⟩, hfilter⟩ := unmarked
  have hfront : markCount ("INSERT INTO `" ++ table ++ "` ") = 0 := by
    simp only [markCount_append, htable]
    rfl
  -- the second list of equations starts behind the conflict target, which has no marks
  have hconflict : markCount (" ON CONFLICT (" ++ String.intercalate ", " target
      ++ ") DO UPDATE") = 0 := by
    simp only [markCount_append, markCount_intercalate_eq_zero (show markCount ", " = 0 from rfl) htarget]
    rfl
  have keyword : ") DO UPDATE SET " = ") DO UPDATE" ++ " SET " := rfl
  have inserted := (Placed.nil hfront).append (Placed.insert (List.forall_mem_map.mp hrow))
  have changed := (Placed.changes (by simpa using given) hconflict
    (List.forall_mem_map.mp hupdates)).append (Placed.filter (List.forall_mem_map.mp hfilter))
  rw [text_upsert, columns, Row.columns_ofEntries, Row.columns_ofEntries, keyword, List.map_append]
  simpa only [String.append_assoc, List.nil_append] using inserted.append changed

end Statement

namespace Request

/-- The values of an accepted request are bound clause after clause, each clause in its order, and
the i-th of them to the i-th question mark of the text, which is the placeholder of its column. -/
theorem placeholders_agree_with_bindings {request : Request} {statement : Statement}
    (accepted : request.statement = .ok statement)
    (unmarked : ∀ name ∈ statement.names, '?' ∉ name.toList) :
    ∃ kind clauses, StatementKind.ofValue request.kind = .ok kind ∧
      Clauses.ofValue request.clauses = .ok clauses ∧
      statement.query.bindings = (clauses.bound kind).map Prod.snd ∧
      statement.query.text.toList.count '?' = statement.query.bindings.length ∧
      ∀ (i : Nat) (h : i < (clauses.bound kind).length),
        PlaceholderOf statement.query.text i (clauses.bound kind)[i].1 := by
  obtain ⟨kind, table, clauses, parts⟩ := statement_eq_ok.mp accepted
  have zero : ∀ name ∈ statement.names, markCount name = 0 := fun name hname =>
    markCount_eq_zero.mpr (unmarked name hname)
  have both : statement.bindings = (clauses.bound kind).map Prod.snd ∧
      Placed statement.text ((clauses.bound kind).map Prod.fst) := by
    cases parts.made with
    | select ordered =>
      exact ⟨by rw [Statement.bindings_select, Row.values_ofEntries]; rfl,
        Statement.placed_select zero⟩
    | delete =>
      exact ⟨by rw [Statement.bindings_delete, Row.values_ofEntries]; rfl,
        Statement.placed_delete zero⟩
    | insert given texts | insertOrReplace given texts =>
      obtain ⟨labels, hkeys, hcolumns, hvalues⟩ := Row.exists_labels_of_ofTextEntries texts
      refine ⟨by rw [Statement.bindings_insert, hvalues]; rfl, ?_⟩
      simp only [Clauses.bound, hkeys]
      exact Statement.placed_insert hcolumns zero
    | update given =>
      refine ⟨?_, Statement.placed_update given zero⟩
      rw [Statement.bindings_update, Row.values_ofEntries, Row.values_ofEntries]
      simp [Clauses.bound]
    | upsert given changes filtered targeted texts =>
      obtain ⟨labels, hkeys, hcolumns, hvalues⟩ := Row.exists_labels_of_ofTextEntries texts
      constructor
      · rw [Statement.bindings_upsert, hvalues, Row.values_ofEntries, Row.values_ofEntries]
        simp [Clauses.bound]
      · have placed := Statement.placed_upsert hcolumns changes zero
        rw [← hkeys] at placed
        simpa [Clauses.bound] using placed
  obtain ⟨bindings, placed⟩ := both
  refine ⟨kind, clauses, parts.kind_eq, parts.clauses_eq, bindings, ?_, ?_⟩
  · change markCount statement.text = statement.bindings.length
    rw [placed.count, bindings, List.length_map, List.length_map]
  · intro i h
    have place := placed.place i (by rwa [List.length_map])
    rwa [List.getElem_map] at place

/-- A user is inserted, or renamed where the id is taken. -/
def renamingUpsert : Request where
  kind := .label (.statementKind .upsert)
  table := .text "users"
  clauses := .clauses (.map [(.text "id", .int 1)])
    (.map [(.text "id", .int 1), (.text "name", .text "ann")]) (.map [(.text "name", .text "bea")])
    .null .null .null
  target := .text "id"

/-- The statement of the upsert. -/
def renamingUpsertStatement : Statement :=
  .upsert "users" [("id", .int 1), ("name", .text "ann")] ["id"] [("name", .text "bea")]
    [("id", .int 1)]

theorem placeholders_of_renamingUpsert :
    renamingUpsert.statement = .ok renamingUpsertStatement ∧
      (∀ name ∈ renamingUpsertStatement.names, '?' ∉ name.toList) ∧
      ∃ kind clauses, StatementKind.ofValue renamingUpsert.kind = .ok kind ∧
        Clauses.ofValue renamingUpsert.clauses = .ok clauses ∧
        renamingUpsertStatement.query.bindings = (clauses.bound kind).map Prod.snd ∧
        renamingUpsertStatement.query.text.toList.count '?'
          = renamingUpsertStatement.query.bindings.length ∧
        ∀ (i : Nat) (h : i < (clauses.bound kind).length),
          PlaceholderOf renamingUpsertStatement.query.text i (clauses.bound kind)[i].1 :=
  ⟨rfl, by decide, placeholders_agree_with_bindings rfl (by decide)⟩

end Request

end TableModel
