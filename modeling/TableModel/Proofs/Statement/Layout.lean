/-
# TableModel.Proofs.Statement.Layout — a statement's text determines its layout

The layout of a statement is the statement without the values: its kind, its table, and the names
and terms of each clause in their order. Names are identifiers here, so that a blank, a quotation
mark or a bracket ends them. Under that condition the text of a layout can be read back, piece by
piece from the left, and two layouts with one text are the same. Columns that are spelled like
keywords are no trouble: a keyword of a clause stands where the clause before it has ended.
-/
import TableModel.Proofs.Statement.Shape
import TableModel.Proofs.Text.SelfDelimiting

namespace TableModel

open Text

/-! ## Clauses -/

namespace Row

theorem selfDelimiting_equationText :
    SelfDelimiting (fun column => (equationText column).toList)
      (fun column => isIdentifier column = true) (fun _ => True) := by
  have h := SelfDelimiting.identifier.before " = ?".toList (by intro r; simp [isWordChar])
  simpa only [equationText, String.toList_append] using h

theorem toList_changeText (columns : List String) :
    (changeText columns).toList
      = SelfDelimiting.writeJoined ", ".toList (fun column => (equationText column).toList) columns := by
  simp [changeText, SelfDelimiting.writeJoined, String.toList_intercalate, Function.comp_def]

theorem toList_filterText (columns : List String) :
    (filterText columns).toList
      = SelfDelimiting.writeClause " WHERE ".toList " AND ".toList
          (fun column => (equationText column).toList) columns := by
  cases columns with
  | nil => rfl
  | cons column columns =>
    simp [filterText, SelfDelimiting.writeClause, SelfDelimiting.writeJoined,
      String.toList_intercalate, Function.comp_def]

/-- Columns to change, before a rest that does not go on with a comma. -/
theorem selfDelimiting_changeText :
    SelfDelimiting (fun columns => (changeText columns).toList)
      (fun columns => columns ≠ [] ∧ ∀ column ∈ columns, isIdentifier column = true)
      (fun r => ¬ ", ".toList <+: r) := by
  have h := selfDelimiting_equationText.joined ", ".toList fun _ => trivial
  simpa only [toList_changeText, true_and] using h

/-- A filter, before a rest that goes on neither with a condition nor with another filter. -/
theorem selfDelimiting_filterText :
    SelfDelimiting (fun columns => (filterText columns).toList)
      (fun columns => ∀ column ∈ columns, isIdentifier column = true)
      (fun r => ¬ " AND ".toList <+: r ∧ ¬ " WHERE ".toList <+: r) := by
  have h := selfDelimiting_equationText.clause " WHERE ".toList " AND ".toList fun _ => trivial
  simpa only [toList_filterText, true_and] using h

/-- A row to insert says by itself where it ends, since the columns fix the placeholders. -/
theorem selfDelimiting_insertText :
    SelfDelimiting (fun columns => (insertText columns).toList)
      (fun columns => columns ≠ [] ∧ ∀ column ∈ columns, isIdentifier column = true)
      (fun _ => True) := by
  intro a b r s ha hb _ _ same
  simp only [insertText, String.toList_append, List.append_assoc] at same
  obtain ⟨rfl, hrest⟩ := SelfDelimiting.names ha hb (by simp [isWordChar]) (by simp [isWordChar])
    (List.append_cancel_left same)
  exact ⟨rfl, by simpa using hrest⟩

end Row

/-- An ordering term, before a rest that goes on with none of its keywords. -/
theorem OrderTerm.selfDelimiting_text :
    SelfDelimiting (fun term : OrderTerm => term.text.toList)
      (fun term => isIdentifier term.column = true)
      (fun r => ¬ " DESC".toList <+: r ∧ ¬ " NULLS LAST".toList <+: r) := by
  intro a b r s ha hb hr hs same
  obtain ⟨column, descending, nullsLast⟩ := a
  obtain ⟨column', descending', nullsLast'⟩ := b
  simp only [OrderTerm.text, String.toList_append, apply_ite String.toList, List.append_assoc]
    at same
  -- the column ends at the closing quotation mark, the flags at the next keyword
  have quoted : ∀ rest, Stops isWordChar ("\"".toList ++ rest) := by simp [isWordChar]
  obtain ⟨rfl, hname⟩ := SelfDelimiting.identifier ha hb (quoted _) (quoted _)
    (List.append_cancel_left same)
  have starts : ∀ (present : Bool) {rest : List Char}, ¬ " DESC".toList <+: rest →
      ¬ " DESC".toList <+: (if present = true then " NULLS LAST".toList else "".toList) ++ rest := by
    intro present rest h
    cases present
    · simpa using h
    · simp
  obtain ⟨rfl, hdescending⟩ := SelfDelimiting.flag " DESC".toList trivial trivial (starts _ hr.1)
    (starts _ hs.1) (List.append_cancel_left hname)
  obtain ⟨rfl, hnulls⟩ := SelfDelimiting.flag " NULLS LAST".toList trivial trivial hr.2 hs.2
    hdescending
  exact ⟨rfl, hnulls⟩

/-- Ordering terms as a clause; no terms, no clause. -/
def OrderTerm.clauseText : List OrderTerm → String
  | [] => ""
  | terms => " ORDER BY " ++ String.intercalate ", " (terms.map OrderTerm.text)

theorem OrderTerm.toList_clauseText (terms : List OrderTerm) :
    (clauseText terms).toList
      = SelfDelimiting.writeClause " ORDER BY ".toList ", ".toList
          (fun term => (OrderTerm.text term).toList) terms := by
  cases terms with
  | nil => rfl
  | cons term terms =>
    simp [clauseText, SelfDelimiting.writeClause, SelfDelimiting.writeJoined,
      String.toList_intercalate, Function.comp_def]

/-- An ordering, before a page or nothing. -/
theorem OrderTerm.selfDelimiting_clauseText :
    SelfDelimiting (fun terms => (clauseText terms).toList)
      (fun terms => ∀ term ∈ terms, isIdentifier term.column = true)
      (fun r => (¬ " DESC".toList <+: r ∧ ¬ " NULLS LAST".toList <+: r) ∧
        ¬ ", ".toList <+: r ∧ ¬ " ORDER BY ".toList <+: r) := by
  have h := OrderTerm.selfDelimiting_text.clause " ORDER BY ".toList ", ".toList (by simp)
  simpa only [toList_clauseText] using h

/-- The characters of a limit and of the offset behind it, if there is one. -/
def Page.write (page : Page) : List Char :=
  (toString page.limit).toList
    ++ SelfDelimiting.writeOption " OFFSET ".toList (fun n => (toString n).toList) page.offset

/-- A page, before a rest that goes on neither with a digit nor with an offset. -/
theorem Page.selfDelimiting_write :
    SelfDelimiting Page.write (fun _ => True)
      (fun r => Stops Char.isDigit r ∧ ¬ " OFFSET ".toList <+: r) := by
  have offset := SelfDelimiting.digits.option " OFFSET ".toList
  have counts := SelfDelimiting.digits.pair offset ?_
  · intro page other r s _ _ hr hs same
    obtain ⟨heq, hrest⟩ := @counts (page.limit, page.offset) (other.limit, other.offset) r s
      ⟨trivial, fun _ _ => trivial⟩ ⟨trivial, fun _ _ => trivial⟩ hr hs same
    obtain ⟨limit, offset⟩ := page
    obtain ⟨rfl, rfl⟩ := Prod.mk.inj heq
    exact ⟨rfl, hrest⟩
  · -- an offset starts with a blank, so the digits of the limit end there
    intro offset r _ hr
    cases offset with
    | none => exact hr.1
    | some n => exact stops_cons.mpr (by decide)

theorem Statement.toList_pageText (page : Option Page) :
    (pageText page).toList = SelfDelimiting.writeOption " LIMIT ".toList Page.write page := by
  match page with
  | none => rfl
  | some ⟨limit, none⟩ => simp [pageText, SelfDelimiting.writeOption, Page.write]
  | some ⟨limit, some offset⟩ => simp [pageText, SelfDelimiting.writeOption, Page.write]

/-- Two pages with one text are the same page. -/
theorem Statement.pageText_injective : Function.Injective Statement.pageText := by
  intro page other same
  have written := congrArg String.toList same
  rw [toList_pageText, toList_pageText] at written
  exact (Page.selfDelimiting_write.option " LIMIT ".toList).eq_of_eq
    ⟨⟨stops_nil _, by decide⟩, by decide⟩ (fun _ _ => trivial) (fun _ _ => trivial) written

/-! ## Layouts -/

/-- A statement without its values. -/
inductive Layout where
  | select (table : String) (filter : List String) (order : List OrderTerm) (page : Option Page)
  | delete (table : String) (filter : List String)
  | insert (replace : Bool) (table : String) (columns : List String)
  | update (table : String) (changes filter : List String)
  | upsert (table : String) (columns target changes filter : List String)
  deriving DecidableEq, Repr, Inhabited

namespace Layout

/-- The text up to the name of the table. -/
def opening : Layout → String
  | select .. => "SELECT * FROM `"
  | delete .. => "DELETE FROM `"
  | insert replace _ _ => if replace then "INSERT or REPLACE INTO `" else "INSERT INTO `"
  | update .. => "UPDATE `"
  | upsert .. => "INSERT INTO `"

/-- The kind of statement. -/
def kind : Layout → StatementKind
  | select .. => .select
  | delete .. => .delete
  | insert replace _ _ => if replace then .insertOrReplace else .insert
  | update .. => .update
  | upsert .. => .upsert

/-- The table. -/
def table : Layout → String
  | select t _ _ _ => t
  | delete t _ => t
  | insert _ t _ => t
  | update t _ _ => t
  | upsert t _ _ _ _ => t

/-- The text from the name of the table on. -/
def body : Layout → String
  | select _ filter order page =>
    "`" ++ Row.filterText filter ++ OrderTerm.clauseText order ++ Statement.pageText page
  | delete _ filter => "`" ++ Row.filterText filter
  | insert _ _ columns => "` " ++ Row.insertText columns
  | update _ changes filter => "` SET " ++ Row.changeText changes ++ Row.filterText filter
  | upsert _ columns target changes filter =>
    "` " ++ Row.insertText columns ++ " ON CONFLICT (" ++ String.intercalate ", " target
      ++ ") DO UPDATE SET " ++ Row.changeText changes ++ Row.filterText filter

/-- The text of a layout. -/
def text (layout : Layout) : String :=
  layout.opening ++ layout.table ++ layout.body

/-- All names are identifiers, and lists that are written without a keyword are not empty. -/
def Plain (layout : Layout) : Prop :=
  isIdentifier layout.table = true ∧
    match layout with
    | select _ filter order _ =>
      (∀ column ∈ filter, isIdentifier column = true) ∧
        ∀ term ∈ order, isIdentifier term.column = true
    | delete _ filter => ∀ column ∈ filter, isIdentifier column = true
    | insert _ _ columns => columns ≠ [] ∧ ∀ column ∈ columns, isIdentifier column = true
    | update _ changes filter =>
      (changes ≠ [] ∧ ∀ column ∈ changes, isIdentifier column = true) ∧
        ∀ column ∈ filter, isIdentifier column = true
    | upsert _ columns target changes filter =>
      (columns ≠ [] ∧ ∀ column ∈ columns, isIdentifier column = true) ∧
        (target ≠ [] ∧ ∀ name ∈ target, isIdentifier name = true) ∧
        (changes ≠ [] ∧ ∀ column ∈ changes, isIdentifier column = true) ∧
        ∀ column ∈ filter, isIdentifier column = true

/-! ## Reading a layout back -/

/-- Texts that start with two openings start with one opening. -/
theorem opening_eq {a b : Layout} {r s : List Char}
    (same : a.opening.toList ++ r = b.opening.toList ++ s) : a.opening = b.opening := by
  rcases a with _ | _ | ⟨_ | _, _, _⟩ | _ | _ <;> rcases b with _ | _ | ⟨_ | _, _, _⟩ | _ | _ <;>
    simp [opening] at same ⊢

/-- The body goes on with a character that is none of the table's name. -/
theorem stops_body (layout : Layout) : Stops isWordChar layout.body.toList := by
  cases layout <;> simp [body, isWordChar]

/-- Opening, table and body of a text are determined one after the other. -/
theorem parts_eq {a b : Layout} (ha : a.Plain) (hb : b.Plain) (same : a.text = b.text) :
    a.opening = b.opening ∧ a.table = b.table ∧ a.body = b.body := by
  have same' := congrArg String.toList same
  simp only [text, String.toList_append, List.append_assoc] at same'
  -- insertions and upserts share their opening, so only the openings are compared here
  have hopening := opening_eq same'
  rw [hopening] at same'
  obtain ⟨htable, hbody⟩ := SelfDelimiting.identifier ha.1 hb.1 (stops_body a) (stops_body b)
    (List.append_cancel_left same')
  exact ⟨hopening, htable, String.toList_inj.mp hbody⟩

/-- What follows the filter of a selection is neither a condition nor a filter. -/
theorem not_prefix_tail (order : List OrderTerm) (page : Option Page) :
    ¬ " AND ".toList <+: (OrderTerm.clauseText order).toList ++ (Statement.pageText page).toList ∧
      ¬ " WHERE ".toList <+:
        (OrderTerm.clauseText order).toList ++ (Statement.pageText page).toList := by
  cases order <;> cases page <;> simp [OrderTerm.clauseText, Statement.pageText]

/-- What follows an ordering is no part of one. -/
theorem not_prefix_page (page : Option Page) :
    (¬ " DESC".toList <+: (Statement.pageText page).toList ∧
        ¬ " NULLS LAST".toList <+: (Statement.pageText page).toList) ∧
      ¬ ", ".toList <+: (Statement.pageText page).toList ∧
        ¬ " ORDER BY ".toList <+: (Statement.pageText page).toList := by
  cases page <;> simp [Statement.pageText]

/-- A filter at the end determines its columns. -/
theorem filter_eq {f g : List String} (hf : ∀ column ∈ f, isIdentifier column = true)
    (hg : ∀ column ∈ g, isIdentifier column = true)
    (same : (Row.filterText f).toList = (Row.filterText g).toList) : f = g :=
  Row.selfDelimiting_filterText.eq_of_eq (by simp) hf hg same

/-- Columns to change and a filter behind them. -/
theorem changes_eq {c d f g : List String}
    (hc : c ≠ [] ∧ ∀ column ∈ c, isIdentifier column = true)
    (hd : d ≠ [] ∧ ∀ column ∈ d, isIdentifier column = true)
    (hf : ∀ column ∈ f, isIdentifier column = true) (hg : ∀ column ∈ g, isIdentifier column = true)
    (same : (Row.changeText c).toList ++ (Row.filterText f).toList
      = (Row.changeText d).toList ++ (Row.filterText g).toList) : c = d ∧ f = g := by
  have noComma : ∀ columns : List String, ¬ ", ".toList <+: (Row.filterText columns).toList := by
    intro columns
    cases columns <;> simp [Row.filterText]
  obtain ⟨hchanges, hfilter⟩ := Row.selfDelimiting_changeText hc hd (noComma f) (noComma g) same
  exact ⟨hchanges, filter_eq hf hg hfilter⟩

variable {t t' : String}

theorem select_body_eq {f f' : List String} {o o' : List OrderTerm} {p p' : Option Page}
    (ha : (select t f o p).Plain) (hb : (select t' f' o' p').Plain)
    (same : (select t f o p).body = (select t' f' o' p').body) : f = f' ∧ o = o' ∧ p = p' := by
  have chars := congrArg String.toList same
  simp only [body, String.toList_append, List.append_assoc] at chars
  obtain ⟨hfilter, horder⟩ := Row.selfDelimiting_filterText ha.2.1 hb.2.1 (not_prefix_tail o p)
    (not_prefix_tail o' p') (List.append_cancel_left chars)
  obtain ⟨hterms, hpage⟩ := OrderTerm.selfDelimiting_clauseText ha.2.2 hb.2.2 (not_prefix_page p)
    (not_prefix_page p') horder
  exact ⟨hfilter, hterms, Statement.pageText_injective (String.toList_inj.mp hpage)⟩

theorem upsert_body_eq {c c' k k' d d' f f' : List String} (ha : (upsert t c k d f).Plain)
    (hb : (upsert t' c' k' d' f').Plain)
    (same : (upsert t c k d f).body = (upsert t' c' k' d' f').body) :
    c = c' ∧ k = k' ∧ d = d' ∧ f = f' := by
  have chars := congrArg String.toList same
  simp only [body, String.toList_append, List.append_assoc] at chars
  obtain ⟨hcolumns, htarget⟩ := Row.selfDelimiting_insertText ha.2.1 hb.2.1 trivial trivial
    (List.append_cancel_left chars)
  -- the names of the target end at the parenthesis
  have closed : ∀ rest, Stops isWordChar (") DO UPDATE SET ".toList ++ rest) ∧
      ¬ ", ".toList <+: ") DO UPDATE SET ".toList ++ rest := by
    simp [isWordChar]
  obtain ⟨hnames, hchanges⟩ := SelfDelimiting.names ha.2.2.1 hb.2.2.1 (closed _) (closed _)
    (List.append_cancel_left htarget)
  obtain ⟨hchanges, hfilter⟩ := changes_eq ha.2.2.2.1 hb.2.2.2.1 ha.2.2.2.2 hb.2.2.2.2
    (List.append_cancel_left hchanges)
  exact ⟨hcolumns, hnames, hchanges, hfilter⟩

/-- An upsert starts like an insertion and goes on where the insertion has ended. -/
theorem insert_body_ne_upsert {replace : Bool} {c c' k d f : List String}
    (ha : (insert replace t c).Plain) (hb : (upsert t' c' k d f).Plain) :
    (insert replace t c).body ≠ (upsert t' c' k d f).body := by
  intro same
  have chars := congrArg String.toList same
  simp only [body, String.toList_append, List.append_assoc] at chars
  replace chars := List.append_cancel_left chars
  rw [← List.append_nil (Row.insertText c).toList] at chars
  obtain ⟨-, hrest⟩ := Row.selfDelimiting_insertText ha.2 hb.2.1 trivial trivial chars
  simp at hrest

/-- Two layouts of identifiers with one text are the same. -/
theorem eq_of_text_eq {a b : Layout} (ha : a.Plain) (hb : b.Plain) (same : a.text = b.text) :
    a = b := by
  obtain ⟨hopening, htable, hbody⟩ := parts_eq ha hb same
  cases a with
  | select t f o p =>
    cases b with
    | select t' f' o' p' =>
      obtain ⟨rfl, rfl, rfl⟩ := select_body_eq ha hb hbody
      exact congrArg (select · f o p) htable
    | insert replace _ _ => cases replace <;> simp [opening] at hopening
    | _ => simp [opening] at hopening
  | delete t f =>
    cases b with
    | delete t' f' =>
      have chars := congrArg String.toList hbody
      simp only [body, String.toList_append] at chars
      obtain rfl := filter_eq ha.2 hb.2 (List.append_cancel_left chars)
      exact congrArg (delete · f) htable
    | insert replace _ _ => cases replace <;> simp [opening] at hopening
    | _ => simp [opening] at hopening
  | insert replace t c =>
    cases b with
    | insert replace' t' c' =>
      have chars := congrArg String.toList hbody
      simp only [body, String.toList_append] at chars
      obtain rfl := Row.selfDelimiting_insertText.eq_of_eq trivial ha.2 hb.2
        (List.append_cancel_left chars)
      obtain rfl : replace = replace' := by
        cases replace <;> cases replace' <;> simp [opening] at hopening ⊢
      exact congrArg (insert replace · c) htable
    | upsert t' c' k d f => exact absurd hbody (insert_body_ne_upsert ha hb)
    | _ => cases replace <;> simp [opening] at hopening
  | update t c f =>
    cases b with
    | update t' c' f' =>
      have chars := congrArg String.toList hbody
      simp only [body, String.toList_append, List.append_assoc] at chars
      obtain ⟨rfl, rfl⟩ := changes_eq ha.2.1 hb.2.1 ha.2.2 hb.2.2 (List.append_cancel_left chars)
      exact congrArg (update · c f) htable
    | insert replace _ _ => cases replace <;> simp [opening] at hopening
    | _ => simp [opening] at hopening
  | upsert t c k d f =>
    cases b with
    | upsert t' c' k' d' f' =>
      obtain ⟨rfl, rfl, rfl, rfl⟩ := upsert_body_eq ha hb hbody
      exact congrArg (upsert · c k d f) htable
    | insert replace t' c' => exact absurd hbody.symm (insert_body_ne_upsert hb ha)
    | _ => simp [opening] at hopening

end Layout

end TableModel
