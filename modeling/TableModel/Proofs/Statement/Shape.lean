/-
# TableModel.Proofs.Statement.Shape — the text and the bindings of each kind of statement

A statement is made of fragments. Here the fragments are put together once: for each kind, its text
is an expression of names, joined lists and optional clauses, and its bindings are the values of its
rows one after the other. What is proved about texts and bindings elsewhere starts from these
equations and does not look at fragments again.
-/
import TableModel.Statement.Basic

namespace TableModel

namespace Fragment

@[simp] theorem shown_text (piece : String) : (Fragment.text piece).shown = piece := rfl

@[simp] theorem shown_slot (value : Value) : (Fragment.slot value).shown = "?" := rfl

@[simp] theorem separated_nil (separator : String) : separated separator [] = [] := rfl

@[simp] theorem separated_singleton (separator : String) (part : List Fragment) :
    separated separator [part] = part := by
  simp [separated]

@[simp] theorem separated_cons_cons (separator : String) (part next : List Fragment)
    (parts : List (List Fragment)) :
    separated separator (part :: next :: parts)
      = part ++ .text separator :: separated separator (next :: parts) := by
  simp [separated]

/-- Separated fragments show their parts with the separator between each two. -/
theorem render_separated (separator : String) (parts : List (List Fragment)) :
    render (separated separator parts) = separator.intercalate (parts.map render) := by
  induction parts with
  | nil => simp
  | cons part parts ih =>
    cases parts with
    | nil => simp
    | cons next parts =>
      rw [separated_cons_cons, render_append, render_cons, ih]
      simp [String.append_assoc]

/-- A separator binds nothing. -/
theorem bindings_separated (separator : String) (parts : List (List Fragment)) :
    bindings (separated separator parts) = parts.flatMap bindings := by
  induction parts with
  | nil => simp
  | cons part parts ih =>
    cases parts with
    | nil => simp
    | cons next parts =>
      rw [separated_cons_cons, bindings_append, bindings_text, ih, List.flatMap_cons (x := part)]

end Fragment

namespace Row

/-! ## The pieces of a row -/

/-- The names of the columns of a row. -/
def columns (row : Row) : List String :=
  row.map Prod.fst

/-- The values of a row. -/
def values (row : Row) : List Value :=
  row.map Prod.snd

/-- A column and a placeholder. -/
def equationText (column : String) : String :=
  column ++ " = ?"

/-- Columns to change. -/
def changeText (columns : List String) : String :=
  String.intercalate ", " (columns.map equationText)

/-- The filter with these columns. -/
def filterText : List String → String
  | [] => ""
  | columns => " WHERE " ++ String.intercalate " AND " (columns.map equationText)

/-- Columns and as many placeholders. -/
def insertText (columns : List String) : String :=
  "(" ++ String.intercalate ", " columns ++ ") VALUES ("
    ++ String.intercalate ", " (List.replicate columns.length "?") ++ ")"

@[simp] theorem render_equation (entry : String × Value) :
    Fragment.render (equation entry) = equationText entry.1 := by
  simp [equation, equationText, String.append_assoc]

@[simp] theorem render_changeFragments (row : Row) :
    Fragment.render row.changeFragments = changeText row.columns := by
  simp [changeFragments, Fragment.render_separated, changeText, columns, Function.comp_def]

@[simp] theorem render_filterFragments (row : Row) :
    Fragment.render row.filterFragments = filterText row.columns := by
  cases row with
  | nil => rfl
  | cons entry rest =>
    simp [filterFragments, Fragment.render_separated, filterText, columns, Function.comp_def]

@[simp] theorem render_insertFragments (row : Row) :
    Fragment.render row.insertFragments = insertText row.columns := by
  simp [insertFragments, Fragment.render_separated, insertText, columns, Function.comp_def,
    List.map_const', String.append_assoc]

theorem values_eq_flatMap (row : Row) : row.values = row.flatMap fun entry => [entry.2] :=
  List.map_eq_flatMap

@[simp] theorem bindings_changeFragments (row : Row) :
    Fragment.bindings row.changeFragments = row.values := by
  rw [changeFragments, Fragment.bindings_separated, List.flatMap_map, values_eq_flatMap]
  rfl

@[simp] theorem bindings_filterFragments (row : Row) :
    Fragment.bindings row.filterFragments = row.values := by
  cases row with
  | nil => rfl
  | cons entry rest =>
    have h := bindings_changeFragments (entry :: rest)
    rw [changeFragments, Fragment.bindings_separated] at h
    rw [filterFragments, Fragment.bindings_text, Fragment.bindings_separated, h]

@[simp] theorem bindings_insertFragments (row : Row) :
    Fragment.bindings row.insertFragments = row.values := by
  rw [insertFragments, Fragment.bindings_text, Fragment.bindings_append,
    Fragment.bindings_separated, List.flatMap_map, values_eq_flatMap]
  exact List.append_nil _

end Row

namespace Statement

/-! ## The shapes -/

variable (table : String)

theorem text_select (filter : Row) (order : Option OrderSpec) (page : Option Page) :
    (select table filter order page).text
      = "SELECT * FROM `" ++ table ++ "`" ++ Row.filterText filter.columns ++ orderText order
        ++ pageText page := by
  simp [text, fragments, String.append_assoc]

theorem text_delete (filter : Row) :
    (delete table filter).text = "DELETE FROM `" ++ table ++ "`" ++ Row.filterText filter.columns := by
  simp [text, fragments, String.append_assoc]

theorem text_insert (replace : Bool) (row : Row) :
    (insert replace table row).text
      = (if replace then "INSERT or REPLACE INTO `" else "INSERT INTO `") ++ table ++ "` "
        ++ Row.insertText row.columns := by
  simp [text, fragments, String.append_assoc]

theorem text_update (changes filter : Row) :
    (update table changes filter).text
      = "UPDATE `" ++ table ++ "` SET " ++ Row.changeText changes.columns
        ++ Row.filterText filter.columns := by
  simp [text, fragments, String.append_assoc]

theorem text_upsert (row : Row) (target : List String) (changes filter : Row) :
    (upsert table row target changes filter).text
      = "INSERT INTO `" ++ table ++ "` " ++ Row.insertText row.columns ++ " ON CONFLICT ("
        ++ String.intercalate ", " target ++ ") DO UPDATE SET " ++ Row.changeText changes.columns
        ++ Row.filterText filter.columns := by
  simp [text, fragments, String.append_assoc]

@[simp] theorem bindings_select (filter : Row) (order : Option OrderSpec) (page : Option Page) :
    (select table filter order page).bindings = filter.values := by
  simp [bindings, fragments]

@[simp] theorem bindings_delete (filter : Row) :
    (delete table filter).bindings = filter.values := by
  simp [bindings, fragments]

@[simp] theorem bindings_insert (replace : Bool) (row : Row) :
    (insert replace table row).bindings = row.values := by
  simp [bindings, fragments]

@[simp] theorem bindings_update (changes filter : Row) :
    (update table changes filter).bindings = changes.values ++ filter.values := by
  simp [bindings, fragments]

@[simp] theorem bindings_upsert (row : Row) (target : List String) (changes filter : Row) :
    (upsert table row target changes filter).bindings
      = row.values ++ (changes.values ++ filter.values) := by
  simp [bindings, fragments]

end Statement

end TableModel
