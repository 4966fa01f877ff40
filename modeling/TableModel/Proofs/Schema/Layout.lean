/-
# TableModel.Proofs.Schema.Layout — the text of a table's statement determines the statement

The statement that creates a table is a list of parts, clauses of columns first and constraints of
the table behind them. Both kinds of parts start with a word, and a column may well be called
`PRIMARY` or `UNIQUE`: what tells them apart is the second word, which is a type in lower case for a
column. A part ends at a comma or at the closing parenthesis, and since literals hold neither of
them outside of strings, the parts can be read back one by one.
-/
import TableModel.Proofs.Schema.Literal

namespace TableModel

open Text

/-! ## Columns -/

/-- The name of a clause is an identifier and its default value a literal. -/
structure ColumnClause.Plain (clause : ColumnClause) : Prop where
  name : isIdentifier clause.name = true
  default : ∀ literal, clause.default = some literal → IsLiteral literal

/-- A comma or a closing parenthesis is no character of a word. -/
theorem stops_word_of_bare {rest : List Char} (h : Stops isBareChar rest) : Stops isWordChar rest :=
  h.mono fun c hc => by
    have comma : c ≠ ',' := ne_of_test hc (by decide)
    have parenthesis : c ≠ ')' := ne_of_test hc (by decide)
    simp [isBareChar, comma, parenthesis]

/-- Nor is a blank. -/
theorem stops_word_of_blank (rest : List Char) : Stops isWordChar (" ".toList ++ rest) := by
  simp [isWordChar]

/-- What may stand behind the type of a column: three flags and a default value. -/
abbrev ColumnClause.Extras := Bool × Bool × Bool × Option String

/-- The characters of the flags and the default value of a column. -/
def ColumnClause.writeExtras (extras : Extras) : List Char :=
  (if extras.1 then " PRIMARY KEY AUTOINCREMENT".toList else [])
    ++ ((if extras.2.1 then " NOT NULL".toList else [])
      ++ ((if extras.2.2.1 then " UNIQUE".toList else [])
        ++ SelfDelimiting.writeOption " DEFAULT ".toList String.toList extras.2.2.2))

/-- Flags and default value, before a comma, a closing parenthesis or nothing. -/
theorem ColumnClause.selfDelimiting_writeExtras :
    SelfDelimiting writeExtras
      (fun extras => True ∧ True ∧ True ∧ ∀ literal ∈ extras.2.2.2, IsLiteral literal)
      (Stops isBareChar) := by
  have default := (selfDelimiting_literal.option " DEFAULT ".toList).mono (fun _ h => h)
    fun r (hr : Stops isBareChar r) => ⟨hr, hr.not_prefix (by decide)⟩
  -- from the back, since each flag has to know what may come behind it
  have unique := (SelfDelimiting.flag " UNIQUE".toList).pair default ?_
  have notNull := (SelfDelimiting.flag " NOT NULL".toList).pair unique ?_
  have autoIncrement := (SelfDelimiting.flag " PRIMARY KEY AUTOINCREMENT".toList).pair notNull ?_
  · exact autoIncrement
  · rintro ⟨notNull, unique, default⟩ r - hr
    cases notNull
    · cases unique
      · cases default with
        | none => exact hr.not_prefix (by decide)
        | some literal => exact not_prefix_of_ne (by decide)
      · exact not_prefix_of_ne (by decide)
    · exact not_prefix_of_ne (by decide)
  · rintro ⟨unique, default⟩ r - hr
    cases unique
    · cases default with
      | none => exact hr.not_prefix (by decide)
      | some literal => exact not_prefix_of_ne (by decide)
    · exact not_prefix_of_ne (by decide)
  · rintro default r - hr
    cases default with
    | none => exact hr.not_prefix (by decide)
    | some literal => exact not_prefix_of_ne (by decide)

theorem ColumnClause.toList_text (clause : ColumnClause) :
    clause.text.toList = clause.name.toList ++ (" ".toList ++ (clause.type.word.toList
      ++ writeExtras (clause.autoIncrement, clause.notNull, clause.unique, clause.default))) := by
  obtain ⟨name, type, autoIncrement, notNull, unique, default⟩ := clause
  cases default <;>
    simp only [text, writeExtras, SelfDelimiting.writeOption, String.toList_append, String.toList_empty,
      apply_ite String.toList, List.append_assoc, List.append_nil]

/-- What stands behind the type of a column goes on with a blank, if it goes on at all. -/
theorem ColumnClause.stops_writeExtras (extras : Extras) {rest : List Char}
    (h : Stops isBareChar rest) : Stops isWordChar (writeExtras extras ++ rest) := by
  obtain ⟨autoIncrement, notNull, unique, default⟩ := extras
  cases autoIncrement
  · cases notNull
    · cases unique
      · cases default with
        | none => exact stops_word_of_bare h
        | some literal => exact stops_cons.mpr (by decide)
      · exact stops_cons.mpr (by decide)
    · exact stops_cons.mpr (by decide)
  · exact stops_cons.mpr (by decide)

theorem ColumnType.isIdentifier_word (type : ColumnType) : isIdentifier type.word = true := by
  cases type <;> decide

/-- The clause of a column, before a comma, a closing parenthesis or nothing. -/
theorem ColumnClause.selfDelimiting_text :
    SelfDelimiting (fun clause : ColumnClause => clause.text.toList) Plain (Stops isBareChar) := by
  intro a b r s ha hb hr hs same
  simp only [toList_text, List.append_assoc] at same
  obtain ⟨hname, htype⟩ := SelfDelimiting.identifier ha.name hb.name (stops_word_of_blank _)
    (stops_word_of_blank _) same
  obtain ⟨hword, hextras⟩ := SelfDelimiting.identifier a.type.isIdentifier_word
    b.type.isIdentifier_word (stops_writeExtras _ hr) (stops_writeExtras _ hs)
    (List.append_cancel_left htype)
  obtain ⟨hextras, hrest⟩ := selfDelimiting_writeExtras ⟨trivial, trivial, trivial, ha.default⟩
    ⟨trivial, trivial, trivial, hb.default⟩ hr hs hextras
  obtain ⟨name, type, autoIncrement, notNull, unique, default⟩ := a
  obtain ⟨name', type', autoIncrement', notNull', unique', default'⟩ := b
  obtain rfl : type = type' := ColumnType.word_inj.mp hword
  simp only [Prod.mk.injEq] at hextras hname
  obtain ⟨rfl, rfl, rfl, rfl⟩ := hextras
  subst hname
  exact ⟨rfl, hrest⟩

/-! ## Constraints -/

namespace TableConstraint

/-- The columns of a constraint. -/
def columns : TableConstraint → List String
  | primaryKey columns => columns
  | unique columns => columns

/-- The first word of a constraint. -/
def firstWord : TableConstraint → String
  | primaryKey _ => "PRIMARY"
  | unique _ => "UNIQUE"

/-- What stands between the first word and the columns. -/
def opening : TableConstraint → String
  | primaryKey _ => "KEY ("
  | unique _ => "("

/-- A constraint has columns, and their names are identifiers. -/
def Plain (constraint : TableConstraint) : Prop :=
  constraint.columns ≠ [] ∧ ∀ column ∈ constraint.columns, isIdentifier column = true

theorem toList_text (constraint : TableConstraint) :
    constraint.text.toList = constraint.firstWord.toList ++ (" ".toList ++ (constraint.opening.toList
      ++ ((String.intercalate ", " constraint.columns).toList ++ ")".toList))) := by
  cases constraint <;> simp [text, firstWord, opening, columns]

theorem isIdentifier_firstWord (constraint : TableConstraint) :
    isIdentifier constraint.firstWord = true := by
  cases constraint with
  | primaryKey columns =>
    show isIdentifier "PRIMARY" = true
    decide
  | unique columns =>
    show isIdentifier "UNIQUE" = true
    decide

/-- The first word and the columns are all there is to a constraint. -/
theorem eq_of_firstWord_eq {a b : TableConstraint} (word : a.firstWord = b.firstWord)
    (same : a.columns = b.columns) : a = b := by
  cases a with
  | primaryKey columns =>
    cases b with
    | primaryKey others => exact congrArg primaryKey same
    | unique others => simp [firstWord] at word
  | unique columns =>
    cases b with
    | primaryKey others => simp [firstWord] at word
    | unique others => exact congrArg unique same

/-- A constraint, whatever comes behind it. -/
theorem selfDelimiting_text :
    SelfDelimiting (fun constraint : TableConstraint => constraint.text.toList) Plain
      (fun _ => True) := by
  intro a b r s ha hb _ _ same
  have closed : ∀ rest, Stops isWordChar (")".toList ++ rest) ∧ ¬ ", ".toList <+: ")".toList ++ rest := by
    simp [isWordChar]
  simp only [toList_text, List.append_assoc] at same
  obtain ⟨word, hopening⟩ := SelfDelimiting.identifier a.isIdentifier_firstWord
    b.isIdentifier_firstWord (stops_word_of_blank _) (stops_word_of_blank _) same
  -- the first word decides what comes before the columns
  have opening : a.opening = b.opening := by
    cases a <;> cases b <;> simp [firstWord, opening] at word ⊢
  rw [opening] at hopening
  obtain ⟨hcolumns, hrest⟩ := SelfDelimiting.names ha hb (closed r) (closed s)
    (List.append_cancel_left (List.append_cancel_left hopening))
  exact ⟨eq_of_firstWord_eq word hcolumns, List.append_cancel_left hrest⟩

end TableConstraint

/-! ## Parts -/

/-- A part of a statement: the clause of a column or a constraint of the table. -/
abbrev CreateTable.Part := ColumnClause ⊕ TableConstraint

namespace CreateTable

/-- The text of a part. -/
def Part.text : Part → String
  | .inl clause => clause.text
  | .inr constraint => constraint.text

/-- The names of a part are identifiers, and its default value a literal. -/
def Part.Plain : Part → Prop
  | .inl clause => clause.Plain
  | .inr constraint => constraint.Plain

/-- The second word of a column is a type in lower case, that of a constraint is not. -/
theorem column_append_ne_constraint {clause : ColumnClause} {constraint : TableConstraint}
    (plain : clause.Plain) {r s : List Char} :
    clause.text.toList ++ r ≠ constraint.text.toList ++ s := by
  intro same
  rw [ColumnClause.toList_text, TableConstraint.toList_text] at same
  simp only [List.append_assoc] at same
  obtain ⟨-, hsecond⟩ := SelfDelimiting.identifier plain.name constraint.isIdentifier_firstWord
    (stops_word_of_blank _) (stops_word_of_blank _) same
  -- the second words differ in their first character already
  have heads := congrArg List.head? (List.append_cancel_left hsecond)
  cases htype : clause.type <;> cases constraint <;>
    simp [htype, ColumnType.word, TableConstraint.opening] at heads

/-- A part, before a comma, a closing parenthesis or nothing. -/
theorem Part.selfDelimiting_text :
    SelfDelimiting (fun part : Part => part.text.toList) Plain (Stops isBareChar) := by
  intro a b r s ha hb hr hs same
  match a, b with
  | .inl clause, .inl other =>
    obtain ⟨rfl, hrest⟩ := ColumnClause.selfDelimiting_text ha hb hr hs same
    exact ⟨rfl, hrest⟩
  | .inl clause, .inr constraint => exact absurd same (column_append_ne_constraint ha)
  | .inr constraint, .inl clause => exact absurd same.symm (column_append_ne_constraint hb)
  | .inr constraint, .inr other =>
    obtain ⟨rfl, hrest⟩ := TableConstraint.selfDelimiting_text ha hb trivial trivial same
    exact ⟨rfl, hrest⟩

/-! ## Statements -/

/-- Columns and constraints, in the order of the text. -/
def allParts (statement : CreateTable) : List Part :=
  statement.columns.map .inl ++ statement.constraints.map .inr

theorem columns_allParts (statement : CreateTable) :
    statement.allParts.filterMap Sum.getLeft? = statement.columns := by
  have others : ∀ constraints : List TableConstraint,
      (constraints.map (Sum.inr : TableConstraint → Part)).filterMap Sum.getLeft? = [] := by
    intro constraints
    simp [List.filterMap_eq_nil_iff]
  rw [allParts, List.filterMap_append, others, List.append_nil, List.filterMap_map]
  exact List.filterMap_some

theorem constraints_allParts (statement : CreateTable) :
    statement.allParts.filterMap Sum.getRight? = statement.constraints := by
  have others : ∀ columns : List ColumnClause,
      (columns.map (Sum.inl : ColumnClause → Part)).filterMap Sum.getRight? = [] := by
    intro columns
    simp [List.filterMap_eq_nil_iff]
  rw [allParts, List.filterMap_append, others, List.nil_append, List.filterMap_map]
  exact List.filterMap_some

/-- There are columns, all names are identifiers, and default values are literals. -/
structure Plain (statement : CreateTable) : Prop where
  table : isIdentifier statement.table = true
  given : statement.columns ≠ []
  columns : ∀ clause ∈ statement.columns, clause.Plain
  constraints : ∀ constraint ∈ statement.constraints, constraint.Plain

theorem toList_joinedParts (statement : CreateTable) :
    (String.intercalate ", " statement.parts).toList
      = SelfDelimiting.writeJoined ", ".toList (fun part : Part => part.text.toList)
          statement.allParts := by
  have parts : statement.parts = statement.allParts.map Part.text := by
    simp [CreateTable.parts, allParts, Part.text, Function.comp_def]
  rw [parts, String.toList_intercalate, List.map_map, SelfDelimiting.writeJoined, Function.comp_def]

theorem toList_text (statement : CreateTable) :
    statement.text.toList = "CREATE TABLE `".toList ++ (statement.table.toList ++ ("` (".toList
      ++ ((String.intercalate ", " statement.parts).toList
      ++ (")".toList ++ ((if statement.withoutRowid then " WITHOUT ROWID".toList else [])
      ++ ";".toList))))) := by
  have suffix : (if statement.withoutRowid = true then " WITHOUT ROWID" else "").toList
      = if statement.withoutRowid = true then " WITHOUT ROWID".toList else [] := by
    cases statement.withoutRowid <;> rfl
  unfold text
  simp only [String.toList_append, suffix, List.append_assoc]

theorem Plain.allParts {statement : CreateTable} (h : statement.Plain) :
    statement.allParts ≠ [] ∧ ∀ part ∈ statement.allParts, part.Plain := by
  constructor
  · simp [CreateTable.allParts, h.given]
  · rw [CreateTable.allParts, List.forall_mem_append, List.forall_mem_map, List.forall_mem_map]
    exact ⟨h.columns, h.constraints⟩

/-- Two plain statements with one text are the same. -/
theorem eq_of_text_eq {a b : CreateTable} (ha : a.Plain) (hb : b.Plain) (same : a.text = b.text) :
    a = b := by
  have chars := congrArg String.toList same
  rw [toList_text, toList_text, toList_joinedParts, toList_joinedParts] at chars
  have quoted : ∀ rest, Stops isWordChar ("` (".toList ++ rest) := by simp [isWordChar]
  obtain ⟨htable, hparts⟩ := SelfDelimiting.identifier ha.table hb.table (quoted _) (quoted _)
    (List.append_cancel_left chars)
  have closed : ∀ rest, Stops isBareChar (")".toList ++ rest) ∧
      ¬ ", ".toList <+: ")".toList ++ rest := by
    simp [isBareChar]
  have separates : ∀ rest, Stops isBareChar (", ".toList ++ rest) := by simp [isBareChar]
  obtain ⟨hparts, hrest⟩ := Part.selfDelimiting_text.joined ", ".toList separates ha.allParts
    hb.allParts (closed _) (closed _) (List.append_cancel_left hparts)
  have ends : ¬ " WITHOUT ROWID".toList <+: ";".toList := by decide
  obtain ⟨hrowid, -⟩ := SelfDelimiting.flag " WITHOUT ROWID".toList trivial trivial ends ends
    (List.append_cancel_left hrest)
  clear chars hrest
  -- the columns are the left parts, the constraints the right ones
  have hcolumns : a.columns = b.columns := by
    simpa [columns_allParts] using congrArg (List.filterMap Sum.getLeft?) hparts
  have hconstraints : a.constraints = b.constraints := by
    simpa [constraints_allParts] using congrArg (List.filterMap Sum.getRight?) hparts
  obtain ⟨table, columns, constraints, withoutRowid⟩ := a
  obtain ⟨table', columns', constraints', withoutRowid'⟩ := b
  obtain rfl : table = table' := htable
  obtain rfl : columns = columns' := hcolumns
  obtain rfl : constraints = constraints' := hconstraints
  obtain rfl : withoutRowid = withoutRowid' := hrowid
  rfl

end CreateTable

end TableModel
