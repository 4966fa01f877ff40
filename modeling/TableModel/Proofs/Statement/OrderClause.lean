/-
# TableModel.Proofs.Statement.OrderClause — when the ordering clause is a list of terms

Whether a selection has an ordering clause is decided by the truth of the ordering as a whole, and what
stands in the clause by its groups. The two agree when no group is empty: then the clause is the terms
of the leaves with commas between them. An empty list inside an ordering is true as part of the whole
and no term, and it leaves a separator or a keyword with nothing after it. So the clause is a list of
terms exactly when an ordering that is true has no empty list.
-/
import TableModel.Proofs.Statement.Unambiguous

namespace TableModel

/-! ## Lengths of joined texts -/

/-- The length of parts with a separator after each. -/
def terminatedLength (separator : String) : List String → Nat
  | [] => 0
  | part :: rest => part.length + separator.length + terminatedLength separator rest

/-- Between parts there is one separator less than there are parts. -/
theorem length_intercalate {parts : List String} (nonempty : parts ≠ []) (separator : String) :
    (separator.intercalate parts).length + separator.length = terminatedLength separator parts := by
  induction parts with
  | nil => exact absurd rfl nonempty
  | cons part rest ih =>
    by_cases last : rest = []
    · simp [last, terminatedLength]
    · rw [String.intercalate_cons_of_ne_nil last, terminatedLength, ← ih last, String.length_append,
        String.length_append]
      omega

/-- Empty parts bring nothing but their separators. -/
theorem terminatedLength_filter (separator : String) (parts : List String) :
    terminatedLength separator (parts.filter (· ≠ "")) + parts.count "" * separator.length
      = terminatedLength separator parts := by
  induction parts with
  | nil => simp [terminatedLength]
  | cons part rest ih =>
    rw [terminatedLength, ← ih]
    by_cases empty : part = ""
    · subst empty
      rw [List.filter_cons_of_neg (by simp), List.count_cons_self, Nat.succ_mul, String.length_empty]
      omega
    · rw [List.filter_cons_of_pos (by simpa using empty), List.count_cons_of_ne empty,
        terminatedLength]
      omega

/-- Joined parts are longer with empty ones among them than without. -/
theorem length_intercalate_filter_lt {separator : String} {parts : List String} (hollow : "" ∈ parts)
    (some : parts.filter (· ≠ "") ≠ []) (visible : 0 < separator.length) :
    (separator.intercalate (parts.filter (· ≠ ""))).length < (separator.intercalate parts).length := by
  have whole := length_intercalate (List.ne_nil_of_mem hollow) separator
  have filtered := length_intercalate some separator
  have counted := terminatedLength_filter separator parts
  have added : 0 < parts.count "" * separator.length :=
    Nat.mul_pos (List.count_pos_iff.mpr hollow) visible
  omega

/-! ## Clauses -/

/-- The clause of an ordering with an empty list is not that of its terms. -/
theorem OrderSpec.clauseText_terms_ne {spec : OrderSpec} (hollow : "" ∈ spec.pieces) :
    OrderTerm.clauseText spec.terms ≠ Statement.orderText (some spec) := by
  -- the clause that is written is longer than that of the terms
  intro same
  have lengths := congrArg String.length same
  rw [Statement.orderText, String.length_append] at lengths
  have keyword : " ORDER BY ".length = 10 := by decide
  cases found : spec.terms with
  | nil =>
    rw [found, OrderTerm.clauseText, String.length_empty] at lengths
    omega
  | cons term rest =>
    have some : spec.pieces.filter (· ≠ "") ≠ [] := by
      rw [spec.filter_pieces, found]
      exact List.cons_ne_nil _ _
    have shorter := length_intercalate_filter_lt hollow some (by decide : 0 < ", ".length)
    rw [spec.filter_pieces, ← spec.text_eq_intercalate_pieces, found] at shorter
    rw [found, OrderTerm.clauseText, String.length_append] at lengths
    · omega
    · exact List.cons_ne_nil term rest

namespace Clauses

/-- The text of a selection with an ordering clause. -/
def selection (clauses : Clauses) (table clause : String) : String :=
  "SELECT * FROM `" ++ table ++ "`" ++ Row.filterText (Row.ofEntries clauses.filter.members).columns
    ++ clause ++ Statement.pageText clauses.page

theorem selection_inj {clauses : Clauses} {table clause other : String} :
    clauses.selection table clause = clauses.selection table other ↔ clause = other := by
  unfold selection
  exact (String.append_left_inj _).trans (String.append_right_inj _)

end Clauses

namespace Request

variable {request : Request} {table : Label} {clauses : Clauses} {statement : Statement}

/-- A request for a selection whose ordering counts as one and has an empty list in it. -/
def HasHollowOrdering (request : Request) : Prop :=
  ∃ table clauses statement, request.Accepted .select table clauses statement ∧
    clauses.orderBy.truth = true ∧ clauses.orderBy.solid = false

/-- An accepted selection has an ordering clause with one term for each leaf of its ordering, in their
order and with commas between them, or none when there are no leaves. -/
def OrdersByTerms (request : Request) : Prop :=
  ∀ table clauses statement, request.Accepted .select table clauses statement →
    statement.text = clauses.selection table.shown (OrderTerm.clauseText clauses.orderTerms)

/-- What is written of an ordering. -/
structure WritesOrdering (request : Request) : Prop where
  /-- An ordering that is false has no clause. -/
  unordered : ∀ table clauses statement, request.Accepted .select table clauses statement →
    clauses.orderBy.truth = false → statement.text = clauses.selection table.shown ""
  /-- Any other has one, of its terms in their order and of empty pieces, with commas between them. -/
  ordered : ∀ table clauses statement, request.Accepted .select table clauses statement →
    clauses.orderBy.truth = true →
    ∃ pieces : List String, pieces ≠ [] ∧
      pieces.filter (· ≠ "") = clauses.orderTerms.map OrderTerm.text ∧
      statement.text = clauses.selection table.shown (" ORDER BY " ++ String.intercalate ", " pieces)
  /-- There are no empty pieces unless an ordering that is true has an empty list. -/
  byTerms_iff : request.OrdersByTerms ↔ ¬ request.HasHollowOrdering

/-- An accepted selection is written with the clause of the ordering that is read. -/
theorem Accepted.exists_order (accepted : request.Accepted .select table clauses statement) :
    ∃ order, readOrder clauses.orderBy = .ok order ∧
      statement.text = clauses.selection table.shown (Statement.orderText order) := by
  obtain ⟨-, -, -, -, -, made⟩ := accepted
  cases made with
  | @select order ordered => exact ⟨order, ordered, Statement.text_select _ _ _ _⟩

theorem Accepted.text_of_not_truth (accepted : request.Accepted .select table clauses statement)
    (absent : clauses.orderBy.truth = false) :
    statement.text = clauses.selection table.shown "" := by
  obtain ⟨order, ordered, text_eq⟩ := accepted.exists_order
  rw [readOrder, absent] at ordered
  obtain rfl := Except.ok.inj ordered
  exact text_eq

/-- An ordering that is true is read, and its text stands in the clause. -/
theorem Accepted.exists_spec (accepted : request.Accepted .select table clauses statement)
    (given : clauses.orderBy.truth = true) :
    ∃ spec, OrderSpec.ofValue clauses.orderBy = .ok spec ∧ clauses.orderTerms = spec.terms ∧
      statement.text = clauses.selection table.shown (Statement.orderText (some spec)) := by
  obtain ⟨order, ordered, text_eq⟩ := accepted.exists_order
  rw [readOrder, if_pos given] at ordered
  obtain ⟨spec, read, rfl⟩ := map_eq_ok.mp ordered
  refine ⟨spec, read, ?_, text_eq⟩
  rw [Clauses.orderTerms, if_pos given, OrderSpec.terms_of_ofValue read]

theorem HasHollowOrdering.not_ordersByTerms (hollow : request.HasHollowOrdering) :
    ¬ request.OrdersByTerms := by
  obtain ⟨table, clauses, statement, accepted, given, hollow⟩ := hollow
  intro byTerms
  obtain ⟨spec, read, terms, text_eq⟩ := accepted.exists_spec given
  have same := byTerms table clauses statement accepted
  rw [text_eq, Clauses.selection_inj, terms] at same
  exact OrderSpec.clauseText_terms_ne ((OrderSpec.empty_mem_pieces read).mpr hollow) same.symm

theorem writesOrdering (request : Request) : request.WritesOrdering where
  unordered _ _ _ accepted absent := accepted.text_of_not_truth absent
  ordered := by
    intro table clauses statement accepted given
    obtain ⟨spec, -, terms, text_eq⟩ := accepted.exists_spec given
    refine ⟨spec.pieces, spec.pieces_ne_nil, by rw [spec.filter_pieces, terms], ?_⟩
    rw [text_eq, Statement.orderText, spec.text_eq_intercalate_pieces]
  byTerms_iff := by
    constructor
    · exact fun byTerms hollow => hollow.not_ordersByTerms byTerms
    · intro filled table clauses statement accepted
      obtain ⟨order, ordered, text_eq⟩ := accepted.exists_order
      rw [text_eq, Clauses.orderText_eq ordered]
      intro given
      by_contra hollow
      exact filled ⟨table, clauses, statement, accepted, given, Bool.eq_false_iff.mpr hollow⟩

/-- A request for a selection whose ordering ends with an empty list. -/
def endsWithEmptyList : Request where
  kind := .text "SELECT"
  table := .text "t"
  clauses := .map [(.text "order_by", .list [.text "a", .list []])]

/-- The empty list leaves a comma with nothing after it. -/
theorem empty_list_leaves_a_comma :
    (∃ statement, endsWithEmptyList.statement = .ok statement ∧
      statement.text = "SELECT * FROM `t` ORDER BY \"a\", ") ∧ ¬ endsWithEmptyList.OrdersByTerms := by
  have accepted : endsWithEmptyList.Accepted .select (.plain "t")
      { orderBy := .list [.text "a", .list []] }
      (.select "t" [] (some (.group [.term ⟨"a", false, false⟩, .group []])) none) :=
    ⟨rfl, rfl, rfl, rfl, ⟨.null, .null, .null, .null, .null⟩, .select rfl⟩
  refine ⟨⟨_, statement_eq_ok.mpr ⟨_, _, _, accepted⟩, by decide⟩, ?_⟩
  exact HasHollowOrdering.not_ordersByTerms ⟨_, _, _, accepted, rfl, rfl⟩

end Request

end TableModel
