/-
# TableModel.Proofs.Statement.Reading — what the parts of a request say

The kind, the clauses and the ordering of a request arrive as dynamic values and are read by functions
that check as they go. Here it is said without checks which kind a value names, which clauses it gives
and which values are orderings, and each reader is shown to succeed on exactly these. A reader that
fails says what is wrong; an ordering can be wrong in many places, and what is said is what is wrong
with the first of its leaves that is no term.
-/
import TableModel.Proofs.FirstFault
import TableModel.Proofs.Statement.Ordering
import TableModel.Proofs.Value.Names
import TableModel.Statement.Request

namespace TableModel

/-! ## Kinds -/

namespace StatementKind

/-- A word names a kind when it is the kind's keyword in upper case, or its name. -/
def IsNamedBy (kind : StatementKind) (word : String) : Prop :=
  word = Text.upper kind.keyword ∨ word = kind.name

instance (kind : StatementKind) (word : String) : Decidable (kind.IsNamedBy word) :=
  inferInstanceAs (Decidable (_ ∨ _))

/-- No word names two kinds. -/
theorem IsNamedBy.unique {kind other : StatementKind} {word : String} (named : kind.IsNamedBy word)
    (otherwise : other.IsNamedBy word) : kind = other := by
  rcases named with rfl | rfl <;> revert otherwise <;> cases kind <;> cases other <;> decide

/-- A text spells the first kind that it names in upper case. -/
theorem ofSpelling?_eq_find? (spelling : String) :
    ofSpelling? spelling = all.find? fun kind => decide (kind.IsNamedBy (Text.upper spelling)) := by
  unfold ofSpelling?
  dsimp only
  congr 1
  funext kind
  rw [Bool.eq_iff_iff, Bool.or_eq_true, beq_iff_eq, beq_iff_eq, decide_eq_true_iff, IsNamedBy, eq_comm,
    eq_comm (a := kind.name)]

/-- The first kind that a text names is the only one. -/
theorem ofSpelling?_eq_some {spelling : String} {kind : StatementKind} :
    ofSpelling? spelling = some kind ↔ kind.IsNamedBy (Text.upper spelling) := by
  rw [ofSpelling?_eq_find?]
  constructor
  · intro h
    have named := List.find?_some h
    exact of_decide_eq_true named
  · intro named
    cases h : all.find? fun other => decide (other.IsNamedBy (Text.upper spelling)) with
    | none => exact absurd (decide_eq_true named) (List.find?_eq_none.mp h kind (mem_all kind))
    | some first =>
      have alike := List.find?_some h
      rw [(of_decide_eq_true alike).unique named]

end StatementKind

/-- A value gives a kind: it is the kind itself, or a text that names it in any letter case. -/
inductive Value.GivesKind : Value → StatementKind → Prop
  | member (kind : StatementKind) : GivesKind (.label (.statementKind kind)) kind
  | spelling {name : Label} {kind : StatementKind}
      (spelled : kind.IsNamedBy (Text.upper name.content)) : GivesKind (.label name) kind

theorem StatementKind.ofValue_eq_ok {value : Value} {kind : StatementKind} :
    ofValue value = .ok kind ↔ value.GivesKind kind := by
  constructor
  · intro h
    unfold ofValue at h
    split at h
    · obtain rfl := Except.ok.inj h
      exact .member _
    · split at h
      · rename_i found hfound
        obtain rfl := Except.ok.inj h
        exact .spelling (ofSpelling?_eq_some.mp hfound)
      · cases h
    · cases h
  · intro h
    cases h with
    | member => rfl
    | @spelling name _ spelled =>
      cases name with
      | statementKind other =>
        -- the keyword of a kind names that kind itself
        have itself : other.IsNamedBy (Text.upper other.keyword) := Or.inl rfl
        rw [itself.unique spelled]
        rfl
      | plain text =>
        unfold ofValue
        dsimp only
        rw [ofSpelling?_eq_some.mpr spelled]
      | columnType type =>
        unfold ofValue
        dsimp only
        rw [ofSpelling?_eq_some.mpr spelled]

theorem Value.GivesKind.unique {value : Value} {kind other : StatementKind}
    (gives : value.GivesKind kind) (otherwise : value.GivesKind other) : kind = other :=
  Except.ok.inj ((StatementKind.ofValue_eq_ok.mpr gives).symm.trans
    (StatementKind.ofValue_eq_ok.mpr otherwise))

namespace StatementKind

theorem eq_kind_of_ofValue_eq_error {value : Value} {e : StatementError}
    (h : ofValue value = .error e) : e = .kind := by
  unfold ofValue at h
  split at h
  · cases h
  · split at h
    · cases h
    · exact (Except.error.inj h).symm
  · exact (Except.error.inj h).symm

/-- A value that gives no kind is said to be none. -/
theorem ofValue_eq_error {value : Value} {e : StatementError} :
    ofValue value = .error e ↔ (∀ kind, ¬ value.GivesKind kind) ∧ e = .kind := by
  constructor
  · intro h
    refine ⟨fun kind gives => ?_, eq_kind_of_ofValue_eq_error h⟩
    rw [ofValue_eq_ok.mpr gives] at h
    cases h
  · rintro ⟨none, rfl⟩
    cases h : ofValue value with
    | ok kind => exact absurd (ofValue_eq_ok.mp h) (none kind)
    | error e => rw [eq_kind_of_ofValue_eq_error h]

end StatementKind

/-! ## Clauses -/

/-- What is given for a clause. -/
def Clauses.clause (clauses : Clauses) : ClauseName → Value
  | .filter => clauses.filter
  | .data => clauses.data
  | .updates => clauses.updates
  | .limit => clauses.limit
  | .offset => clauses.offset
  | .orderBy => clauses.orderBy

/-- A value gives clauses: none when it is null, those of a record, and those of a mapping that has
known keys only and whose other clauses are null. -/
inductive Value.GivesClauses : Value → Clauses → Prop
  | nothing : GivesClauses .null {}
  | record (clauses : Clauses) : GivesClauses clauses.toValue clauses
  | mapping {entries : List (Value × Value)} {clauses : Clauses}
      (known : HasKeysOf Clauses.keys entries)
      (read : ∀ name, clauses.clause name = field name.key entries) :
      GivesClauses (.map entries) clauses

namespace Clauses

theorem ext_clause {clauses other : Clauses} (same : ∀ name, clauses.clause name = other.clause name) :
    clauses = other := by
  cases clauses
  cases other
  rw [mk.injEq]
  exact ⟨same .filter, same .data, same .updates, same .limit, same .offset, same .orderBy⟩

theorem ofValue_eq_ok {value : Value} {clauses : Clauses} :
    ofValue value = .ok clauses ↔ value.GivesClauses clauses := by
  constructor
  · intro h
    cases value with
    | null =>
      obtain rfl := Except.ok.inj h
      exact .nothing
    | clauses filter data updates limit offset orderBy =>
      obtain rfl := Except.ok.inj h
      exact .record { filter, data, updates, limit, offset, orderBy }
    | map entries =>
      simp only [ofValue] at h
      split at h
      · rename_i known
        obtain rfl := Except.ok.inj h
        refine .mapping (Value.unknownKeys_eq_nil.mp known) fun name => ?_
        cases name <;> rfl
      · split at h <;> cases h
    | _ => cases h
  · intro h
    cases h with
    | nothing => rfl
    | record => rfl
    | @mapping entries clauses known read =>
      simp only [ofValue, Value.unknownKeys_eq_nil.mpr known]
      congr 1
      refine ext_clause fun name => ?_
      rw [read name]
      cases name <;> rfl

end Clauses

theorem Value.GivesClauses.unique {value : Value} {clauses other : Clauses}
    (gives : value.GivesClauses clauses) (otherwise : value.GivesClauses other) : clauses = other :=
  Except.ok.inj ((Clauses.ofValue_eq_ok.mpr gives).symm.trans (Clauses.ofValue_eq_ok.mpr otherwise))

/-- A value that gives clauses has no other keys. -/
theorem Value.GivesClauses.known {value : Value} {clauses : Clauses} (gives : value.GivesClauses clauses) :
    HasKeysOf Clauses.keys value.members := by
  cases gives with
  | nothing => exact List.forall_mem_nil _
  | record clauses => exact List.forall_mem_nil _
  | mapping known read => exact known

/-- What is wrong with a value that gives no clauses: it is none of the three, or it is a mapping
with unknown keys, which are listed in order. -/
inductive Value.ClausesFault : Value → StatementError → Prop
  | shape {value : Value} (given : value ≠ .null) (noRecord : ∀ clauses : Clauses, value ≠ clauses.toValue)
      (noMapping : ∀ entries, value ≠ .map entries) : ClausesFault value .clausesShape
  | unknown {entries : List (Value × Value)} {names : List Label} (given : names ≠ [])
      (unknown : unknownKeys Clauses.keys entries = names.map .label) :
      ClausesFault (.map entries) (.unknownClauses (names.map Label.content).mergeSort)

theorem Clauses.ofValue_eq_error {value : Value} {e : StatementError} (textual : value.HasTextKeys) :
    ofValue value = .error e ↔ value.ClausesFault e := by
  constructor
  · intro h
    cases value with
    | null => cases h
    | clauses => cases h
    | map entries =>
      simp only [ofValue] at h
      split at h
      · cases h
      · rename_i some
        split at h
        · rename_i names hnames
          obtain rfl := Except.error.inj h
          unfold Value.sortedContents? at hnames
          obtain ⟨labels, hlabels, rfl⟩ := Option.map_eq_some_iff.mp hnames
          have hkeys := Value.mapM_label?_eq_some.mp hlabels
          refine .unknown ?_ hkeys
          rintro rfl
          exact some hkeys
        · rename_i none
          exact absurd none (Value.sortedContents?_unknownKeys_ne_none textual)
    | _ =>
      obtain rfl := Except.error.inj h
      exact .shape (by simp) (by simp [toValue]) (by simp)
  · intro fault
    cases fault with
    | shape given noRecord noMapping =>
      cases value with
      | null => exact absurd rfl given
      | clauses filter data updates limit offset orderBy =>
        exact absurd rfl (noRecord ⟨filter, data, updates, limit, offset, orderBy⟩)
      | map entries => exact absurd rfl (noMapping entries)
      | _ => rfl
    | @unknown entries names given unknown =>
      simp only [ofValue]
      split
      · rename_i nil
        rw [unknown, List.map_eq_nil_iff] at nil
        exact absurd nil given
      · rw [unknown, Value.sortedContents?, Value.mapM_label?_eq_some.mpr rfl]
        rfl

/-! ## Orderings -/

namespace Value

/-- A value is an ordering: a column's name, a record, a mapping with a column, or a list or tuple of
orderings. -/
inductive IsOrder : Value → Prop
  | name (name : Label) : IsOrder (.label name)
  | record (column descending nullsLast : Value) : IsOrder (.ordering column descending nullsLast)
  | mapping {entries : List (Value × Value)}
      (named : ∃ entry ∈ entries, entry.1.isText "column" = true) : IsOrder (.map entries)
  | list {items : List Value} (each : ∀ item ∈ items, IsOrder item) : IsOrder (.list items)
  | tuple {items : List Value} (each : ∀ item ∈ items, IsOrder item) : IsOrder (.tuple items)

/-- What is wrong with a leaf of an ordering: nothing with names and records, a mapping may lack a
column, and all other values are no terms. -/
def LeafFault (leaf : Value) (e : StatementError) : Prop :=
  match leaf with
  | .label _ | .ordering .. => False
  | .map entries => (∀ entry ∈ entries, entry.1.isText "column" = false) ∧ e = .orderWithoutColumn
  | _ => e = .orderShape

mutual

/-- Orderings are the values whose leaves are terms. -/
theorem isOrder_iff : ∀ value : Value,
    value.IsOrder ↔ ∀ leaf ∈ value.orderLeaves, ∀ e, ¬ leaf.LeafFault e
  | .list items => by
    rw [orderLeaves, ← areOrders_iff items]
    exact ⟨fun h => by cases h with | list each => exact each, .list⟩
  | .tuple items => by
    rw [orderLeaves, ← areOrders_iff items]
    exact ⟨fun h => by cases h with | tuple each => exact each, .tuple⟩
  | .label name => by simp [orderLeaves, LeafFault, IsOrder.name]
  | .ordering column descending nullsLast => by simp [orderLeaves, LeafFault, IsOrder.record]
  | .map entries => by
    simp only [orderLeaves, List.mem_singleton, forall_eq, LeafFault]
    constructor
    · rintro (_ | _ | ⟨entry, member, named⟩) e ⟨unnamed, -⟩
      rw [unnamed entry member] at named
      cases named
    · intro h
      by_contra none
      refine h .orderWithoutColumn ⟨fun entry member => ?_, rfl⟩
      rw [Bool.eq_false_iff]
      exact fun named => none (.mapping ⟨entry, member, named⟩)
  | .null | .bool _ | .int _ | .float _ | .bytes _ | .buffer _ | .descriptor .. | .tableOptions ..
  | .clauses .. => by
    constructor
    · rintro ⟨⟩
    · exact fun h => absurd rfl (h _ (List.mem_singleton_self _) .orderShape)

theorem areOrders_iff : ∀ items : List Value,
    (∀ item ∈ items, item.IsOrder) ↔ ∀ leaf ∈ itemLeaves items, ∀ e, ¬ leaf.LeafFault e
  | [] => by simp [itemLeaves]
  | item :: rest => by
    rw [List.forall_mem_cons, itemLeaves, List.forall_mem_append, isOrder_iff item, areOrders_iff rest]

end

end Value

namespace OrderSpec

mutual

/-- Reading an ordering reports the first of its leaves that is no term. -/
theorem reports_ofValue : ∀ value : Value,
    Reports Value.LeafFault value.orderLeaves (ofValue value)
  | .list items => by
    rw [ofValue, Value.orderLeaves]
    exact (reports_ofValues items).map group
  | .tuple items => by
    rw [ofValue, Value.orderLeaves]
    exact (reports_ofValues items).map group
  | .label name => .passed (by simp [Value.orderLeaves, Value.LeafFault])
  | .ordering column descending nullsLast =>
    .passed (by simp [Value.orderLeaves, Value.LeafFault])
  | .map entries => by
    refine .single fun e => ?_
    rw [Value.LeafFault, ← Value.field?_eq_none, ofValue]
    cases Value.field? "column" entries <;> simp [eq_comm]
  | .null | .bool _ | .int _ | .float _ | .bytes _ | .buffer _ | .descriptor .. | .tableOptions ..
  | .clauses .. => by
    refine .single fun e => ?_
    simp [Value.LeafFault, ofValue, eq_comm]

/-- The same for the leaves of items. -/
theorem reports_ofValues : ∀ items : List Value,
    Reports Value.LeafFault (Value.itemLeaves items) (ofValues items)
  | [] => .done []
  | item :: rest => by
    rw [ofValues, Value.itemLeaves]
    refine (reports_ofValue item).chain fun spec _ => ?_
    rw [← List.append_nil (Value.itemLeaves rest)]
    exact (reports_ofValues rest).chain fun specs _ => .done (spec :: specs)

end

end OrderSpec

end TableModel
