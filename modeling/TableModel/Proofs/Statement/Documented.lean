/-
# TableModel.Proofs.Statement.Documented — which requests are accepted, and what the others are told

A request is documented when its table has a name, its kind is spelled, it gives clauses, all of them
have their shapes, and the kind has what it needs. It can miss that in many ways, and in several at
once. The catalogue of its faults says for every check what it finds, whatever the others find, and the
checks stand in one order for all kinds: first what all kinds ask for, then what the kind itself needs.
A request whose mappings have texts for keys is accepted exactly when it is documented, and any other
one is told its first fault.
-/
import TableModel.Failure
import TableModel.Proofs.Statement.Accepted
import TableModel.Proofs.Statement.Reading

namespace TableModel

/-! ## Documented requests -/

/-- What a kind needs of its clauses and its conflict target, besides their shapes. -/
def StatementKind.Needs (kind : StatementKind) (clauses : Clauses) (target : Value) : Prop :=
  match kind with
  | .select => clauses.orderBy.truth = false ∨ clauses.orderBy.IsOrder
  | .delete => True
  | .insert | .insertOrReplace | .update => clauses.data.members ≠ []
  | .upsert =>
    clauses.data.members ≠ [] ∧ clauses.updates.members ≠ [] ∧ clauses.filter.members ≠ [] ∧
      ∃ names, target.ListsNames names

namespace Request

/-- A request with a table, a kind and clauses as they are asked for. -/
structure Meets (request : Request) (table : Label) (kind : StatementKind) (clauses : Clauses) :
    Prop where
  table_eq : request.table = .label table
  named : table.isEmpty = false
  spelled : request.kind.GivesKind kind
  gives : request.clauses.GivesClauses clauses
  shaped : clauses.Shaped
  needs : kind.Needs clauses request.target

/-- A request as it is documented. -/
def Documented (request : Request) : Prop :=
  ∃ table kind clauses, request.Meets table kind clauses

/-- The keys of the clauses and of the data are texts. -/
structure HasTextKeys (request : Request) : Prop where
  clauses : request.clauses.HasTextKeys
  data : ∀ clauses, request.clauses.GivesClauses clauses → clauses.data.HasTextKeys

/-! ## The catalogue of faults -/

/-- The checks of a request. -/
inductive Check where
  | table
  | kind
  | clauses
  /-- The shape of a clause, for all kinds. -/
  | shape (clause : ClauseName)
  /-- The entries that a kind cannot do without. -/
  | entries
  | target
  | order
  deriving DecidableEq, Repr

/-- The checks in their order. -/
def Check.all : List Check :=
  [.table, .kind, .clauses, .shape .filter, .shape .data, .shape .updates, .shape .limit,
    .shape .offset, .entries, .target, .order]

end Request

/-- What is wrong with the shape of a clause. -/
def Clauses.ShapeFault (clauses : Clauses) (name : ClauseName) (e : StatementError) : Prop :=
  match name with
  | .filter | .data | .updates => ¬ (clauses.clause name).IsOptionalMap ∧ e = .notMapping name
  | .limit | .offset => ¬ (clauses.clause name).IsOptionalCount ∧ e = .notCount name
  | .orderBy => False

/-- What is wrong with clauses that lack the entries a kind cannot do without. -/
def StatementKind.EntriesFault (kind : StatementKind) (clauses : Clauses) (e : StatementError) : Prop :=
  match kind with
  | .select | .delete => False
  | .insert | .insertOrReplace => clauses.data.members = [] ∧ e = .insertWithoutData
  | .update => clauses.data.members = [] ∧ e = .updateWithoutData
  | .upsert =>
    (clauses.data.members = [] ∨ clauses.updates.members = [] ∨ clauses.filter.members = []) ∧
      e = .upsertIncomplete

/-- What is wrong with a conflict target: it is missing when it is false and no text, and otherwise it
lists no names. -/
def Value.TargetFault (target : Value) (e : StatementError) : Prop :=
  (∀ names, ¬ target.ListsNames names) ∧
    e = if target.IsLabel ∨ target.truth = true then .targetShape else .targetMissing

/-- What a check finds wrong with a request, whatever the other checks find. -/
def Request.Fault (request : Request) (check : Check) (e : StatementError) : Prop :=
  match check with
  | .table => (∀ name : Label, request.table = .label name → name.isEmpty = true) ∧ e = .tableName
  | .kind => (∀ kind, ¬ request.kind.GivesKind kind) ∧ e = .kind
  | .clauses => request.clauses.ClausesFault e
  | .shape name => ∃ clauses, request.clauses.GivesClauses clauses ∧ clauses.ShapeFault name e
  | .entries => ∃ kind clauses, request.kind.GivesKind kind ∧ request.clauses.GivesClauses clauses ∧
      kind.EntriesFault clauses e
  | .target => request.kind.GivesKind .upsert ∧ request.target.TargetFault e
  | .order => request.kind.GivesKind .select ∧ ∃ clauses, request.clauses.GivesClauses clauses ∧
      clauses.orderBy.truth = true ∧
      FirstFault Value.LeafFault clauses.orderBy.orderLeaves e

/-! ## Single checks -/

theorem ClauseName.entries_eq_error {clause : ClauseName} {value : Value} {e : StatementError} :
    clause.entries value = .error e ↔ ¬ value.IsOptionalMap ∧ e = .notMapping clause := by
  constructor
  · intro h
    constructor
    · intro shape
      rw [entries_eq_ok.mpr ⟨shape, rfl⟩] at h
      cases h
    · unfold entries at h
      split at h
      · cases h
      · cases h
      · exact (Except.error.inj h).symm
  · rintro ⟨noMapping, rfl⟩
    cases value with
    | null => exact absurd .null noMapping
    | map entries => exact absurd (.map entries) noMapping
    | _ => rfl

theorem ClauseName.count_eq_error {clause : ClauseName} {value : Value} {e : StatementError} :
    clause.count value = .error e ↔ ¬ value.IsOptionalCount ∧ e = .notCount clause := by
  have refused : ∀ e', clause.count value = .error e' → e' = .notCount clause := by
    intro e' h
    unfold count at h
    split at h
    · cases h
    · split at h
      · cases h
      · exact (Except.error.inj h).symm
  constructor
  · intro h
    refine ⟨fun shape => ?_, refused e h⟩
    rw [count_eq_ok.mpr ⟨shape, rfl⟩] at h
    cases h
  · rintro ⟨noCount, rfl⟩
    cases h : clause.count value with
    | ok n => exact absurd (count_eq_ok.mp h).1 noCount
    | error e => rw [refused e h]

theorem readTarget_eq_error {target : Value} {e : StatementError} :
    readTarget target = .error e ↔ target.TargetFault e := by
  unfold readTarget Value.TargetFault
  split
  · rename_i names hnames
    constructor
    · rintro ⟨⟩
    · rintro ⟨none, -⟩
      exact absurd (Value.names?_eq_some.mp hnames) (none names)
  · rename_i hnone
    have none : ∀ names, ¬ target.ListsNames names := by
      intro names listed
      rw [Value.names?_eq_some.mpr listed] at hnone
      cases hnone
    -- what is no text and false is missing
    have missing : (target.label?.isNone && !target.truth) = true ↔
        ¬ (target.IsLabel ∨ target.truth = true) := by
      cases target <;> simp [Value.IsLabel, Value.label?]
    by_cases given : target.IsLabel ∨ target.truth = true
    · rw [if_neg (by rw [missing]; exact not_not_intro given), if_pos given, Except.error.injEq]
      exact ⟨fun h => ⟨none, h.symm⟩, fun h => h.2.symm⟩
    · rw [if_pos (missing.mpr given), if_neg given, Except.error.injEq]
      exact ⟨fun h => ⟨none, h.symm⟩, fun h => h.2.symm⟩

/-- The ordering of a selection is checked when it is true. -/
theorem reports_readOrder {value : Value} (given : value.truth = true) :
    Reports Value.LeafFault value.orderLeaves (readOrder value) := by
  unfold readOrder
  rw [if_pos given]
  exact (OrderSpec.reports_ofValue value).map some

theorem readOrder_of_not_truth {value : Value} (none : value.truth = false) :
    readOrder value = .ok Option.none := by
  unfold readOrder
  rw [if_neg (by simp [none])]

theorem exists_readOrder_eq_ok {value : Value} :
    (∃ order, readOrder value = .ok order) ↔ value.truth = false ∨ value.IsOrder := by
  cases given : value.truth with
  | false => simp [readOrder_of_not_truth given]
  | true =>
    rw [(reports_readOrder given).ok_iff, ← Value.isOrder_iff]
    simp

theorem readOrder_eq_error {value : Value} {e : StatementError} :
    readOrder value = .error e ↔
      value.truth = true ∧ FirstFault Value.LeafFault value.orderLeaves e := by
  cases given : value.truth with
  | false => simp [readOrder_of_not_truth given]
  | true =>
    rw [(reports_readOrder given).error_iff]
    simp

theorem Value.ClausesFault.isFinding {value : Value} {e : StatementError}
    (fault : value.ClausesFault e) : e.isFinding = true := by
  cases fault <;> rfl

theorem Value.LeafFault.isFinding {leaf : Value} {e : StatementError} (fault : leaf.LeafFault e) :
    e.isFinding = true := by
  cases leaf with
  | label => exact fault.elim
  | ordering => exact fault.elim
  | map => rw [fault.2]; rfl
  | _ =>
    obtain rfl : e = .orderShape := fault
    rfl

/-- Entries whose keys are texts make a row to insert. -/
theorem Row.exists_ofTextEntries_eq_ok {value : Value} (textual : value.HasTextKeys) :
    ∃ row, ofTextEntries value.members = .ok row := by
  unfold Value.HasTextKeys Value.keys at textual
  generalize value.members = entries at textual ⊢
  induction entries with
  | nil => exact ⟨[], rfl⟩
  | cons entry entries ih =>
    rw [List.map_cons, List.forall_mem_cons] at textual
    obtain ⟨row, hrow⟩ := ih textual.2
    obtain ⟨⟨key, value⟩, ⟨name, rfl⟩⟩ := entry, textual.1
    exact ⟨_, by rw [ofTextEntries, hrow]; rfl⟩

theorem Row.ofTextEntries_eq_error {entries : List (Value × Value)} {e : StatementError}
    (h : ofTextEntries entries = .error e) : e = .columnNotText := by
  induction entries with
  | nil => cases h
  | cons entry entries ih =>
    obtain ⟨key, value⟩ := entry
    cases key with
    | label name => exact ih (map_eq_error.mp h)
    | _ => exact (Except.error.inj h).symm

/-! ## All checks together -/

theorem Statement.Made.needs {kind : StatementKind} {table : Label} {clauses : Clauses} {target : Value}
    {statement : Statement} (made : Made table clauses target kind statement) :
    kind.Needs clauses target := by
  cases made with
  | select ordered => exact exists_readOrder_eq_ok.mp ⟨_, ordered⟩
  | delete => trivial
  | insert given _ => exact given
  | insertOrReplace given _ => exact given
  | update given => exact given
  | upsert given changes filtered targeted _ =>
    have listed := Value.names?_eq_some.mp (readTarget_eq_ok.mp targeted)
    exact ⟨given, changes, filtered, _, listed⟩

/-- A kind makes a statement exactly when it has what it needs. -/
theorem Statement.exists_made {kind : StatementKind} {table : Label} {clauses : Clauses}
    {target : Value} (textual : clauses.data.HasTextKeys) :
    (∃ statement, Made table clauses target kind statement) ↔ kind.Needs clauses target := by
  obtain ⟨row, texts⟩ := Row.exists_ofTextEntries_eq_ok textual
  constructor
  · rintro ⟨statement, made⟩
    exact made.needs
  · intro needs
    cases kind with
    | select =>
      obtain ⟨order, ordered⟩ := exists_readOrder_eq_ok.mpr needs
      exact ⟨_, .select ordered⟩
    | delete => exact ⟨_, .delete⟩
    | insert => exact ⟨_, .insert needs texts⟩
    | insertOrReplace => exact ⟨_, .insertOrReplace needs texts⟩
    | update => exact ⟨_, .update needs⟩
    | upsert =>
      obtain ⟨given, changes, filtered, names, listed⟩ := needs
      have targeted := readTarget_eq_ok.mpr (Value.names?_eq_some.mpr listed)
      exact ⟨_, .upsert given changes filtered targeted texts⟩

namespace Request

variable {request : Request}

/-- A request is accepted exactly when it is documented. -/
theorem exists_statement_eq_ok (textual : request.HasTextKeys) :
    (∃ statement, request.statement = .ok statement) ↔ request.Documented := by
  constructor
  · rintro ⟨statement, h⟩
    obtain ⟨kind, table, clauses, accepted⟩ := statement_eq_ok.mp h
    have gives := Clauses.ofValue_eq_ok.mp accepted.clauses_eq
    exact ⟨table, kind, clauses, accepted.table_eq, accepted.named,
      StatementKind.ofValue_eq_ok.mp accepted.kind_eq, gives, accepted.shaped,
      (Statement.exists_made (textual.data clauses gives)).mp ⟨statement, accepted.made⟩⟩
  · rintro ⟨table, kind, clauses, meets⟩
    obtain ⟨statement, made⟩ : ∃ statement,
        Statement.Made table clauses request.target kind statement :=
      (Statement.exists_made (textual.data clauses meets.gives)).mpr meets.needs
    refine ⟨statement, statement_eq_ok.mpr ⟨kind, table, clauses, ?_⟩⟩
    exact ⟨meets.table_eq, meets.named, StatementKind.ofValue_eq_ok.mpr meets.spelled,
      Clauses.ofValue_eq_ok.mpr meets.gives, meets.shaped, made⟩

section Chain

variable {kind : StatementKind} {clauses : Clauses}

/-- What is found wrong with the shape of a clause once the clauses are read. -/
theorem fault_shape (gives : request.clauses.GivesClauses clauses) {name : ClauseName}
    {e : StatementError} : request.Fault (.shape name) e ↔ clauses.ShapeFault name e := by
  constructor
  · rintro ⟨other, otherwise, fault⟩
    rwa [gives.unique otherwise]
  · exact fun fault => ⟨clauses, gives, fault⟩

theorem fault_entries (spelled : request.kind.GivesKind kind)
    (gives : request.clauses.GivesClauses clauses) {e : StatementError} :
    request.Fault .entries e ↔ kind.EntriesFault clauses e := by
  constructor
  · rintro ⟨other, others, hkind, hclauses, fault⟩
    rwa [spelled.unique hkind, gives.unique hclauses]
  · exact fun fault => ⟨kind, clauses, spelled, gives, fault⟩

theorem fault_target (spelled : request.kind.GivesKind kind) {e : StatementError} :
    request.Fault .target e ↔ kind = .upsert ∧ request.target.TargetFault e := by
  constructor
  · rintro ⟨otherwise, fault⟩
    exact ⟨spelled.unique otherwise, fault⟩
  · rintro ⟨rfl, fault⟩
    exact ⟨spelled, fault⟩

theorem fault_order (spelled : request.kind.GivesKind kind)
    (gives : request.clauses.GivesClauses clauses) {e : StatementError} :
    request.Fault .order e ↔ kind = .select ∧ readOrder clauses.orderBy = .error e := by
  rw [readOrder_eq_error]
  constructor
  · rintro ⟨otherwise, others, hclauses, fault⟩
    rw [gives.unique hclauses]
    exact ⟨spelled.unique otherwise, fault⟩
  · rintro ⟨rfl, fault⟩
    exact ⟨spelled, clauses, gives, fault⟩

/-- The checks of clauses, kind by kind after those that all kinds share. -/
theorem reports_ofClauses {table : Label} (spelled : request.kind.GivesKind kind)
    (gives : request.clauses.GivesClauses clauses) (textual : clauses.data.HasTextKeys) :
    Reports request.Fault [.shape .filter, .shape .data, .shape .updates, .shape .limit,
      .shape .offset, .entries, .target, .order]
      (Statement.ofClauses kind table clauses request.target) := by
  obtain ⟨row, texts⟩ := Row.exists_ofTextEntries_eq_ok textual
  refine .bind (fun e => (fault_shape gives).trans ClauseName.entries_eq_error.symm) ?_
  intro filter hfilter
  refine .bind (fun e => (fault_shape gives).trans ClauseName.entries_eq_error.symm) ?_
  intro data hdata
  refine .bind (fun e => (fault_shape gives).trans ClauseName.entries_eq_error.symm) ?_
  intro updates hupdates
  refine .bind (fun e => (fault_shape gives).trans ClauseName.count_eq_error.symm) ?_
  intro limit hlimit
  refine .bind (fun e => (fault_shape gives).trans ClauseName.count_eq_error.symm) ?_
  intro offset hoffset
  obtain ⟨-, rfl⟩ := ClauseName.entries_eq_ok.mp hfilter
  obtain ⟨-, rfl⟩ := ClauseName.entries_eq_ok.mp hdata
  obtain ⟨-, rfl⟩ := ClauseName.entries_eq_ok.mp hupdates
  -- a check that is no business of the kind finds nothing
  have noTarget : kind ≠ .upsert → ∀ e, ¬ request.Fault .target e :=
    fun other e fault => other ((fault_target spelled).mp fault).1
  have noOrder : kind ≠ .select → ∀ e, ¬ request.Fault .order e :=
    fun other e fault => other ((fault_order spelled gives).mp fault).1
  cases kind with
  | select =>
    refine .skip (fun e => (fault_entries spelled gives).not.mpr id) ?_
    refine .skip (noTarget (by decide)) ?_
    refine .bind (fun e => (fault_order spelled gives).trans (by simp)) fun order _ => ?_
    exact .done _
  | delete =>
    refine .skip (fun e => (fault_entries spelled gives).not.mpr id) ?_
    refine .skip (noTarget (by decide)) (.skip (noOrder (by decide)) ?_)
    exact .done _
  | insert | insertOrReplace =>
    refine .refuse (fun e => (fault_entries spelled gives).trans ?_) fun _ => ?_
    · rw [List.isEmpty_iff]
      rfl
    · refine .skip (noTarget (by decide)) (.skip (noOrder (by decide)) ?_)
      rw [texts]
      exact .done _
  | update =>
    refine .refuse (fun e => (fault_entries spelled gives).trans ?_) fun _ => ?_
    · rw [List.isEmpty_iff]
      rfl
    · refine .skip (noTarget (by decide)) (.skip (noOrder (by decide)) ?_)
      exact .done _
  | upsert =>
    refine .refuse (fun e => (fault_entries spelled gives).trans ?_) fun _ => ?_
    · rw [Bool.or_eq_true, Bool.or_eq_true, List.isEmpty_iff, List.isEmpty_iff, List.isEmpty_iff,
        or_assoc]
      rfl
    · refine .bind (fun e => (fault_target spelled).trans ?_) fun names _ => ?_
      · rw [readTarget_eq_error]
        simp
      · refine .skip (noOrder (by decide)) ?_
        rw [texts]
        exact .done _

end Chain

/-- The checks of a request report its first fault. -/
theorem reports_statement (textual : request.HasTextKeys) :
    Reports request.Fault Check.all request.statement := by
  unfold statement
  cases h : request.table.name? with
  | none =>
    refine .fails fun e => and_iff_right fun name hname => ?_
    by_contra named
    rw [Value.name?_eq_some.mpr ⟨hname, Bool.eq_false_iff.mpr named⟩] at h
    cases h
  | some table =>
    obtain ⟨table_eq, named⟩ := Value.name?_eq_some.mp h
    refine .skip ?_ ?_
    · rintro e ⟨unnamed, -⟩
      rw [unnamed table table_eq] at named
      cases named
    · refine .bind (fun e => StatementKind.ofValue_eq_error.symm) fun kind hkind => ?_
      refine .bind (fun e => (Clauses.ofValue_eq_error textual.clauses).symm) fun clauses hclauses => ?_
      have gives := Clauses.ofValue_eq_ok.mp hclauses
      exact reports_ofClauses (StatementKind.ofValue_eq_ok.mp hkind) gives (textual.data clauses gives)

/-- What is found wrong with a request is put into words. -/
theorem Fault.message {check : Check} {e : StatementError} (fault : request.Fault check e) :
    (Failure.statement e).message? = some e.message := by
  suffices e.isFinding = true by rw [Failure.message?, if_pos this]
  cases check with
  | table => rw [fault.2]; rfl
  | kind => rw [fault.2]; rfl
  | clauses => exact Value.ClausesFault.isFinding fault
  | shape name =>
    obtain ⟨clauses, -, fault⟩ := fault
    cases name with
    | orderBy => exact fault.elim
    | _ => rw [fault.2]; rfl
  | entries =>
    obtain ⟨kind, clauses, -, -, fault⟩ := fault
    cases kind with
    | select => exact fault.elim
    | delete => exact fault.elim
    | _ => rw [fault.2]; rfl
  | target =>
    rw [fault.2.2]
    split <;> rfl
  | order =>
    obtain ⟨-, clauses, -, -, first⟩ := fault
    obtain ⟨leaf, -, fault⟩ := first.exists_fault
    exact fault.isFinding

/-- A request whose mappings have texts for keys is accepted exactly when it is documented; any other
one is told its first fault. -/
theorem accepts_exactly_documented (textual : request.HasTextKeys) :
    ((∃ statement, request.statement = .ok statement) ↔ request.Documented) ∧
      (¬ request.Documented → ∃ e, request.statement = .error e ∧
        (Failure.statement e).message? = some e.message ∧
        FirstFault request.Fault Check.all e) := by
  refine ⟨exists_statement_eq_ok textual, fun undocumented => ?_⟩
  have reports := reports_statement textual
  cases h : request.statement with
  | ok statement => exact absurd ((exists_statement_eq_ok textual).mp ⟨statement, h⟩) undocumented
  | error e =>
    have first := reports.error_iff.mp h
    obtain ⟨check, -, fault⟩ := first.exists_fault
    exact ⟨e, rfl, fault.message, first⟩

/-- A request to insert a user or to rename the one that is there. -/
def renameUser (data limit offset : Value) : Request where
  kind := .text "Upsert"
  table := .text "users"
  clauses := .map [(.text "data", data), (.text "upsert_only_update_data", .map [(.text "name", .text "ann")]),
    (.text "where", .map [(.text "id", .int 1)]), (.text "limit", limit), (.text "offset", offset)]
  target := .text "id"

theorem hasTextKeys_renameUser {data limit offset : Value} (textual : data.HasTextKeys) :
    (renameUser data limit offset).HasTextKeys := by
  constructor
  · show ∀ key ∈ [Value.text "data", .text "upsert_only_update_data", .text "where", .text "limit",
      .text "offset"], key.IsLabel
    decide
  · intro clauses gives
    obtain rfl := Except.ok.inj (Clauses.ofValue_eq_ok.mpr gives)
    exact textual

/-- With data the request is as documented. Without data, with a limit below zero and an offset that is
no number it is told its limit. -/
theorem renameUser_is_documented_or_told_its_limit :
    (renameUser (.map [(.text "id", .int 1)]) .null .null).Documented ∧
      FirstFault (renameUser .null (.int (-1)) (.bool true)).Fault Check.all (.notCount .limit) := by
  constructor
  · have textual : (renameUser (.map [(.text "id", .int 1)]) .null .null).HasTextKeys :=
      hasTextKeys_renameUser (by decide)
    exact (accepts_exactly_documented textual).1.mp ⟨_, rfl⟩
  · have textual : (renameUser .null (.int (-1)) (.bool true)).HasTextKeys :=
      hasTextKeys_renameUser (by decide)
    have refused : (renameUser .null (.int (-1)) (.bool true)).statement
        = .error (.notCount .limit) := by rfl
    have undocumented : ¬ (renameUser .null (.int (-1)) (.bool true)).Documented := by
      rw [← (accepts_exactly_documented textual).1, refused]
      rintro ⟨statement, ⟨⟩⟩
    obtain ⟨e, h, -, first⟩ := (accepts_exactly_documented textual).2 undocumented
    rw [refused, Except.error.injEq] at h
    exact h ▸ first

end Request

end TableModel
