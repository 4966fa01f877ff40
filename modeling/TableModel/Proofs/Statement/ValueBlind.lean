/-
# TableModel.Proofs.Statement.ValueBlind — values do not influence the text

Two requests that differ in nothing but the values under the columns of `where`, `data` and
`upsert_only_update_data` are refused for the same reason, or they give the same text and the same
record in the log. Their bindings differ then, but only in the values: each value is bound as it was
given, and the values of a column stand at the same position in both.

The two requests are followed side by side. What is said of them at each check is that the columns
are the same, and that is all the text is made of.
-/
import TableModel.Model.Basic
import TableModel.Proofs.Statement.Accepted

namespace TableModel

/-! ## Values that may differ -/

namespace Value

/-- Two mappings with the same keys in the same order, or the same value twice. -/
inductive SameKeys : Value → Value → Prop
  | same (value : Value) : SameKeys value value
  | map {entries others : List (Value × Value)}
      (keys : entries.map Prod.fst = others.map Prod.fst) : SameKeys (.map entries) (.map others)

/-- The keys of the clauses that hold values: conditions, data and updates. -/
def holdsValues (key : Value) : Bool :=
  [ClauseName.filter, .data, .updates].any fun clause => key.isText clause.key

/-- Two entries of bundles of clauses that differ at most in the values of a clause. -/
structure SameEntry (entry other : Value × Value) : Prop where
  key : entry.1 = other.1
  columns : entry.2.SameKeys other.2
  value : holdsValues entry.1 = false → entry.2 = other.2

/-- Two bundles of clauses that are equal except for the values of conditions, data and updates. -/
inductive SameButValues : Value → Value → Prop
  | same (value : Value) : SameButValues value value
  | record {filter filter' data data' updates updates' : Value} (limit offset orderBy : Value)
      (filters : filter.SameKeys filter') (datas : data.SameKeys data')
      (updatings : updates.SameKeys updates') :
      SameButValues (.clauses filter data updates limit offset orderBy)
        (.clauses filter' data' updates' limit offset orderBy)
  | map {entries others : List (Value × Value)} (each : List.Forall₂ SameEntry entries others) :
      SameButValues (.map entries) (.map others)

theorem SameKeys.keys_members {value other : Value} (same : value.SameKeys other) :
    value.members.map Prod.fst = other.members.map Prod.fst := by
  cases same with
  | same => rfl
  | map keys => exact keys

end Value

open Value

theorem ClauseName.eq_of_key {clause other : ClauseName} (h : clause.key = other.key) :
    clause = other := by
  cases clause <;> cases other <;> simp [key] at h ⊢

/-! ## Reading clauses side by side -/

namespace Clauses

/-- Clauses that are equal except for the values of conditions, data and updates. -/
structure SameColumns (clauses other : Clauses) : Prop where
  filter : clauses.filter.SameKeys other.filter
  data : clauses.data.SameKeys other.data
  updates : clauses.updates.SameKeys other.updates
  limit : clauses.limit = other.limit
  offset : clauses.offset = other.offset
  orderBy : clauses.orderBy = other.orderBy

theorem SameColumns.refl (clauses : Clauses) : clauses.SameColumns clauses :=
  ⟨.same _, .same _, .same _, rfl, rfl, rfl⟩

end Clauses

section Bundles

variable {entries others : List (Value × Value)}

theorem keys_eq_of_sameEntries (each : List.Forall₂ SameEntry entries others) :
    entries.map Prod.fst = others.map Prod.fst := by
  induction each with
  | nil => rfl
  | cons first _ ih => rw [List.map_cons, List.map_cons, first.key, ih]

/-- What stands under a text is the same but for the values of a clause. -/
theorem field_sameEntries (each : List.Forall₂ SameEntry entries others) (name : String) :
    (field name entries).SameKeys (field name others) := by
  induction each with
  | nil => exact .same _
  | @cons entry other rest others first _ ih =>
    unfold field field? at ih ⊢
    rw [List.find?_cons, List.find?_cons, ← first.key]
    cases entry.1.isText name with
    | true => exact first.columns
    | false => exact ih

/-- What stands under the text of another clause is the same. -/
theorem field_eq_of_sameEntries (each : List.Forall₂ SameEntry entries others) {name : String}
    (other : ∀ key : Value, key.isText name = true → key.holdsValues = false) :
    field name entries = field name others := by
  induction each with
  | nil => rfl
  | @cons entry _ rest _ first _ ih =>
    unfold field field? at ih ⊢
    rw [List.find?_cons, List.find?_cons, ← first.key]
    cases h : entry.1.isText name with
    | true => exact first.value (other entry.1 h)
    | false => exact ih

end Bundles

namespace Clauses

/-- Bundles are read side by side: the checks look at their keys only. -/
theorem agree_ofValue {value other : Value} (same : value.SameButValues other) :
    ChecksAgree SameColumns (ofValue value) (ofValue other) := by
  cases same with
  | same =>
    cases ofValue value with
    | error e => exact .failed e
    | ok clauses => exact .passed (.refl clauses)
  | record limit offset orderBy filters datas updatings =>
    exact .passed ⟨filters, datas, updatings, rfl, rfl, rfl⟩
  | @map entries others each =>
    have unknown : unknownKeys keys entries = unknownKeys keys others := by
      unfold unknownKeys
      rw [keys_eq_of_sameEntries each]
    have apart : ∀ clause : ClauseName, clause ∉ [ClauseName.filter, .data, .updates] →
        field clause.key entries = field clause.key others := by
      refine fun clause h => field_eq_of_sameEntries each fun key named => ?_
      refine Bool.eq_false_iff.mpr fun holds => h ?_
      obtain ⟨valued, listed, other⟩ := List.any_eq_true.mp holds
      rwa [ClauseName.eq_of_key (eq_of_isText named other)]
    unfold ofValue
    dsimp only
    rw [unknown]
    cases unknownKeys keys others with
    | nil =>
      exact .passed ⟨field_sameEntries each _, field_sameEntries each _, field_sameEntries each _,
        apart .limit (by decide), apart .offset (by decide), apart .orderBy (by decide)⟩
    | cons key rest =>
      dsimp only
      cases sortedContents? (key :: rest) with
      | none => exact .failed _
      | some names => exact .failed _

end Clauses

theorem ClauseName.agree_entries (clause : ClauseName) {value other : Value}
    (same : value.SameKeys other) :
    ChecksAgree (fun entries others => entries.map Prod.fst = others.map Prod.fst)
      (clause.entries value) (clause.entries other) := by
  cases same with
  | same =>
    cases clause.entries value with
    | error e => exact .failed e
    | ok entries => exact .passed rfl
  | map keys => exact .passed keys

theorem isEmpty_of_keys {entries others : List (Value × Value)}
    (keys : entries.map Prod.fst = others.map Prod.fst) : entries.isEmpty = others.isEmpty := by
  cases entries <;> cases others <;> simp at keys ⊢

namespace Row

variable {entries others : List (Value × Value)}

theorem columns_ofEntries_of_keys (keys : entries.map Prod.fst = others.map Prod.fst) :
    (ofEntries entries).columns = (ofEntries others).columns := by
  rw [columns_ofEntries, columns_ofEntries, keys]

theorem agree_ofTextEntries (keys : entries.map Prod.fst = others.map Prod.fst) :
    ChecksAgree (fun row other => row.columns = other.columns) (ofTextEntries entries)
      (ofTextEntries others) := by
  induction entries generalizing others with
  | nil =>
    obtain rfl := List.map_eq_nil_iff.mp keys.symm
    exact .passed rfl
  | cons entry rest ih =>
    cases others with
    | nil => cases keys
    | cons other others =>
      obtain ⟨key, value⟩ := entry
      obtain ⟨key', value'⟩ := other
      rw [List.map_cons, List.map_cons, List.cons.injEq] at keys
      obtain ⟨rfl, tails⟩ := keys
      unfold ofTextEntries
      cases key with
      | label name => exact (ih tails).map fun row other h => congrArg (List.cons name.content) h
      | _ => exact .failed _

theorem length_values (row : Row) : row.values.length = row.columns.length := by
  rw [values, columns, List.length_map, List.length_map]

end Row

/-! ## Statements side by side -/

namespace Statement

/-- Two statements that are equal except for the values of their rows. -/
inductive SameColumns : Statement → Statement → Prop
  | select (table : String) {filter filter' : Row} (order : Option OrderSpec) (page : Option Page)
      (filters : filter.columns = filter'.columns) :
      SameColumns (.select table filter order page) (.select table filter' order page)
  | delete (table : String) {filter filter' : Row} (filters : filter.columns = filter'.columns) :
      SameColumns (.delete table filter) (.delete table filter')
  | insert (replace : Bool) (table : String) {row row' : Row}
      (rows : row.columns = row'.columns) :
      SameColumns (.insert replace table row) (.insert replace table row')
  | update (table : String) {changes changes' filter filter' : Row}
      (changings : changes.columns = changes'.columns)
      (filters : filter.columns = filter'.columns) :
      SameColumns (.update table changes filter) (.update table changes' filter')
  | upsert (table : String) {row row' : Row} (target : List String)
      {changes changes' filter filter' : Row} (rows : row.columns = row'.columns)
      (changings : changes.columns = changes'.columns)
      (filters : filter.columns = filter'.columns) :
      SameColumns (.upsert table row target changes filter)
        (.upsert table row' target changes' filter')

namespace SameColumns

variable {statement other : Statement}

theorem text_eq (same : statement.SameColumns other) : statement.text = other.text := by
  cases same with
  | select table order page filters => rw [text_select, text_select, filters]
  | delete table filters => rw [text_delete, text_delete, filters]
  | insert replace table rows => rw [text_insert, text_insert, rows]
  | update table changings filters => rw [text_update, text_update, changings, filters]
  | upsert table target rows changings filters =>
    rw [text_upsert, text_upsert, rows, changings, filters]

theorem length_bindings_eq (same : statement.SameColumns other) :
    statement.bindings.length = other.bindings.length := by
  cases same with
  | select table order page filters =>
    rw [bindings_select, bindings_select, Row.length_values, Row.length_values, filters]
  | delete table filters =>
    rw [bindings_delete, bindings_delete, Row.length_values, Row.length_values, filters]
  | insert replace table rows =>
    rw [bindings_insert, bindings_insert, Row.length_values, Row.length_values, rows]
  | update table changings filters =>
    simp only [bindings_update, List.length_append, Row.length_values, changings, filters]
  | upsert table target rows changings filters =>
    simp only [bindings_upsert, List.length_append, Row.length_values, rows, changings, filters]

/-- What the log says does not depend on the values either. -/
theorem generatedMessage_eq (same : statement.SameColumns other) :
    statement.generatedMessage = other.generatedMessage := by
  have kind : statement.kind = other.kind := by
    cases same <;> rfl
  have table : statement.table = other.table := by
    cases same <;> rfl
  unfold generatedMessage
  rw [kind, table, same.text_eq, same.length_bindings_eq]

end SameColumns

/-- Clauses of the same columns make statements of the same columns. -/
theorem agree_ofClauses (kind : StatementKind) (table : Label) {clauses other : Clauses}
    (target : Value) (same : clauses.SameColumns other) :
    ChecksAgree SameColumns (ofClauses kind table clauses target)
      (ofClauses kind table other target) := by
  unfold ofClauses
  rw [← same.limit, ← same.offset, ← same.orderBy]
  refine (ClauseName.filter.agree_entries same.filter).bind fun filter filter' filters => ?_
  refine (ClauseName.data.agree_entries same.data).bind fun data data' datas => ?_
  refine (ClauseName.updates.agree_entries same.updates).bind fun updates updates' updatings => ?_
  refine ChecksAgree.bind_same _ fun limit => ChecksAgree.bind_same _ fun offset => ?_
  have filtered := Row.columns_ofEntries_of_keys filters
  rw [isEmpty_of_keys filters, isEmpty_of_keys datas, isEmpty_of_keys updatings]
  cases kind with
  | select =>
    refine ChecksAgree.bind_same _ fun order => ?_
    exact .passed (.select _ _ _ filtered)
  | delete => exact .passed (.delete _ filtered)
  | insert | insertOrReplace =>
    refine ChecksAgree.refuse ((Row.agree_ofTextEntries datas).bind fun row row' rows => ?_)
    exact .passed (.insert _ _ rows)
  | update =>
    refine ChecksAgree.refuse (.passed (.update _ (Row.columns_ofEntries_of_keys datas) filtered))
  | upsert =>
    refine ChecksAgree.refuse (ChecksAgree.bind_same _ fun names => ?_)
    refine (Row.agree_ofTextEntries datas).bind fun row row' rows => ?_
    exact .passed (.upsert _ _ rows (Row.columns_ofEntries_of_keys updatings) filtered)

end Statement

/-! ## Requests side by side -/

/-- The values that a statement binds are those of the entries that its kind binds. -/
theorem Statement.Made.bindings_eq {kind : StatementKind} {table : Label} {clauses : Clauses}
    {target : Value} {statement : Statement} (made : Made table clauses target kind statement) :
    statement.bindings = (clauses.bound kind).map Prod.snd := by
  cases made with
  | select | delete =>
    simp only [bindings_select, bindings_delete, Row.values_ofEntries, Clauses.bound]
  | insert given texts | insertOrReplace given texts =>
    obtain ⟨labels, -, -, hvalues⟩ := Row.exists_labels_of_ofTextEntries texts
    rw [bindings_insert, hvalues]
    rfl
  | update given =>
    rw [bindings_update, Row.values_ofEntries, Row.values_ofEntries, Clauses.bound, List.map_append]
  | upsert given changes filtered targeted texts =>
    obtain ⟨labels, -, -, hvalues⟩ := Row.exists_labels_of_ofTextEntries texts
    rw [bindings_upsert, hvalues, Row.values_ofEntries, Row.values_ofEntries, Clauses.bound,
      List.map_append, List.map_append, List.append_assoc]

/-- The entries that a kind binds have the same keys in the same order. -/
theorem Clauses.SameColumns.keys_bound {clauses other : Clauses} (same : clauses.SameColumns other)
    (kind : StatementKind) :
    (clauses.bound kind).map Prod.fst = (other.bound kind).map Prod.fst := by
  cases kind <;>
    simp only [bound, List.map_append, same.filter.keys_members, same.data.keys_members,
      same.updates.keys_members]

namespace Request

variable (request : Request) {other : Value}

theorem agree_statement (same : request.clauses.SameButValues other) :
    ChecksAgree Statement.SameColumns request.statement
      ({ request with clauses := other } : Request).statement := by
  unfold Request.statement
  dsimp only
  cases request.table.name? with
  | none => exact .failed _
  | some table =>
    refine ChecksAgree.bind_same _ fun kind => ?_
    refine (Clauses.agree_ofValue same).bind fun clauses clauses' columns => ?_
    exact Statement.agree_ofClauses kind table request.target columns

theorem generate_of_error {e : StatementError} (h : request.statement = .error e)
    (scripts : Scripts) : request.generate scripts = ⟨.error (.statement e), scripts, []⟩ := by
  rw [generate, h]
  rfl

theorem generate_of_ok {statement : Statement} (h : request.statement = .ok statement)
    (scripts : Scripts) :
    request.generate scripts
      = ⟨.ok statement, scripts, [.log ⟨.debug, .statement, statement.generatedMessage⟩]⟩ := by
  rw [generate, h]
  rfl

/-- Two requests fail with the same error, or they make the same text and the same record in the
log. Each binds its own values then, and those of an entry stand at the same position in both. -/
inductive GeneratesAlike (request other : Request) (scripts : Scripts) : Prop
  | refused {e : StatementError}
      (left : request.generate scripts = ⟨.error (.statement e), scripts, []⟩)
      (right : other.generate scripts = ⟨.error (.statement e), scripts, []⟩)
  | made {statement statement' : Statement} {message : String} {kind : StatementKind}
      {clauses clauses' : Clauses}
      (left : request.generate scripts
        = ⟨.ok statement, scripts, [.log ⟨.debug, .statement, message⟩]⟩)
      (right : other.generate scripts
        = ⟨.ok statement', scripts, [.log ⟨.debug, .statement, message⟩]⟩)
      (text : statement.query.text = statement'.query.text)
      (length : statement.query.bindings.length = statement'.query.bindings.length)
      (kind_eq : StatementKind.ofValue request.kind = .ok kind)
      (clauses_eq : Clauses.ofValue request.clauses = .ok clauses)
      (clauses_eq' : Clauses.ofValue other.clauses = .ok clauses')
      (bindings : statement.query.bindings = (clauses.bound kind).map Prod.snd)
      (bindings' : statement'.query.bindings = (clauses'.bound kind).map Prod.snd)
      (keys : (clauses.bound kind).map Prod.fst = (clauses'.bound kind).map Prod.fst)

/-- Requests that differ in nothing but the values of their clauses generate alike. -/
theorem generate_ignores_values (same : request.clauses.SameButValues other) (scripts : Scripts) :
    request.GeneratesAlike { request with clauses := other } scripts := by
  rcases (request.agree_statement same).failed_or_passed with
    ⟨e, h, h'⟩ | ⟨statement, statement', h, h', columns⟩
  · exact .refused (request.generate_of_error h scripts) (generate_of_error _ h' scripts)
  · obtain ⟨kind, table, clauses, parts⟩ := statement_eq_ok.mp h
    obtain ⟨kind', table', clauses', parts'⟩ := statement_eq_ok.mp h'
    obtain rfl := Except.ok.inj (parts.kind_eq.symm.trans parts'.kind_eq)
    have read := Clauses.agree_ofValue same
    rw [parts.clauses_eq, parts'.clauses_eq] at read
    have generated := request.generate_of_ok h scripts
    have generated' := generate_of_ok _ h' scripts
    rw [← columns.generatedMessage_eq] at generated'
    cases read with
    | passed same =>
      exact .made generated generated' columns.text_eq columns.length_bindings_eq parts.kind_eq
        parts.clauses_eq parts'.clauses_eq parts.made.bindings_eq parts'.made.bindings_eq
        (same.keys_bound kind)

/-- A request for the users of a name. -/
def namedUsers (name : Value) : Request where
  kind := .label (.statementKind .select)
  table := .text "users"
  clauses := .map [(.text "where", .map [(.text "name", name)]), (.text "limit", .int 1)]

theorem sameButValues_namedUsers (name other : Value) :
    (namedUsers name).clauses.SameButValues (namedUsers other).clauses := by
  have valued : (Value.text "where").holdsValues = true := by decide
  refine .map (.cons ⟨rfl, .map rfl, fun h => ?_⟩ (.cons ⟨rfl, .same _, fun _ => rfl⟩ .nil))
  rw [valued] at h
  cases h

/-- A name that is itself a piece of a statement, and a list in place of a name, change nothing. -/
theorem namedUsers_generate_alike :
    (namedUsers (.text "ann")).GeneratesAlike (namedUsers (.text "' OR 1 = 1; --")) [] ∧
      (namedUsers (.text "ann")).GeneratesAlike (namedUsers (.list [.null])) [] :=
  ⟨generate_ignores_values _ (sameButValues_namedUsers _ _) [],
    generate_ignores_values _ (sameButValues_namedUsers _ _) []⟩

end Request

end TableModel
