/-
# TableModel.Proofs.Schema.WellFormed — the definitions that are schemas

A definition is well formed when its options, names and columns can be read and the parts agree with
each other. `WellFormed` says this without an order of checks and without errors: which columns the
primary keys need, which of them may count up, which groups are unique together. The main statement
is that validation accepts exactly the well-formed definitions, and that whatever else it is given,
it refuses with a finding about the definition.

One thing has to be given for the last part: keys of descriptors are text. The keys that nobody
knows are listed in the error, and other values than texts cannot be listed.
-/
import TableModel.Proofs.Schema.Reading

namespace TableModel

/-- A name is among others, by content. -/
def Label.IsAmong (name : Label) (names : List Label) : Prop :=
  ∃ other ∈ names, other.content = name.content

namespace Schema

/-! ## The rules -/

/-- Primary keys agree with columns: every key is a column, and every column that is flagged as a
primary key is a key. -/
structure KeysAgree (primaryKeys : List Label) (columns : List (Label × Column)) : Prop where
  exist : ∀ key ∈ primaryKeys, key.IsAmong (columns.map Prod.fst)
  listed : ∀ entry ∈ columns, entry.2.primaryKey = true → entry.1.IsAmong primaryKeys

/-- The value that asks for a column to count up: the option of the table, or else the column that
is flagged. -/
def effectiveAutoIncrement (option : Value) (columns : List (Label × Column)) : Value :=
  match option with
  | .null => ((flagged columns).head?.map Value.label).getD .null
  | given => given

/-- At most one column is flagged to count up. What counts up, if anything does, is named by a text,
is the flagged column where there is one, and is an integer and the only primary key. -/
structure AutoIncrementAgrees (option : Value) (primaryKeys : List Label)
    (columns : List (Label × Column)) : Prop where
  once : (flagged columns).length ≤ 1
  counts : effectiveAutoIncrement option columns = .null ∨
    ∃ name : Label, effectiveAutoIncrement option columns = .label name ∧
      (∀ flag ∈ flagged columns, flag.content = name.content) ∧
      (∃ key, primaryKeys = [key] ∧ key.content = name.content) ∧
      ∃ column, column? columns name = some column ∧ column.type = .integer

/-- A value gives a group of unique columns: a list or tuple of at least one column. -/
def GivesGroup (columns : List (Label × Column)) (group : Value) (names : List Label) : Prop :=
  group.IsSequence (names.map Value.label) ∧ names ≠ [] ∧
    ∀ name ∈ names, name.IsAmong (columns.map Prod.fst)

/-- A value gives groups of unique columns: none when it is null, else those of its items. -/
inductive GivesGroups (columns : List (Label × Column)) : Value → List (List Label) → Prop
  | absent : GivesGroups columns .null []
  | sequence {value : Value} {items : List Value} {groups : List (List Label)}
      (shape : value.IsSequence items) (each : List.Forall₂ (GivesGroup columns) items groups) :
      GivesGroups columns value groups

/-- The parts of a definition agree with each other. -/
structure KeepsRules (options : TableOptions) (primaryKeys : List Label)
    (columns : List (Label × Column)) : Prop where
  keys : KeysAgree primaryKeys columns
  autoIncrement : AutoIncrementAgrees options.autoIncrement primaryKeys columns
  uniqueKeys : ∃ groups, GivesGroups columns options.uniqueKeys groups
  rowNumbers : effectiveAutoIncrement options.autoIncrement columns = .null ∨
    options.withoutRowid.truth = false

/-- Options and columns that can be read, and whose parts agree with each other. -/
def WellFormed (options columns : Value) : Prop :=
  ∃ (given : TableOptions) (tableName : Label) (primaryKeys : List Label)
    (declared : List (Label × Column)),
    options.GivesOptions given ∧ given.tableName = .label tableName ∧ tableName.isEmpty = false ∧
      given.primaryKeys.ListsNames primaryKeys ∧ columns.GivesColumns declared ∧
      KeepsRules given primaryKeys (collect declared)

/-! ## The checks decide the rules -/

theorem isIn_iff_isAmong {name : Label} {names : List Label} :
    name.isIn names = true ↔ name.IsAmong names :=
  Label.isIn_iff

theorem checkPrimaryKeys_eq_ok {primaryKeys : List Label} {columns : List (Label × Column)} :
    checkPrimaryKeys primaryKeys columns = .ok () ↔ KeysAgree primaryKeys columns := by
  have found : columns.find? (fun entry => entry.2.primaryKey && !entry.1.isIn primaryKeys) = none ↔
      ∀ entry ∈ columns, entry.2.primaryKey = true → entry.1.IsAmong primaryKeys := by
    simp [← isIn_iff_isAmong]
  unfold checkPrimaryKeys
  constructor
  · intro h
    split at h
    · rename_i exist
      refine ⟨fun key hkey => isIn_iff_isAmong.mp (List.all_eq_true.mp exist key hkey), ?_⟩
      split at h
      · simp at h
      · rename_i hnone
        exact found.mp hnone
    · simp at h
  · rintro ⟨exist, listed⟩
    have all : primaryKeys.all (hasColumn columns) = true :=
      List.all_eq_true.mpr fun key hkey => isIn_iff_isAmong.mpr (exist key hkey)
    rw [if_pos all, found.mpr listed]

/-- What is asked for is read when at most one column is flagged and the flag agrees with it. -/
theorem requestedAutoIncrement_eq_ok {option value : Value} {columns : List (Label × Column)} :
    requestedAutoIncrement option columns = .ok value ↔
      (flagged columns).length ≤ 1 ∧ effectiveAutoIncrement option columns = value ∧
        ∀ flag ∈ flagged columns, value.isText flag.content = true := by
  unfold requestedAutoIncrement effectiveAutoIncrement
  match hflags : flagged columns with
  | [] => cases option <;> simp
  | [name] =>
    cases option with
    | null =>
      simp only [Except.ok.injEq, List.length_singleton, Nat.le_refl, List.head?_cons,
        Option.map_some, Option.getD_some, List.forall_mem_singleton, true_and]
      constructor
      · rintro rfl
        exact ⟨rfl, by simp [Value.isText]⟩
      · exact fun h => h.1
    | _ =>
      simp only [List.length_singleton, Nat.le_refl, List.forall_mem_singleton, true_and]
      split
      · rename_i agrees
        rw [Except.ok.injEq]
        constructor
        · rintro rfl
          exact ⟨rfl, agrees⟩
        · exact fun h => h.1
      · rename_i differs
        simp only [reduceCtorEq, false_iff]
        rintro ⟨rfl, agrees⟩
        exact differs agrees
  | _ :: _ :: _ => simp

/-- Nothing is asked for only when no column is flagged. -/
theorem flagged_eq_nil {option : Value} {columns : List (Label × Column)}
    (absent : effectiveAutoIncrement option columns = .null) : flagged columns = [] := by
  unfold effectiveAutoIncrement at absent
  split at absent
  · cases hflags : flagged columns with
    | nil => rfl
    | cons flag rest => simp [hflags] at absent
  · rename_i given
    exact absurd absent given

/-- A column that is a label counts up when it is the only key and an integer. -/
theorem readAutoIncrement_eq_ok {option : Value} {primaryKeys : List Label}
    {columns : List (Label × Column)} {result : Option Label} :
    readAutoIncrement option primaryKeys columns = .ok result ↔
      AutoIncrementAgrees option primaryKeys columns ∧
        (effectiveAutoIncrement option columns).label? = result := by
  unfold readAutoIncrement
  rw [bind_eq_ok]
  constructor
  · rintro ⟨value, hvalue, h⟩
    obtain ⟨once, rfl, agrees⟩ := requestedAutoIncrement_eq_ok.mp hvalue
    split at h
    · rename_i absent
      obtain rfl := pure_eq_ok.mp h
      exact ⟨⟨once, .inl absent⟩, by rw [absent]; rfl⟩
    · rename_i name hname
      -- the three checks of a name, in their order
      obtain ⟨isKey, h⟩ := refuse_eq_ok.mp h
      obtain ⟨oneKey, h⟩ := refuse_eq_ok.mp h
      obtain ⟨isInteger, h⟩ := refuse_eq_ok.mp h
      obtain rfl := pure_eq_ok.mp h
      obtain ⟨key, rfl⟩ := List.length_eq_one_iff.mp (by simpa using oneKey)
      have hkey : key.content = name.content := by simpa [Label.isIn] using isKey
      obtain ⟨column, hcolumn, integer⟩ : ∃ column, column? columns name = some column ∧
          column.type = .integer := by
        simpa using isInteger
      refine ⟨⟨once, .inr ⟨name, hname, ?_, ⟨key, rfl, hkey⟩, column, hcolumn, integer⟩⟩,
        by rw [hname]; rfl⟩
      intro flag hflag
      have htext := agrees flag hflag
      rw [hname] at htext
      exact (beq_iff_eq.mp htext).symm
    · exact (throw_ne_ok.mp h).elim
  · rintro ⟨⟨once, counts⟩, rfl⟩
    rcases counts with absent | ⟨name, hname, flags, ⟨key, rfl, hkey⟩, column, hcolumn, integer⟩
    · refine ⟨.null, requestedAutoIncrement_eq_ok.mpr
        ⟨once, absent, by simp [flagged_eq_nil absent]⟩, ?_⟩
      rw [absent]
      rfl
    · have requested : requestedAutoIncrement option columns = .ok (.label name) :=
        requestedAutoIncrement_eq_ok.mpr
          ⟨once, hname, fun flag hflag => by simp [Value.isText, flags flag hflag]⟩
      refine ⟨.label name, requested, ?_⟩
      refine refuse_eq_ok.mpr ⟨by simp [Label.isIn, hkey], refuse_eq_ok.mpr ⟨rfl, ?_⟩⟩
      refine refuse_eq_ok.mpr ⟨by simp [hcolumn, integer], ?_⟩
      rw [hname]
      rfl

theorem readUniqueKey_eq_ok {columns : List (Label × Column)} {group : Value} {names : List Label} :
    readUniqueKey columns group = .ok names ↔ GivesGroup columns group names := by
  have found : ∀ names : List Label, names.find? (fun name => !hasColumn columns name) = none ↔
      ∀ name ∈ names, name.IsAmong (columns.map Prod.fst) := by
    simp [← isIn_iff_isAmong, hasColumn]
  constructor
  · intro h
    unfold readUniqueKey at h
    split at h
    · rename_i item rest hitems
      split at h
      · rename_i read hread
        split at h
        · simp at h
        · rename_i hnone
          obtain rfl := Except.ok.inj h
          have labels := Value.mapM_label?_eq_some.mp hread
          rw [labels, Value.sequence?_eq_some] at hitems
          refine ⟨hitems, ?_, (found _).mp hnone⟩
          rintro rfl
          simp at labels
      · simp at h
    · simp at h
  · rintro ⟨shape, given, exist⟩
    obtain ⟨name, rest, rfl⟩ := List.exists_cons_of_ne_nil given
    have labels : (Value.label name :: rest.map Value.label).mapM Value.label? = some (name :: rest) :=
      Value.mapM_label?_eq_some.mpr rfl
    unfold readUniqueKey
    rw [Value.sequence?_eq_some.mpr shape]
    simp only [List.map_cons, labels, (found _).mpr exist]

theorem readUniqueKeys_eq_ok {columns : List (Label × Column)} {value : Value}
    {groups : List (List Label)} :
    readUniqueKeys columns value = .ok groups ↔ GivesGroups columns value groups := by
  have each : ∀ {items : List Value}, items.mapM (readUniqueKey columns) = .ok groups ↔
      List.Forall₂ (GivesGroup columns) items groups := by
    intro items
    simp only [mapM_eq_ok, readUniqueKey_eq_ok]
  constructor
  · intro h
    cases value with
    | null =>
      obtain rfl := Except.ok.inj h
      exact .absent
    | list items => exact .sequence (.list items) (each.mp h)
    | tuple items => exact .sequence (.tuple items) (each.mp h)
    | _ => simp [readUniqueKeys] at h
  · intro h
    cases h with
    | absent => rfl
    | sequence shape given =>
      cases shape with
      | list items => exact each.mpr given
      | tuple items => exact each.mpr given

/-! ## Validation -/

/-- A schema has the parts that are read from a definition. -/
structure ReadFrom (options columns : Value) (given : TableOptions)
    (declared : List (Label × Column)) (schema : Schema) : Prop where
  options : options.GivesOptions given
  tableName : given.tableName = .label schema.tableName
  named : schema.tableName.isEmpty = false
  primaryKeys : given.primaryKeys.ListsNames schema.primaryKeys
  declares : columns.GivesColumns declared
  columns : collect declared = schema.columns
  autoIncrement :
    (effectiveAutoIncrement given.autoIncrement schema.columns).label? = schema.autoIncrement
  uniqueKeys : GivesGroups schema.columns given.uniqueKeys schema.uniqueKeys
  withoutRowid : given.withoutRowid = schema.withoutRowid

/-- Validation yields the schema that is read from a definition whose parts agree. -/
theorem ofDefinition_eq_ok {options columns : Value} {schema : Schema} :
    ofDefinition options columns = .ok schema ↔
      ∃ given declared, ReadFrom options columns given declared schema ∧
        KeepsRules given schema.primaryKeys schema.columns := by
  constructor
  · intro h
    obtain ⟨given, hgiven, h⟩ := bind_eq_ok.mp h
    obtain ⟨tableName, htable, h⟩ := bind_eq_ok.mp h
    obtain ⟨primaryKeys, hkeys, h⟩ := bind_eq_ok.mp h
    obtain ⟨collected, hcolumns, h⟩ := bind_eq_ok.mp h
    obtain ⟨⟨⟩, hagree, h⟩ := bind_eq_ok.mp h
    obtain ⟨autoIncrement, hauto, h⟩ := bind_eq_ok.mp h
    obtain ⟨uniqueKeys, hunique, h⟩ := bind_eq_ok.mp h
    obtain ⟨hrowid, h⟩ := refuse_eq_ok.mp h
    obtain rfl := pure_eq_ok.mp h
    obtain ⟨label, named⟩ := readTableName_eq_ok.mp htable
    obtain ⟨declared, hdeclared, rfl⟩ := readColumns_eq_ok.mp hcolumns
    obtain ⟨agrees, rfl⟩ := readAutoIncrement_eq_ok.mp hauto
    have groups := readUniqueKeys_eq_ok.mp hunique
    refine ⟨given, declared, ⟨TableOptions.ofValue_eq_ok.mp hgiven, label, named,
      readPrimaryKeys_eq_ok.mp hkeys, hdeclared, rfl, rfl, groups, rfl⟩,
      checkPrimaryKeys_eq_ok.mp hagree, agrees, ⟨_, groups⟩, ?_⟩
    -- something counts up exactly when the effective value is a label
    rcases agrees.counts with absent | ⟨name, hname, -⟩
    · exact .inl absent
    · exact .inr (by simpa [hname, Value.label?] using hrowid)
  · rintro ⟨given, declared, parts, rules⟩
    refine bind_eq_ok.mpr ⟨given, TableOptions.ofValue_eq_ok.mpr parts.options, ?_⟩
    refine bind_eq_ok.mpr ⟨_, readTableName_eq_ok.mpr ⟨parts.tableName, parts.named⟩, ?_⟩
    refine bind_eq_ok.mpr ⟨_, readPrimaryKeys_eq_ok.mpr parts.primaryKeys, ?_⟩
    refine bind_eq_ok.mpr ⟨_, readColumns_eq_ok.mpr ⟨declared, parts.declares, parts.columns⟩, ?_⟩
    refine bind_eq_ok.mpr ⟨(), checkPrimaryKeys_eq_ok.mpr rules.keys, ?_⟩
    refine bind_eq_ok.mpr
      ⟨_, readAutoIncrement_eq_ok.mpr ⟨rules.autoIncrement, parts.autoIncrement⟩, ?_⟩
    refine bind_eq_ok.mpr ⟨_, readUniqueKeys_eq_ok.mpr parts.uniqueKeys, ?_⟩
    refine refuse_eq_ok.mpr ⟨?_, ?_⟩
    · rcases rules.rowNumbers with absent | rowid
      · rw [← parts.autoIncrement, absent]
        rfl
      · rw [rowid, Bool.and_false]
    · rw [parts.withoutRowid]
      rfl

/-- Some schema is read from a definition exactly when it is well formed. -/
theorem exists_ofDefinition_eq_ok_iff {options columns : Value} :
    (∃ schema, ofDefinition options columns = .ok schema) ↔ WellFormed options columns := by
  simp only [ofDefinition_eq_ok]
  constructor
  · rintro ⟨schema, given, declared, parts, rules⟩
    refine ⟨given, schema.tableName, schema.primaryKeys, declared, parts.options, parts.tableName,
      parts.named, parts.primaryKeys, parts.declares, ?_⟩
    rw [parts.columns]
    exact rules
  · rintro ⟨given, tableName, primaryKeys, declared, hoptions, htable, named, hkeys, hcolumns, rules⟩
    obtain ⟨groups, hgroups⟩ := rules.uniqueKeys
    let autoIncrement := (effectiveAutoIncrement given.autoIncrement (collect declared)).label?
    exact ⟨⟨tableName, collect declared, primaryKeys, autoIncrement, groups, given.withoutRowid⟩,
      given, declared, ⟨hoptions, htable, named, hkeys, hcolumns, rfl, rfl, hgroups, rfl⟩, rules⟩

/-! ## Refusals -/

/-- The error of a check that fails is a finding about the definition. -/
def Finds {α : Type} (result : Except SchemaError α) : Prop :=
  ∀ e, result = .error e → e.isFinding = true

namespace Finds

variable {α β : Type}

theorem ok (a : α) : Finds (.ok a : Except SchemaError α) := by
  intro e h
  cases h

theorem error {e : SchemaError} (h : e.isFinding = true) :
    Finds (.error e : Except SchemaError α) := by
  rintro e' ⟨⟩
  exact h

theorem bind {first : Except SchemaError α} {next : α → Except SchemaError β} (h : Finds first)
    (h' : ∀ a, Finds (next a)) : Finds (first >>= next) := by
  intro e he
  rcases bind_eq_error.mp he with he | ⟨a, _, he⟩
  · exact h e he
  · exact h' a e he

theorem refuse {refused : Bool} {e : SchemaError} {next : PUnit → Except SchemaError β}
    (h : e.isFinding = true) (h' : Finds (next ⟨⟩)) :
    Finds (if refused = true then throw e >>= next else next ⟨⟩) := by
  intro e' he
  rcases refuse_eq_error.mp he with ⟨-, rfl⟩ | ⟨-, he⟩
  · exact h
  · exact h' e' he

theorem map {first : Except SchemaError α} {f : α → β} (h : Finds first) : Finds (first.map f) := by
  intro e he
  exact h e (map_eq_error.mp he)

theorem mapM {f : α → Except SchemaError β} {items : List α} (h : ∀ item ∈ items, Finds (f item)) :
    Finds (items.mapM f) := by
  intro e he
  obtain ⟨item, hitem, he⟩ := exists_of_mapM_eq_error he
  exact h item hitem e he

end Finds

theorem finds_optionsOfValue (value : Value) : Finds (TableOptions.ofValue value) := by
  unfold TableOptions.ofValue
  split
  · exact .ok _
  · split
    · exact .ok _
    · exact .error rfl
  · exact .error rfl

/-- Keys that nobody knows are listed in the error, which they can be when they are texts. -/
theorem finds_descriptorOfValue (name : Label) {value : Value}
    (textual : value.HasTextKeys) :
    Finds (Descriptor.ofValue name value) := by
  unfold Descriptor.ofValue
  split
  · exact .ok _
  · rename_i entries
    split
    · exact .ok _
    · split
      · exact .error rfl
      · rename_i unlistable
        exact absurd unlistable (Value.sortedContents?_unknownKeys_ne_none textual)
  · exact .error rfl

theorem finds_typeOfValue (name : Label) (value : Value) : Finds (ColumnType.ofValue name value) := by
  unfold ColumnType.ofValue
  split
  · exact .ok _
  · split
    · exact .ok _
    · exact .error rfl
  · exact .error rfl

theorem finds_columnOfValue (name : Label) {value : Value}
    (textual : value.HasTextKeys) :
    Finds (Column.ofValue name value) := by
  refine .bind (finds_descriptorOfValue name textual) fun descriptor => ?_
  have typed := (finds_typeOfValue name descriptor.type).bind fun type => .ok (descriptor.column type)
  dsimp only
  split
  · split
    · exact typed
    · exact .bind (.error rfl) fun _ => typed
  · exact typed

theorem finds_readColumns {value : Value}
    (textual : ∀ entry ∈ value.members, entry.2.HasTextKeys) :
    Finds (readColumns value) := by
  unfold readColumns
  split
  · refine .map (.mapM fun entry hentry => ?_)
    unfold readColumn
    split
    · exact .map (finds_columnOfValue _ (textual entry hentry))
    · exact .error rfl
  · exact .error rfl

theorem finds_checkPrimaryKeys (primaryKeys : List Label) (columns : List (Label × Column)) :
    Finds (checkPrimaryKeys primaryKeys columns) := by
  unfold checkPrimaryKeys
  split
  · split
    · exact .error rfl
    · exact .ok _
  · exact .error rfl

theorem finds_readAutoIncrement (option : Value) (primaryKeys : List Label)
    (columns : List (Label × Column)) : Finds (readAutoIncrement option primaryKeys columns) := by
  refine .bind ?_ fun value => ?_
  · unfold requestedAutoIncrement
    split
    · exact .ok _
    · split
      · exact .ok _
      · split
        · exact .ok _
        · exact .error rfl
    · exact .error rfl
  · dsimp only
    split
    · exact .ok _
    · exact .refuse rfl (.refuse rfl (.refuse rfl (.ok _)))
    · exact .error rfl

theorem finds_readUniqueKeys (columns : List (Label × Column)) (value : Value) :
    Finds (readUniqueKeys columns value) := by
  have each : ∀ group, Finds (readUniqueKey columns group) := by
    intro group
    unfold readUniqueKey
    split
    · split
      · split
        · exact .error rfl
        · exact .ok _
      · exact .error rfl
    · exact .error rfl
  unfold readUniqueKeys
  split
  · exact .ok _
  · exact .mapM fun group _ => each group
  · exact .mapM fun group _ => each group
  · exact .error rfl

theorem finds_readTableName (value : Value) : Finds (readTableName value) := by
  unfold readTableName
  split
  · exact .ok _
  · exact .error rfl

theorem finds_readPrimaryKeys (value : Value) : Finds (readPrimaryKeys value) := by
  unfold readPrimaryKeys
  split
  · exact .ok _
  · exact .error rfl

theorem finds_ofDefinition {options columns : Value}
    (textual : ∀ entry ∈ columns.members, entry.2.HasTextKeys) :
    Finds (ofDefinition options columns) := by
  refine .bind (finds_optionsOfValue options) fun given => ?_
  refine .bind (finds_readTableName given.tableName) fun tableName => ?_
  refine .bind (finds_readPrimaryKeys given.primaryKeys) fun primaryKeys => ?_
  refine .bind (finds_readColumns textual) fun collected => ?_
  refine .bind (finds_checkPrimaryKeys primaryKeys collected) fun _ => ?_
  refine .bind (finds_readAutoIncrement given.autoIncrement primaryKeys collected) fun _ => ?_
  exact .bind (finds_readUniqueKeys collected given.uniqueKeys) fun _ => .refuse rfl (.ok _)

/-- Validation accepts exactly the well-formed definitions, and refuses every other one with a
finding about it. -/
theorem accepts_exactly_wellFormed {options columns : Value}
    (textual : ∀ entry ∈ columns.members, entry.2.HasTextKeys) :
    ((∃ schema, ofDefinition options columns = .ok schema) ↔ WellFormed options columns) ∧
      (¬ WellFormed options columns →
        ∃ error, ofDefinition options columns = .error error ∧ error.isFinding = true) := by
  refine ⟨exists_ofDefinition_eq_ok_iff, fun refused => ?_⟩
  cases result : ofDefinition options columns with
  | ok schema => exact absurd (exists_ofDefinition_eq_ok_iff.mp ⟨schema, result⟩) refused
  | error error => exact ⟨error, rfl, finds_ofDefinition textual error result⟩

/-- The options of a table of users whose ids are flagged to count up. -/
def usersOptions : Value :=
  .map [(.text "table_name", .text "users"), (.text "primary_keys", .tuple [.text "id"]),
    (.text "unique_keys", .list [.list [.text "name", .text "id"]])]

/-- The columns of the table of users, each given in another way. -/
def usersColumns : Value :=
  .map [(.text "id", .map [(.text "type", .text " INT "), (.text "auto_increment", .bool true)]),
    (.text "name", .descriptor (.label (.columnType .text)) .null (.bool true) .null .null
      (.text "nobody"))]

theorem accepts_users :
    (∀ entry ∈ usersColumns.members, entry.2.HasTextKeys) ∧
      (∃ schema, ofDefinition usersOptions usersColumns = .ok schema) ∧
      WellFormed usersOptions usersColumns := by
  have textual : ∀ entry ∈ usersColumns.members, entry.2.HasTextKeys := by decide
  have accepted : ∃ schema, ofDefinition usersOptions usersColumns = .ok schema := ⟨_, rfl⟩
  exact ⟨textual, accepted, (accepts_exactly_wellFormed textual).1.mp accepted⟩

end Schema

end TableModel
