/-
# TableModel.Proofs.Schema.FirstBroken — of the rules that a definition breaks, the first one is reported

Validation goes through the conditions on a definition in the order of their catalogue. It fails with
the error of the first one that is violated, whatever else is wrong, and it fails only where some
condition is violated. Each step of the validation is compared with the conditions that it decides; the
steps about columns and about groups do so item by item.
-/
import TableModel.Failure
import TableModel.Proofs.FirstFault
import TableModel.Proofs.Schema.Faults

namespace TableModel

namespace Schema

/-! ## Options, name and keys -/

section

variable {options columns : Value} {given : TableOptions} {e : SchemaError}

theorem fault_options :
    Fault options columns .options e ↔ TableOptions.ofValue options = .error e := by
  rw [TableOptions.ofValue_eq_error]
  constructor
  · rintro ⟨fault⟩
    exact fault
  · exact .options

theorem readTableName_eq_error {value : Value} :
    readTableName value = .error e ↔
      (∀ name : Label, value = .label name → name.isEmpty = true) ∧ e = .tableName := by
  have only : ∀ e, readTableName value = .error e → e = .tableName := by
    intro e h
    unfold readTableName at h
    split at h
    · cases h
    · exact (Except.error.inj h).symm
  simp [eq_error_iff_of_only only, readTableName_eq_ok]

theorem fault_tableName (gives : options.GivesOptions given) :
    Fault options columns .tableName e ↔ readTableName given.tableName = .error e := by
  rw [readTableName_eq_error]
  constructor
  · intro fault
    cases fault with
    | tableName gives' unnamed =>
      rw [gives.unique gives']
      exact ⟨unnamed, rfl⟩
  · rintro ⟨unnamed, rfl⟩
    exact .tableName gives unnamed

theorem readPrimaryKeys_eq_error {value : Value} :
    readPrimaryKeys value = .error e ↔ (∀ names, ¬ value.ListsNames names) ∧ e = .primaryKeysShape := by
  have only : ∀ e, readPrimaryKeys value = .error e → e = .primaryKeysShape := by
    intro e h
    unfold readPrimaryKeys at h
    split at h
    · cases h
    · exact (Except.error.inj h).symm
  simp [eq_error_iff_of_only only, readPrimaryKeys_eq_ok]

theorem fault_primaryKeys (gives : options.GivesOptions given) :
    Fault options columns .primaryKeys e ↔ readPrimaryKeys given.primaryKeys = .error e := by
  rw [readPrimaryKeys_eq_error]
  constructor
  · intro fault
    cases fault with
    | primaryKeys gives' unlisted =>
      rw [gives.unique gives']
      exact ⟨unlisted, rfl⟩
  · rintro ⟨unlisted, rfl⟩
    exact .primaryKeys gives unlisted

end

/-! ## Columns -/

section

variable {options columns : Value} {entry : Value × Value} {name : Label} {descriptor : Descriptor}
  {e : SchemaError}

theorem fault_descriptor (called : entry.1 = .label name) (textual : entry.2.HasTextKeys) :
    Fault options columns (.descriptor entry) e ↔ Descriptor.ofValue name entry.2 = .error e := by
  rw [Descriptor.ofValue_eq_error textual]
  constructor
  · intro fault
    cases fault with
    | descriptor called' fault =>
      obtain rfl := Value.label.inj (called.symm.trans called')
      exact fault
  · exact .descriptor called

theorem fault_defaultValue (called : entry.1 = .label name)
    (gives : entry.2.GivesDescriptor descriptor) :
    Fault options columns (.defaultValue entry) e ↔
      ∃ x, descriptor.defaultValue = .float x ∧ x.isFinite = false ∧ e = .nonFiniteDefault name x := by
  constructor
  · intro fault
    cases fault with
    | defaultValue called' gives' default infinite =>
      obtain rfl := Value.label.inj (called.symm.trans called')
      rw [gives.unique gives']
      exact ⟨_, default, infinite, rfl⟩
  · rintro ⟨x, default, infinite, rfl⟩
    exact .defaultValue called gives default infinite

theorem typeOfValue_eq_error {value : Value} :
    ColumnType.ofValue name value = .error e ↔
      (∀ type, ¬ value.GivesType type) ∧ e = .unknownType name value := by
  have only : ∀ e, ColumnType.ofValue name value = .error e → e = .unknownType name value := by
    intro e h
    unfold ColumnType.ofValue at h
    split at h
    · cases h
    · split at h
      · cases h
      · exact (Except.error.inj h).symm
    · exact (Except.error.inj h).symm
  simp [eq_error_iff_of_only only, ColumnType.ofValue_eq_ok]

theorem fault_columnType (called : entry.1 = .label name)
    (gives : entry.2.GivesDescriptor descriptor) :
    Fault options columns (.columnType entry) e ↔
      ColumnType.ofValue name descriptor.type = .error e := by
  rw [typeOfValue_eq_error]
  constructor
  · intro fault
    cases fault with
    | columnType called' gives' untyped =>
      obtain rfl := Value.label.inj (called.symm.trans called')
      rw [gives.unique gives']
      exact ⟨untyped, rfl⟩
  · rintro ⟨untyped, rfl⟩
    exact .columnType called gives untyped

/-- A column reports its descriptor, its default value and its type, in this order. -/
theorem reports_columnOfValue (called : entry.1 = .label name) (textual : entry.2.HasTextKeys) :
    Reports (Fault options columns) [.descriptor entry, .defaultValue entry, .columnType entry]
      (Column.ofValue name entry.2) := by
  refine .bind (fun e => fault_descriptor called textual) fun descriptor read => ?_
  have gives := Descriptor.ofValue_eq_ok.mp read
  have typed : Reports (Fault options columns) [.columnType entry]
      (ColumnType.ofValue name descriptor.type >>= fun type => pure (descriptor.column type)) :=
    .bind (fun e => fault_columnType called gives) fun type _ => .done _
  cases default : descriptor.defaultValue with
  | float x =>
    cases finite : x.isFinite with
    | true =>
      refine .skip (fun e => ?_) (by simpa [default, finite] using typed)
      simp [fault_defaultValue called gives, default, finite]
    | false =>
      simp only [finite]
      refine .fails fun e => ?_
      simp [fault_defaultValue called gives, default, finite]
  | _ =>
    refine .skip (fun e => ?_) typed
    simp [fault_defaultValue called gives, default]

theorem reports_readColumn (textual : entry.2.HasTextKeys) :
    Reports (Fault options columns) (columnChecks entry) (readColumn entry) := by
  unfold readColumn
  split
  · rename_i name hname
    obtain ⟨called, named⟩ := Value.name?_eq_some.mp hname
    refine .skip ?_ ((reports_columnOfValue called textual).map _)
    intro e fault
    cases fault with
    | columnName unnamed =>
      rw [unnamed name called] at named
      cases named
  · rename_i none
    have unnamed : ∀ name : Label, entry.1 = .label name → name.isEmpty = true := by
      intro name called
      by_contra named
      rw [Value.name?_eq_some.mpr ⟨called, Bool.eq_false_iff.mpr named⟩] at none
      cases none
    refine .fails fun e => ?_
    constructor
    · rintro ⟨⟩
      rfl
    · rintro rfl
      exact .columnName unnamed

/-- Columns report that there are none, or else what their entries do, one by one. -/
theorem reports_readColumns (textual : ∀ entry ∈ columns.members, entry.2.HasTextKeys) :
    Reports (Fault options columns) (.columns :: columns.members.flatMap columnChecks)
      (readColumns columns) := by
  have absent : columns.members = [] →
      ∀ e, Fault options columns .columns e ↔ e = .columnsShape := by
    intro none e
    constructor
    · rintro ⟨⟩
      rfl
    · rintro rfl
      exact .columns none
  unfold readColumns
  split
  · rename_i entry rest
    refine .skip ?_ ((Reports.mapM fun entry member => reports_readColumn (textual entry member)).map _)
    intro e fault
    cases fault with
    | columns none => exact List.cons_ne_nil _ _ none
  · rename_i noColumns
    refine .fails (absent ?_)
    cases columns with
    | map entries =>
      cases entries with
      | nil => rfl
      | cons entry rest => exact absurd rfl (noColumns entry rest)
    | _ => rfl

end

/-! ## Primary keys and counting columns -/

section

variable {options columns : Value} {given : TableOptions} {keys : List Label}
  {held : List (Label × Column)}

/-- Two readings of a definition are one. -/
theorem Reads.unique {given' : TableOptions} {keys' : List Label} {held' : List (Label × Column)}
    (reads : Reads options columns given keys held)
    (otherwise : Reads options columns given' keys' held') :
    given = given' ∧ keys = keys' ∧ held = held' := by
  obtain rfl := reads.options.unique otherwise.options
  exact ⟨rfl, reads.primaryKeys.unique otherwise.primaryKeys, reads.columns.unique otherwise.columns⟩

theorem fault_keysExist (reads : Reads options columns given keys held) {e : SchemaError} :
    Fault options columns .keysExist e ↔
      keys.all (hasColumn held) = false ∧ e = .primaryKeyMissing := by
  have missing_iff : keys.all (hasColumn held) = false ↔ ∃ key ∈ keys, ¬ columns.HasColumn key := by
    simp [reads.columns.hasColumn_iff]
  rw [missing_iff]
  constructor
  · intro fault
    cases fault with
    | keysExist gives listed member missing =>
      obtain rfl := reads.options.unique gives
      obtain rfl := reads.primaryKeys.unique listed
      exact ⟨⟨_, member, missing⟩, rfl⟩
  · rintro ⟨⟨key, member, missing⟩, rfl⟩
    exact .keysExist reads.options reads.primaryKeys member missing

theorem fault_keysListed (reads : Reads options columns given keys held) {e : SchemaError} :
    Fault options columns .keysListed e ↔
      ∃ entry, held.find? (fun entry => entry.2.primaryKey && !entry.1.isIn keys) = some entry ∧
        e = .primaryKeyUnlisted entry.1 := by
  simp only [List.find?_eq_some_iff_append, Bool.and_eq_true, Bool.not_eq_true',
    Bool.and_eq_false_imp, Bool.not_eq_false', ← Bool.not_eq_true (Label.isIn _ _), isIn_iff_isAmong]
  constructor
  · intro fault
    cases fault with
    | keysListed reads' earlier flagged unlisted =>
      obtain ⟨-, rfl, rfl⟩ := reads.unique reads'
      exact ⟨_, ⟨⟨flagged, unlisted⟩, _, _, rfl, by simpa [isIn_iff_isAmong] using earlier⟩, rfl⟩
  · rintro ⟨entry, ⟨⟨flagged, unlisted⟩, before, after, rfl, earlier⟩, rfl⟩
    exact .keysListed reads (by simpa [isIn_iff_isAmong] using earlier) flagged unlisted

theorem reports_checkPrimaryKeys (reads : Reads options columns given keys held) :
    Reports (Fault options columns) [.keysExist, .keysListed] (checkPrimaryKeys keys held) := by
  unfold checkPrimaryKeys
  split
  · rename_i exist
    refine .skip (fun e => by simp [fault_keysExist reads, exist]) (.single fun e => ?_)
    rw [fault_keysListed reads]
    split
    · rename_i entry found
      simp [found, eq_comm]
    · rename_i none
      simp [none]
  · rename_i missing
    exact .fails fun e => by simp [fault_keysExist reads, missing]

/-- What the table's option asks for is asked for. -/
theorem effectiveAutoIncrement_of_ne_null {option : Value} (asked : option ≠ .null) :
    effectiveAutoIncrement option held = option := by
  unfold effectiveAutoIncrement
  split
  · exact absurd rfl asked
  · rfl

/-- Only the table's option can ask for something that is no text, since a flagged column has a name. -/
theorem fault_countsText (reads : Reads options columns given keys held) {e : SchemaError} :
    Fault options columns .countsText e ↔
      effectiveAutoIncrement given.autoIncrement held ≠ .null ∧
        ¬ (effectiveAutoIncrement given.autoIncrement held).IsLabel ∧ e = .autoIncrementNotText := by
  constructor
  · intro fault
    cases fault with
    | countsText gives asked noText =>
      obtain rfl := reads.options.unique gives
      rw [effectiveAutoIncrement_of_ne_null asked]
      exact ⟨asked, noText, rfl⟩
  · rintro ⟨counts, noText, rfl⟩
    by_cases asked : given.autoIncrement = .null
    · -- a flag would be a text
      rw [asked, effectiveAutoIncrement] at counts noText
      cases first : (flagged held).head? with
      | none => simp [first] at counts
      | some flag => exact absurd ⟨flag, by simp [first]⟩ noText
    · rw [effectiveAutoIncrement_of_ne_null asked] at noText
      exact .countsText reads.options asked noText

theorem fault_countsKey (reads : Reads options columns given keys held) {e : SchemaError} :
    Fault options columns .countsKey e ↔ ∃ name : Label,
      effectiveAutoIncrement given.autoIncrement held = .label name ∧ name.isIn keys = false ∧
        e = .autoIncrementNotKey := by
  simp only [← Bool.not_eq_true (Label.isIn _ _), isIn_iff_isAmong]
  constructor
  · intro fault
    cases fault with
    | countsKey reads' counts noKey =>
      obtain ⟨rfl, rfl, rfl⟩ := reads.unique reads'
      exact ⟨_, counts, noKey, rfl⟩
  · rintro ⟨name, counts, noKey, rfl⟩
    exact .countsKey reads counts noKey

theorem fault_countsAlone (reads : Reads options columns given keys held) {e : SchemaError} :
    Fault options columns .countsAlone e ↔ ∃ name : Label,
      effectiveAutoIncrement given.autoIncrement held = .label name ∧ keys.length ≠ 1 ∧
        e = .autoIncrementManyKeys := by
  constructor
  · intro fault
    cases fault with
    | countsAlone reads' counts several =>
      obtain ⟨rfl, rfl, rfl⟩ := reads.unique reads'
      exact ⟨_, counts, several, rfl⟩
  · rintro ⟨name, counts, several, rfl⟩
    exact .countsAlone reads counts several

theorem fault_countsInteger (reads : Reads options columns given keys held) {e : SchemaError} :
    Fault options columns .countsInteger e ↔ ∃ name : Label,
      effectiveAutoIncrement given.autoIncrement held = .label name ∧
        (column? held name).map Column.type ≠ some .integer ∧ e = .autoIncrementNotInteger := by
  have noInteger_iff : ∀ name, (column? held name).map Column.type ≠ some .integer ↔
      ∀ column, column? held name = some column → column.type ≠ .integer := by
    simp
  simp only [noInteger_iff]
  constructor
  · intro fault
    cases fault with
    | countsInteger gives holds counts noInteger =>
      obtain rfl := reads.options.unique gives
      obtain rfl := reads.columns.unique holds
      exact ⟨_, counts, noInteger, rfl⟩
  · rintro ⟨name, counts, noInteger, rfl⟩
    exact .countsInteger reads.options reads.columns counts noInteger

theorem fault_flaggedOnce (reads : Reads options columns given keys held) {e : SchemaError} :
    Fault options columns .flaggedOnce e ↔
      1 < (flagged held).length ∧ e = .autoIncrementTwice := by
  constructor
  · intro fault
    cases fault with
    | flaggedOnce holds twice =>
      obtain rfl := reads.columns.unique holds
      exact ⟨twice, rfl⟩
  · rintro ⟨twice, rfl⟩
    exact .flaggedOnce reads.columns twice

theorem fault_flagAgrees (reads : Reads options columns given keys held) {e : SchemaError} :
    Fault options columns .flagAgrees e ↔ ∃ flag others, flagged held = flag :: others ∧
      given.autoIncrement ≠ .null ∧ given.autoIncrement.isText flag.content = false ∧
        e = .autoIncrementConflict flag given.autoIncrement := by
  constructor
  · intro fault
    cases fault with
    | flagAgrees gives holds first asked differs =>
      obtain rfl := reads.options.unique gives
      obtain rfl := reads.columns.unique holds
      exact ⟨_, _, first, asked, differs, rfl⟩
  · rintro ⟨flag, others, first, asked, differs, rfl⟩
    exact .flagAgrees reads.options reads.columns first asked differs

/-- The flags are compared with each other and with the table's option. -/
theorem reports_requestedAutoIncrement (reads : Reads options columns given keys held) :
    Reports (Fault options columns) [.flaggedOnce, .flagAgrees]
      (requestedAutoIncrement given.autoIncrement held) := by
  unfold requestedAutoIncrement
  split
  · rename_i none
    exact .passed (by simp [fault_flaggedOnce reads, fault_flagAgrees reads, none])
  · rename_i flag one
    refine .skip (by simp [fault_flaggedOnce reads, one]) (.single fun e => ?_)
    rw [fault_flagAgrees reads, one]
    split
    · rename_i absent
      simp [absent]
    · rename_i asked
      split
      · rename_i agrees
        simp [agrees]
      · rename_i differs
        constructor
        · rintro ⟨other, others, same, -, -, rfl⟩
          obtain ⟨rfl, -⟩ := List.cons_eq_cons.mp same
          rfl
        · intro h
          exact ⟨flag, [], rfl, asked, Bool.eq_false_iff.mpr differs, (Except.error.inj h).symm⟩
  · rename_i some several
    refine .fails fun e => ?_
    rw [fault_flaggedOnce reads, and_iff_right]
    match flags : flagged held with
    | [] => exact (some flags).elim
    | [flag] => exact (several flag flags).elim
    | _ :: _ :: _ => simp

/-- What counts up is a text, a key, the only key and an integer, in this order. -/
theorem reports_readAutoIncrement (reads : Reads options columns given keys held) :
    Reports (Fault options columns)
      [.flaggedOnce, .flagAgrees, .countsText, .countsKey, .countsAlone, .countsInteger]
      (readAutoIncrement given.autoIncrement keys held) := by
  unfold readAutoIncrement
  refine (reports_requestedAutoIncrement reads).chain fun value requested => ?_
  obtain ⟨-, counts, -⟩ := requestedAutoIncrement_eq_ok.mp requested
  split
  · -- nothing counts up
    refine .passed ?_
    simp [fault_countsText reads, fault_countsKey reads, fault_countsAlone reads,
      fault_countsInteger reads, counts]
  · rename_i name
    refine .skip (fun e => ?_) ?_
    · simp [fault_countsText reads, counts, Value.IsLabel]
    refine .refuse (fun e => ?_) fun _ => ?_
    · simp [fault_countsKey reads, counts]
    refine .refuse (fun e => ?_) fun _ => ?_
    · simp [fault_countsAlone reads, counts]
    refine .refuse (fun e => ?_) fun _ => .done _
    simp [fault_countsInteger reads, counts]
  · rename_i some noText
    refine .fails fun e => ?_
    rw [fault_countsText reads, counts, and_iff_right some, and_iff_right]
    rintro ⟨name, named⟩
    exact noText name named

end

/-! ## Unique groups -/

section

variable {options columns : Value} {given : TableOptions} {held : List (Label × Column)}

theorem givenGroups_eq (gives : options.GivesOptions given) :
    givenGroups options = given.uniqueKeys.sequence?.getD [] := by
  cases gives <;> rfl

/-- The names of a group are read in one way. -/
theorem names_unique {group : Value} {names others : List Label}
    (shape : group.IsSequence (names.map .label)) (otherwise : group.IsSequence (others.map .label)) :
    names = others := by
  have same : names.map Value.label = others.map Value.label :=
    Option.some.inj ((Value.sequence?_eq_some.mpr shape).symm.trans (Value.sequence?_eq_some.mpr otherwise))
  exact List.map_injective_iff.mpr (fun _ _ => Value.label.inj) same

theorem fault_groupColumns (holds : columns.HoldsColumns held) {group : Value} {names : List Label}
    (shape : group.IsSequence (names.map .label)) {e : SchemaError} :
    Fault options columns (.groupColumns group) e ↔
      ∃ name, names.find? (fun name => !hasColumn held name) = some name ∧
        e = .uniqueKeyMissing name := by
  simp only [List.find?_eq_some_iff_append, Bool.not_eq_true', Bool.not_eq_false',
    ← Bool.not_eq_true (hasColumn _ _), ← holds.hasColumn_iff]
  constructor
  · intro fault
    cases fault with
    | groupColumns shape' earlier missing =>
      obtain rfl := names_unique shape shape'
      exact ⟨_, ⟨missing, _, _, rfl, earlier⟩, rfl⟩
  · rintro ⟨name, ⟨missing, before, after, rfl, earlier⟩, rfl⟩
    exact .groupColumns shape earlier missing

/-- A group reports its shape, and then the first of its names that is no column. -/
theorem reports_readUniqueKey (holds : columns.HoldsColumns held) (group : Value) :
    Reports (Fault options columns) (groupChecks group) (readUniqueKey held group) := by
  have shapeless : (∀ names : List Label, group.IsSequence (names.map .label) → names = []) →
      ∀ e, Fault options columns (.group group) e ↔ e = .uniqueKeysShape := by
    intro noGroup e
    constructor
    · rintro ⟨⟩
      rfl
    · rintro rfl
      exact .group noGroup
  unfold readUniqueKey
  split
  · rename_i item rest hitems
    split
    · rename_i names hnames
      have labels := Value.mapM_label?_eq_some.mp hnames
      have shape : group.IsSequence (names.map .label) := by
        rw [← labels]
        exact Value.sequence?_eq_some.mp hitems
      refine .skip ?_ (.single fun e => ?_)
      · intro e fault
        cases fault with
        | group noGroup =>
          rw [noGroup names shape] at labels
          cases labels
      · rw [fault_groupColumns holds shape]
        cases names.find? fun name => !hasColumn held name <;> simp [eq_comm]
    · rename_i none
      refine .fails (shapeless fun names shape => ?_)
      -- a group of labels would be read
      rw [Value.sequence?_eq_some.mpr shape, Option.some.injEq] at hitems
      rw [Value.mapM_label?_eq_some.mpr hitems.symm] at none
      cases none
  · rename_i noItems
    refine .fails (shapeless fun names shape => ?_)
    cases names with
    | nil => rfl
    | cons name names => exact (noItems _ _ (Value.sequence?_eq_some.mpr shape)).elim

theorem fault_uniqueKeys (gives : options.GivesOptions given) {e : SchemaError} :
    Fault options columns .uniqueKeys e ↔ given.uniqueKeys ≠ .null ∧
      (∀ items, ¬ given.uniqueKeys.IsSequence items) ∧ e = .uniqueKeysShape := by
  constructor
  · intro fault
    cases fault with
    | uniqueKeys gives' asked noSequence =>
      obtain rfl := gives.unique gives'
      exact ⟨asked, noSequence, rfl⟩
  · rintro ⟨asked, noSequence, rfl⟩
    exact .uniqueKeys gives asked noSequence

/-- The unique groups report that they are no list, or else what each of them does. -/
theorem reports_readUniqueKeys (gives : options.GivesOptions given)
    (holds : columns.HoldsColumns held) :
    Reports (Fault options columns) (.uniqueKeys :: (givenGroups options).flatMap groupChecks)
      (readUniqueKeys held given.uniqueKeys) := by
  have each : ∀ groups, given.uniqueKeys.IsSequence groups →
      Reports (Fault options columns) (.uniqueKeys :: groups.flatMap groupChecks)
        (groups.mapM (readUniqueKey held)) := by
    intro groups shape
    refine .skip ?_ (.mapM fun group _ => reports_readUniqueKey holds group)
    intro e fault
    exact ((fault_uniqueKeys gives).mp fault).2.1 groups shape
  rw [givenGroups_eq gives]
  cases value : given.uniqueKeys with
  | null => exact .skip (by simp [fault_uniqueKeys gives, value]) (.done [])
  | list groups => exact each groups (value ▸ .list groups)
  | tuple groups => exact each groups (value ▸ .tuple groups)
  | _ =>
    have noSequence : ∀ items, ¬ given.uniqueKeys.IsSequence items := by
      rw [value]
      rintro items ⟨⟩
    refine .fails fun e => ?_
    rw [fault_uniqueKeys gives, and_iff_right (by simp [value]), and_iff_right noSequence]

end

/-! ## Definitions -/

section

variable {options columns : Value}

theorem fault_rowNumbers {given : TableOptions} {keys : List Label} {held : List (Label × Column)}
    (reads : Reads options columns given keys held) {autoIncrement : Option Label}
    (read : readAutoIncrement given.autoIncrement keys held = .ok autoIncrement) {e : SchemaError} :
    Fault options columns .rowNumbers e ↔
      (autoIncrement.isSome && given.withoutRowid.truth) = true ∧ e = .autoIncrementWithoutRowid := by
  obtain ⟨agrees, rfl⟩ := readAutoIncrement_eq_ok.mp read
  -- something counts up exactly when the effective value is a label
  have counts_iff : (effectiveAutoIncrement given.autoIncrement held).label?.isSome = true ↔
      effectiveAutoIncrement given.autoIncrement held ≠ .null := by
    rcases agrees.counts with absent | ⟨name, counts, -⟩
    · simp [absent, Value.label?]
    · simp [counts, Value.label?]
  rw [Bool.and_eq_true, counts_iff]
  constructor
  · intro fault
    cases fault with
    | rowNumbers gives holds counts without =>
      obtain rfl := reads.options.unique gives
      obtain rfl := reads.columns.unique holds
      exact ⟨⟨counts, without⟩, rfl⟩
  · rintro ⟨⟨counts, without⟩, rfl⟩
    exact .rowNumbers reads.options reads.columns counts without

/-- A definition whose descriptors have texts for keys reports the first condition that it violates. -/
theorem reports_ofDefinition (textual : ∀ entry ∈ columns.members, entry.2.HasTextKeys) :
    Reports (Fault options columns) (checks options columns) (ofDefinition options columns) := by
  unfold ofDefinition checks
  simp only [List.append_assoc, List.cons_append, List.nil_append]
  refine .bind (fun e => fault_options) fun given hgiven => ?_
  have gives := TableOptions.ofValue_eq_ok.mp hgiven
  refine .bind (fun e => fault_tableName gives) fun tableName _ => ?_
  refine .bind (fun e => fault_primaryKeys gives) fun keys hkeys => ?_
  rw [← List.cons_append]
  refine (reports_readColumns textual).chain fun held hheld => ?_
  have reads : Reads options columns given keys held :=
    ⟨gives, readPrimaryKeys_eq_ok.mp hkeys, readColumns_eq_ok.mp hheld⟩
  refine (reports_checkPrimaryKeys reads).chain fun _ _ => ?_
  refine (reports_readAutoIncrement reads).chain fun autoIncrement hauto => ?_
  rw [← List.cons_append]
  refine (reports_readUniqueKeys gives reads.columns).chain fun uniqueKeys _ => ?_
  exact .refuse (fun e => fault_rowNumbers reads hauto) fun _ => .done _

/-- What is found wrong with a definition is put into words. -/
theorem Fault.message {check : Check} {e : SchemaError} (fault : Fault options columns check e) :
    (Failure.schema e).message? = some e.message := by
  suffices e.isFinding = true by rw [Failure.message?, if_pos this]
  cases fault with
  | options fault => exact fault.isFinding
  | descriptor _ fault => exact fault.isFinding
  | _ => rfl

/-- A definition is accepted exactly when it violates no condition, and otherwise it is refused with the
message of the first condition that it violates. -/
theorem refuses_by_first_broken_rule
    (textual : ∀ entry ∈ columns.members, entry.2.HasTextKeys) :
    ((∃ schema, ofDefinition options columns = .ok schema) ↔
      ∀ check ∈ checks options columns, ∀ e, ¬ Fault options columns check e) ∧
    ((∃ check ∈ checks options columns, ∃ e, Fault options columns check e) →
      ∃ e, ofDefinition options columns = .error e ∧
        (Failure.schema e).message? = some e.message ∧
        FirstFault (Fault options columns) (checks options columns) e) := by
  have reports : Reports (Fault options columns) (checks options columns) _ :=
    reports_ofDefinition textual
  refine ⟨reports.ok_iff, ?_⟩
  rintro ⟨check, member, e, fault⟩
  cases result : ofDefinition options columns with
  | ok schema => exact absurd fault (reports.ok_iff.mp ⟨schema, result⟩ check member e)
  | error e =>
    have first := reports.error_iff.mp result
    obtain ⟨check, -, fault⟩ := first.exists_fault
    exact ⟨e, rfl, fault.message, first⟩

end

/-- The options of a table whose key is no column, whose counting column is a number and whose unique
group is empty. -/
def tangledOptions : Value :=
  .map [(.text "table_name", .text "tangled"), (.text "primary_keys", .text "gone"),
    (.text "auto_increment", .int 1), (.text "unique_keys", .list [.list []])]

/-- The columns of the table: one is fine, one has an infinite default value and an unknown type, and
one is called by a number. -/
def tangledColumns : Value :=
  .map [(.text "a", .map [(.text "type", .text "int")]),
    (.text "b", .map [(.text "type", .text "nothing"), (.text "default_value", .float (.infinite false))]),
    (.int 3, .null)]

/-- Of all that is wrong with the table, the infinite default value is told. -/
theorem tangled_is_told_its_default_value :
    (∀ entry ∈ tangledColumns.members, entry.2.HasTextKeys) ∧
      Fault tangledOptions tangledColumns .countsText .autoIncrementNotText ∧
      Fault tangledOptions tangledColumns (.group (.list [])) .uniqueKeysShape ∧
      FirstFault (Fault tangledOptions tangledColumns) (checks tangledOptions tangledColumns)
        (.nonFiniteDefault (.plain "b") (.infinite false)) := by
  have textual : ∀ entry ∈ tangledColumns.members, entry.2.HasTextKeys := by decide
  have gives : tangledOptions.GivesOptions _ := TableOptions.ofValue_eq_ok.mp rfl
  have counting : Fault tangledOptions tangledColumns .countsText .autoIncrementNotText :=
    .countsText gives (by rintro ⟨⟩) (by decide)
  have group : Fault tangledOptions tangledColumns (.group (.list [])) .uniqueKeysShape := by
    refine .group fun names shape => ?_
    cases names with
    | nil => rfl
    | cons name names => cases shape
  refine ⟨textual, counting, group, ?_⟩
  have broken : ∃ check ∈ checks tangledOptions tangledColumns, ∃ e,
      Fault tangledOptions tangledColumns check e := ⟨.countsText, by simp [checks], _, counting⟩
  have refused : ofDefinition tangledOptions tangledColumns
      = .error (.nonFiniteDefault (.plain "b") (.infinite false)) := rfl
  obtain ⟨e, h, -, first⟩ := (refuses_by_first_broken_rule textual).2 broken
  rw [refused, Except.error.injEq] at h
  exact h ▸ first

end Schema

end TableModel
