/-
# TableModel.Proofs.Value.Names — which values list names, and which mappings have known keys

`Value.names?` and `Value.unknownKeys` decide by computation whether a value lists names and whether
a mapping has keys that nobody knows. Here both are described by what the values are made of, and
the computations are shown to decide exactly that.
-/
import Mathlib.Data.Set.List
import TableModel.Proofs.Checks
import TableModel.Value.Names

namespace TableModel

namespace Value

/-! ## Mappings -/

/-- The entries of a mapping; other values have none. -/
def members (value : Value) : List (Value × Value) :=
  value.entries?.getD []

@[simp] theorem members_map (entries : List (Value × Value)) : (map entries).members = entries := rfl

@[simp] theorem members_null : null.members = [] := rfl

/-- The keys of a mapping. -/
def keys (value : Value) : List Value :=
  value.members.map Prod.fst

/-- A value is a label. -/
def IsLabel (value : Value) : Prop :=
  ∃ name : Label, value = .label name

instance : DecidablePred IsLabel := fun value =>
  decidable_of_iff (value.label?.isSome = true) (by simp [Option.isSome_iff_exists, IsLabel])

/-- All keys of a mapping are texts. -/
def HasTextKeys (value : Value) : Prop :=
  ∀ key ∈ value.keys, key.IsLabel

instance : DecidablePred HasTextKeys := fun value =>
  inferInstanceAs (Decidable (∀ key ∈ value.keys, key.IsLabel))

/-! ## Lists of labels -/

/-- A traversal for labels succeeds on nothing but labels. -/
theorem mapM_label?_eq_some {items : List Value} {names : List Label} :
    items.mapM label? = some names ↔ items = names.map label := by
  rw [mapM_eq_some]
  constructor
  · intro h
    induction h with
    | nil => rfl
    | cons hitem _ ih => rw [List.map_cons, label?_eq_some.mp hitem, ih]
  · rintro rfl
    induction names with
    | nil => exact .nil
    | cons name names ih => exact .cons rfl ih

/-- A traversal for names succeeds on nothing but labels with characters. -/
theorem mapM_name?_eq_some {items : List Value} {names : List Label} :
    items.mapM name? = some names ↔
      items = names.map label ∧ ∀ name ∈ names, name.isEmpty = false := by
  rw [mapM_eq_some]
  constructor
  · intro h
    induction h with
    | nil => simp
    | cons hitem _ ih =>
      obtain ⟨rfl, hname⟩ := name?_eq_some.mp hitem
      obtain ⟨rfl, hnames⟩ := ih
      exact ⟨rfl, List.forall_mem_cons.mpr ⟨hname, hnames⟩⟩
  · rintro ⟨rfl, hnames⟩
    induction names with
    | nil => exact .nil
    | cons name names ih =>
      rw [List.forall_mem_cons] at hnames
      exact .cons (name?_eq_some.mpr ⟨rfl, hnames.1⟩) (ih hnames.2)

/-- A value is a list or a tuple of the given items. -/
inductive IsSequence : Value → List Value → Prop
  | list (items : List Value) : IsSequence (.list items) items
  | tuple (items : List Value) : IsSequence (.tuple items) items

theorem sequence?_eq_some {value : Value} {items : List Value} :
    value.sequence? = some items ↔ value.IsSequence items := by
  constructor
  · intro h
    cases value <;> simp only [sequence?, reduceCtorEq, Option.some.injEq] at h
    · exact h ▸ .list _
    · exact h ▸ .tuple _
  · intro h
    cases h <;> rfl

/-! ## Names -/

/-- A value lists names: one alone, or a list or tuple of at least one and of nothing else. None of
them is empty. -/
inductive ListsNames : Value → List Label → Prop
  | alone {name : Label} (named : name.isEmpty = false) : ListsNames (.label name) [name]
  | sequence {value : Value} {names : List Label} (items : value.IsSequence (names.map label))
      (given : names ≠ []) (named : ∀ name ∈ names, name.isEmpty = false) : ListsNames value names

theorem ListsNames.ne_nil {value : Value} {names : List Label} (h : value.ListsNames names) :
    names ≠ [] := by
  cases h with
  | alone => simp
  | sequence items given named => exact given

theorem ListsNames.named {value : Value} {names : List Label} (h : value.ListsNames names) :
    ∀ name ∈ names, name.isEmpty = false := by
  cases h with
  | alone named => simpa using named
  | sequence items given named => exact named

/-- The names of a list or tuple. -/
theorem names?_of_isSequence {value : Value} {items : List Value} {names : List Label}
    (shape : value.IsSequence items) :
    value.names? = some names ↔ items.mapM name? = some names ∧ items ≠ [] := by
  cases shape <;> cases items <;> simp [names?, sequence?]

theorem names?_eq_some {value : Value} {names : List Label} :
    value.names? = some names ↔ value.ListsNames names := by
  constructor
  · intro h
    -- a list and a tuple are read alike
    have ofSequence : ∀ items, value.IsSequence items → value.ListsNames names := by
      intro items shape
      obtain ⟨hitems, given⟩ := (names?_of_isSequence shape).mp h
      obtain ⟨rfl, named⟩ := mapM_name?_eq_some.mp hitems
      exact .sequence shape (by simpa using given) named
    cases value with
    | label name =>
      obtain ⟨hnames, named⟩ := mapM_name?_eq_some.mp (show [label name].mapM name? = some names from h)
      obtain ⟨other, rfl⟩ : ∃ other, names = [other] :=
        List.length_eq_one_iff.mp (by simpa using (congrArg List.length hnames).symm)
      obtain rfl : name = other := by simpa using hnames
      exact .alone (named name (by simp))
    | list items => exact ofSequence items (.list items)
    | tuple items => exact ofSequence items (.tuple items)
    | _ => simp [names?, sequence?] at h
  · intro h
    cases h with
    | @alone name named =>
      show [label name].mapM name? = some [name]
      exact mapM_name?_eq_some.mpr ⟨rfl, by simpa using named⟩
    | sequence items given named =>
      exact (names?_of_isSequence items).mpr
        ⟨mapM_name?_eq_some.mpr ⟨rfl, named⟩, by simpa using given⟩

/-! ## Fields -/

/-- A value is one text at most. -/
theorem eq_of_isText {value : Value} {name other : String} (h : value.isText name = true)
    (h' : value.isText other = true) : name = other := by
  cases value with
  | label label =>
    simp only [isText, beq_iff_eq] at h h'
    rw [← h, ← h']
  | _ => cases h

/-- There is nothing under a text that is no key. -/
theorem field?_eq_none {name : String} {entries : List (Value × Value)} :
    field? name entries = none ↔ ∀ entry ∈ entries, entry.1.isText name = false := by
  rw [field?, Option.map_eq_none_iff, List.find?_eq_none]
  simp

/-! ## Known keys -/

/-- Every key of a mapping is one of the known texts. -/
def HasKeysOf (known : List String) (entries : List (Value × Value)) : Prop :=
  ∀ entry ∈ entries, ∃ name ∈ known, entry.1.isText name = true

instance (known : List String) (entries : List (Value × Value)) : Decidable (HasKeysOf known entries) :=
  inferInstanceAs (Decidable (∀ entry ∈ entries, ∃ name ∈ known, entry.1.isText name = true))

theorem unknownKeys_eq_nil {known : List String} {entries : List (Value × Value)} :
    unknownKeys known entries = [] ↔ HasKeysOf known entries := by
  unfold unknownKeys HasKeysOf
  rw [List.filter_eq_nil_iff, List.forall_mem_map]
  simp

/-- The keys that nobody knows can be put into order when all keys are text. -/
theorem sortedContents?_unknownKeys_ne_none {known : List String} {entries : List (Value × Value)}
    (textual : (map entries).HasTextKeys) :
    sortedContents? (unknownKeys known entries) ≠ none := by
  have labels : unknownKeys known entries ∈ Set.range (List.map label) := by
    rw [Set.range_list_map]
    intro key hkey
    obtain ⟨name, hname⟩ := textual key (List.mem_of_mem_filter hkey)
    exact ⟨name, hname.symm⟩
  obtain ⟨names, hnames⟩ := labels
  rw [sortedContents?, mapM_label?_eq_some.mpr hnames.symm]
  simp

/-- Known keys are texts. -/
theorem HasKeysOf.hasTextKeys {known : List String} {value : Value}
    (documented : HasKeysOf known value.members) : value.HasTextKeys := by
  intro key hkey
  obtain ⟨entry, member, rfl⟩ := List.mem_map.mp hkey
  obtain ⟨name, -, hname⟩ := documented entry member
  cases hentry : entry.1 with
  | label other => exact ⟨other, rfl⟩
  | _ => simp [hentry, isText] at hname

/-- A key that is no text is unknown, and then the unknown keys cannot be put into order. -/
theorem sortedContents?_unknownKeys_eq_none {known : List String} {entries : List (Value × Value)} :
    sortedContents? (unknownKeys known entries) = none ↔ ¬ (map entries).HasTextKeys := by
  constructor
  · exact fun h textual => sortedContents?_unknownKeys_ne_none textual h
  · intro untextual
    by_contra listed
    rw [sortedContents?, Option.map_eq_none_iff, ← ne_eq, Option.ne_none_iff_exists'] at listed
    obtain ⟨names, hnames⟩ := listed
    rw [mapM_label?_eq_some] at hnames
    refine untextual fun key hkey => ?_
    by_contra unlabelled
    have unknown : key ∈ unknownKeys known entries := by
      refine List.mem_filter.mpr ⟨hkey, ?_⟩
      rw [Bool.not_eq_true', List.any_eq_false]
      intro name _
      cases key with
      | label other => exact absurd ⟨other, rfl⟩ unlabelled
      | _ => simp [isText]
    rw [hnames] at unknown
    obtain ⟨name, -, rfl⟩ := List.mem_map.mp unknown
    exact unlabelled ⟨name, rfl⟩

/-- A mapping has a key that is none of the known texts. -/
def HasUnknownKey (known : List String) (value : Value) : Prop :=
  ¬ HasKeysOf known value.members

instance (known : List String) (value : Value) : Decidable (value.HasUnknownKey known) :=
  inferInstanceAs (Decidable (¬ HasKeysOf known value.members))

theorem hasUnknownKey_of_not_hasTextKeys {known : List String} {value : Value}
    (untextual : ¬ value.HasTextKeys) : value.HasUnknownKey known :=
  fun documented => untextual documented.hasTextKeys

end Value

end TableModel
