/-
# TableModel.Proofs.Value.Spellings — one thing said in several ways

What a definition or a request says may be spelled in several ways: a record is as good as the
mapping of its fields, whose order does not matter and of which those at their defaults may be left
out; a name alone is as good as the list of it, and a list is as good as a tuple. Each of these
freedoms is a relation here, between a value and what it spells or between two values that spell the
same. Whoever reads such a value has to show that it reads the same from related ones, and what that
takes for a single field, for a list of entries and for a list of names is shown here as well.
-/
import Mathlib.Data.List.Nodup
import TableModel.Proofs.Value.Names

namespace TableModel

/-! ## Mappings of fields -/

namespace Value

/-- Entries are the given fields under their names, in whatever order. -/
def AreFields (fields : List (String × Value)) (entries : List (Value × Value)) : Prop :=
  entries.Perm (fields.map fun field => (.text field.1, field.2))

/-- A field is found under its name, wherever it stands. -/
theorem AreFields.field_eq {fields : List (String × Value)} {entries : List (Value × Value)}
    {name : String} {value : Value} (given : AreFields fields entries)
    (distinct : (fields.map Prod.fst).Nodup) (member : (name, value) ∈ fields) :
    field name entries = value := by
  have mem_iff : ∀ entry, entry ∈ entries ↔ ∃ other ∈ fields, (text other.1, other.2) = entry := by
    intro entry
    rw [given.mem_iff, List.mem_map]
  have present : (entries.find? fun entry => entry.1.isText name).isSome = true := by
    rw [List.find?_isSome]
    exact ⟨_, (mem_iff _).mpr ⟨_, member, rfl⟩, by simp [isText]⟩
  obtain ⟨found, hfound⟩ := Option.isSome_iff_exists.mp present
  obtain ⟨⟨other, kept⟩, hother, rfl⟩ := (mem_iff _).mp (List.mem_of_find?_eq_some hfound)
  have same : other = name := by simpa [isText] using List.find?_some hfound
  -- no two fields have one name
  have only : (other, kept) = (name, value) := List.inj_on_of_nodup_map distinct hother member same
  obtain rfl := congrArg Prod.snd only
  simp [field, field?, hfound]

theorem AreFields.hasKeysOf {fields : List (String × Value)} {entries : List (Value × Value)}
    (given : AreFields fields entries) : HasKeysOf (fields.map Prod.fst) entries := by
  intro entry member
  obtain ⟨other, hother, rfl⟩ := List.mem_map.mp (given.mem_iff.mp member)
  exact ⟨other.1, List.mem_map_of_mem hother, by simp [isText]⟩

/-- Entries are fields in whatever order, without some that have their defaults. -/
def AreFieldsBut (defaults fields : List (String × Value)) (entries : List (Value × Value)) : Prop :=
  ∃ omitted ⊆ defaults, AreFields fields (entries ++ omitted.map fun field => (.text field.1, field.2))

section Omitted

variable {defaults fields : List (String × Value)} {entries : List (Value × Value)}

/-- A field is found under its name, or it has its default and nothing is found there. -/
theorem AreFieldsBut.field?_eq_or {name : String} {value : Value}
    (given : AreFieldsBut defaults fields entries) (distinct : (fields.map Prod.fst).Nodup)
    (member : (name, value) ∈ fields) :
    field? name entries = some value ∨ field? name entries = none ∧ (name, value) ∈ defaults := by
  obtain ⟨omitted, default, given⟩ := given
  have read := given.field_eq distinct member
  unfold field at read
  unfold field? at read ⊢
  rw [List.find?_append] at read
  cases hfound : entries.find? fun entry => entry.1.isText name with
  | some found =>
    rw [hfound] at read
    exact .inl (congrArg some read)
  | none =>
    refine .inr ⟨rfl, default ?_⟩
    have present := given.mem_iff.mpr (List.mem_map_of_mem member)
    rcases List.mem_append.mp present with kept | left
    · exact absurd (beq_self_eq_true name) (List.find?_eq_none.mp hfound _ kept)
    · obtain ⟨⟨other, omission⟩, listed, same⟩ := List.mem_map.mp left
      rw [Prod.mk.injEq, text, text, label.injEq, Label.plain.injEq] at same
      obtain ⟨rfl, rfl⟩ := same
      exact listed

/-- What is read from a field does not depend on whether the field is left out, if the default says
what null says. -/
theorem AreFieldsBut.read_field {α : Type} (read : Value → α) {name : String} {value : Value}
    (given : AreFieldsBut defaults fields entries) (distinct : (fields.map Prod.fst).Nodup)
    (member : (name, value) ∈ fields)
    (neutral : (name, value) ∈ defaults → read value = read .null) :
    read (field name entries) = read value := by
  rcases given.field?_eq_or distinct member with found | ⟨absent, default⟩
  · rw [field, found, Option.getD_some]
  · rw [field, absent, Option.getD_none, neutral default]

/-- A field that is left out because it is null is read as null. -/
theorem AreFieldsBut.field_eq (given : AreFieldsBut defaults fields entries)
    (null : ∀ default ∈ defaults, default.2 = .null) (distinct : (fields.map Prod.fst).Nodup)
    {name : String} {value : Value} (member : (name, value) ∈ fields) : field name entries = value :=
  given.read_field id distinct member fun default => null _ default

theorem AreFieldsBut.hasKeysOf (given : AreFieldsBut defaults fields entries) :
    HasKeysOf (fields.map Prod.fst) entries := by
  obtain ⟨omitted, -, given⟩ := given
  intro entry member
  exact given.hasKeysOf entry (List.mem_append_left _ member)

end Omitted

/-! ## Entries side by side -/

/-- Two lists of entries have the same keys one by one, and under each key values that are alike. -/
def EntriesAlike (alike : Value → Value → Value → Prop) :
    List (Value × Value) → List (Value × Value) → Prop :=
  List.Forall₂ fun entry other => entry.1 = other.1 ∧ alike entry.1 entry.2 other.2

section Entries

variable {alike : Value → Value → Value → Prop} {entries others : List (Value × Value)}

theorem EntriesAlike.unknownKeys_eq (each : EntriesAlike alike entries others) (known : List String) :
    unknownKeys known entries = unknownKeys known others := by
  have keys : entries.map Prod.fst = others.map Prod.fst := by
    induction each with
    | nil => rfl
    | cons first _ ih => rw [List.map_cons, List.map_cons, first.1, ih]
  rw [unknownKeys, unknownKeys, keys]

/-- What is under a text is alike as well, also when it is nothing. -/
theorem EntriesAlike.field (each : EntriesAlike alike entries others)
    (refl : ∀ key value, alike key value value) (name : String) :
    ∃ key : Value, key.isText name = true ∧ alike key (field name entries) (field name others) := by
  induction each with
  | nil => exact ⟨.text name, beq_self_eq_true name, refl _ _⟩
  | @cons entry other _ _ first _ ih =>
    obtain ⟨same, alike⟩ := first
    unfold Value.field field? at ih ⊢
    rw [List.find?_cons, List.find?_cons, ← same]
    cases named : entry.1.isText name with
    | true => exact ⟨entry.1, named, alike⟩
    | false => exact ih

end Entries

/-! ## Sequences of any depth -/

/-- Two values are the same but for which sequences in them are lists and which are tuples, and but
for leaves that are alike. -/
inductive AlikeUpTo (leaves : Value → Value → Prop) : Value → Value → Prop
  | leaf {value other : Value} (alike : leaves value other) : AlikeUpTo leaves value other
  | sequence {value other : Value} {items others : List Value} (left : value.IsSequence items)
      (right : other.IsSequence others) (each : List.Forall₂ (AlikeUpTo leaves) items others) :
      AlikeUpTo leaves value other

theorem truth_of_isSequence {value : Value} {items : List Value} (shape : value.IsSequence items) :
    value.truth = !items.isEmpty := by
  cases shape <;> rfl

theorem isEmpty_eq_of_forall₂ {α β : Type} {related : α → β → Prop} {items : List α} {others : List β}
    (each : List.Forall₂ related items others) : items.isEmpty = others.isEmpty := by
  cases each <;> rfl

theorem AlikeUpTo.truth_eq {leaves : Value → Value → Prop} {value other : Value}
    (alike : value.AlikeUpTo leaves other)
    (ofLeaf : ∀ {leaf leaf' : Value}, leaves leaf leaf' → leaf.truth = leaf'.truth) :
    value.truth = other.truth := by
  cases alike with
  | leaf alike => exact ofLeaf alike
  | sequence left right each =>
    rw [truth_of_isSequence left, truth_of_isSequence right, isEmpty_eq_of_forall₂ each]

/-- A text is a leaf. -/
theorem AlikeUpTo.label?_eq {value other : Value} (alike : value.AlikeUpTo Eq other) :
    value.label? = other.label? := by
  cases alike with
  | leaf same => rw [same]
  | sequence left right each => cases left <;> cases right <;> rfl

theorem AlikeUpTo.name?_eq {value other : Value} (alike : value.AlikeUpTo Eq other) :
    value.name? = other.name? := by
  rw [name?, name?, alike.label?_eq]

/-! ## Lists of names -/

/-- A value stands for items: a text for itself alone, a list or tuple for its items. -/
inductive ListsItems : Value → List Value → Prop
  | alone (name : Label) : ListsItems (.label name) [.label name]
  | sequence {value : Value} {items : List Value} (shape : value.IsSequence items) :
      ListsItems value items

/-- The names that a value lists are those among the items it stands for. -/
theorem ListsItems.names?_eq_some {value : Value} {items : List Value} {names : List Label}
    (listed : value.ListsItems items) :
    value.names? = some names ↔ items.mapM name? = some names ∧ items ≠ [] := by
  cases listed with
  | alone name =>
    show [Value.label name].mapM name? = some names ↔ _
    simp
  | sequence shape => exact names?_of_isSequence shape

/-- Two values stand for the same items, up to the shape of sequences among them. -/
inductive ListsAlike : Value → Value → Prop
  | same (value : Value) : ListsAlike value value
  | items {value other : Value} {items others : List Value} (left : value.ListsItems items)
      (right : other.ListsItems others) (each : List.Forall₂ (AlikeUpTo Eq) items others) :
      ListsAlike value other

/-- Traversals of items that give the same one by one are the same. -/
theorem mapM_eq_of_forall₂ {m : Type → Type} [Monad m] [LawfulMonad m] {α β : Type} {f : α → m β}
    {items others : List α} (each : List.Forall₂ (fun a b => f a = f b) items others) :
    items.mapM f = others.mapM f := by
  induction each with
  | nil => rfl
  | cons first _ ih => rw [List.mapM_cons, List.mapM_cons, first, ih]

/-- Values that stand for the same items list the same names. -/
theorem ListsAlike.names?_eq {value other : Value} (alike : value.ListsAlike other) :
    value.names? = other.names? := by
  cases alike with
  | same => rfl
  | @items _ items others left right each =>
    have traversed : items.mapM name? = others.mapM name? :=
      mapM_eq_of_forall₂ (each.imp fun _ _ alike => alike.name?_eq)
    have given : items ≠ [] ↔ others ≠ [] := by
      rw [← List.isEmpty_eq_false_iff, ← List.isEmpty_eq_false_iff, isEmpty_eq_of_forall₂ each]
    refine Option.ext fun names => ?_
    rw [left.names?_eq_some, right.names?_eq_some, traversed, given]

end Value

end TableModel
