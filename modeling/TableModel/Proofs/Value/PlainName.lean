/-
# TableModel.Proofs.Value.PlainName — names that are identifiers

A text shows a name as it is, without quotation marks, so a name that holds a blank or a comma
would be read back as something else. A plain name is a plain text that is an identifier; lists of
plain names are determined by what they show.
-/
import TableModel.Proofs.Text.SelfDelimiting
import TableModel.Value.Literal

namespace TableModel

open Text

/-- Lists are determined by their images under a function that has an inverse on their items. -/
theorem eq_of_map_eq {α β : Type} {f : α → β} {g : β → α} {as bs : List α}
    (ha : ∀ a ∈ as, g (f a) = a) (hb : ∀ b ∈ bs, g (f b) = b) (same : as.map f = bs.map f) :
    as = bs := by
  have back : ∀ {items : List α}, (∀ item ∈ items, g (f item) = item) →
      (items.map f).map g = items := by
    intro items h
    rw [List.map_map]
    exact (List.map_congr_left h).trans (List.map_id' items)
  rw [← back ha, ← back hb, same]

namespace Value

/-- Whether a value is a plain text that is an identifier. -/
def isPlainName : Value → Bool
  | .label (.plain name) => isIdentifier name
  | _ => false

/-- A plain text that is an identifier. -/
def IsPlainName (value : Value) : Prop :=
  value.isPlainName = true

instance : DecidablePred IsPlainName := fun value =>
  inferInstanceAs (Decidable (value.isPlainName = true))

theorem isPlainName_iff {value : Value} :
    value.IsPlainName ↔ ∃ name : String, value = .text name ∧ isIdentifier name = true := by
  constructor
  · intro h
    match value, h with
    | .label (.plain name), h => exact ⟨name, rfl, h⟩
  · rintro ⟨name, rfl, h⟩
    exact h

theorem IsPlainName.eq_text {value : Value} (h : value.IsPlainName) : value = .text value.shown := by
  obtain ⟨name, rfl, _⟩ := isPlainName_iff.mp h
  rfl

theorem IsPlainName.identifier {value : Value} (h : value.IsPlainName) :
    isIdentifier value.shown = true := by
  obtain ⟨name, rfl, hname⟩ := isPlainName_iff.mp h
  exact hname

/-- Plain names are determined by what they show. -/
theorem eq_of_map_shown_eq {names others : List Value} (hnames : ∀ name ∈ names, name.IsPlainName)
    (hothers : ∀ name ∈ others, name.IsPlainName)
    (same : names.map shown = others.map shown) : names = others :=
  eq_of_map_eq (fun name hname => (hnames name hname).eq_text.symm)
    (fun name hname => (hothers name hname).eq_text.symm) same

end Value

/-- Plain labels are determined by their contents. -/
theorem Label.eq_of_map_content_eq {names others : List Label}
    (hnames : ∀ name ∈ names, (Value.label name).IsPlainName)
    (hothers : ∀ name ∈ others, (Value.label name).IsPlainName)
    (same : names.map content = others.map content) : names = others := by
  have plain : ∀ {name : Label}, (Value.label name).IsPlainName → plain name.content = name := by
    intro name h
    obtain ⟨text, htext, -⟩ := Value.isPlainName_iff.mp h
    obtain rfl := Value.label.inj htext
    rfl
  exact eq_of_map_eq (fun name hname => plain (hnames name hname))
    (fun name hname => plain (hothers name hname)) same

end TableModel
