/-
# TableModel.Proofs.Statement.Ordering — orderings laid flat

An ordering may be grouped as deep as one likes, and the text shows nothing of the groups. Here an
ordering is described by its leaves from left to right, which are the values in it that are no lists
and no tuples, and by the term that each leaf is. An ordering without empty lists is written as its
terms are, with commas between them; an empty list inside another one would leave a separator with
nothing to separate. What stands between the separators, terms and the empty texts of empty lists, are
the pieces of an ordering.
-/
import TableModel.Proofs.Checks
import TableModel.Statement.OrderSpec

namespace TableModel

/-! ## Leaves -/

namespace Value

mutual

/-- The values that an ordering is made of when its lists and tuples are laid flat. -/
def orderLeaves : Value → List Value
  | .list items => itemLeaves items
  | .tuple items => itemLeaves items
  | value => [value]

/-- The leaves of items, from left to right. -/
def itemLeaves : List Value → List Value
  | [] => []
  | item :: rest => item.orderLeaves ++ itemLeaves rest

end

mutual

/-- No list or tuple of an ordering is empty. -/
def solid : Value → Bool
  | .list items => !items.isEmpty && areSolid items
  | .tuple items => !items.isEmpty && areSolid items
  | _ => true

/-- All items are without empty lists and tuples. -/
def areSolid : List Value → Bool
  | [] => true
  | item :: rest => item.solid && areSolid rest

end

/-- The column that a leaf of an ordering names. -/
def orderColumn : Value → Value
  | .ordering column _ _ => column
  | .map entries => field "column" entries
  | value => value

/-- The term that a leaf of an ordering is. -/
def orderTerm : Value → OrderTerm
  | .ordering column descending nullsLast => ⟨column.shown, descending.truth, nullsLast.truth⟩
  | .map entries => ⟨(field "column" entries).shown, (field "descending" entries).truth,
      (field "null_last" entries).truth⟩
  | value => ⟨value.shown, false, false⟩

theorem column_orderTerm (leaf : Value) : leaf.orderTerm.column = leaf.orderColumn.shown := by
  cases leaf <;> rfl

end Value

theorem OrderTerm.text_ne_empty (term : OrderTerm) : term.text ≠ "" := by
  simp [OrderTerm.text]

/-! ## What is read from an ordering -/

namespace OrderSpec

mutual

/-- An ordering has the terms of its leaves. -/
theorem terms_of_ofValue : ∀ {value : Value} {spec : OrderSpec}, ofValue value = .ok spec →
    spec.terms = value.orderLeaves.map Value.orderTerm
  | .list items, spec, h => by
    obtain ⟨specs, hspecs, rfl⟩ := map_eq_ok.mp h
    exact allTerms_of_ofValues hspecs
  | .tuple items, spec, h => by
    obtain ⟨specs, hspecs, rfl⟩ := map_eq_ok.mp h
    exact allTerms_of_ofValues hspecs
  | .label name, spec, h => by
    obtain rfl := Except.ok.inj h
    rfl
  | .ordering column descending nullsLast, spec, h => by
    obtain rfl := Except.ok.inj h
    rfl
  | .map entries, spec, h => by
    simp only [ofValue] at h
    split at h
    · rename_i column hcolumn
      obtain rfl := Except.ok.inj h
      simp [terms, Value.orderLeaves, Value.orderTerm, Value.field, hcolumn]
    · simp at h

theorem allTerms_of_ofValues : ∀ {values : List Value} {specs : List OrderSpec},
    ofValues values = .ok specs →
    allTerms specs = (Value.itemLeaves values).map Value.orderTerm
  | [], specs, h => by
    obtain rfl := Except.ok.inj h
    rfl
  | value :: rest, specs, h => by
    obtain ⟨first, hfirst, h⟩ := bind_eq_ok.mp h
    obtain ⟨others, hothers, h⟩ := bind_eq_ok.mp h
    obtain rfl := pure_eq_ok.mp h
    rw [allTerms, Value.itemLeaves, List.map_append, terms_of_ofValue hfirst,
      allTerms_of_ofValues hothers]

end

/-! ## What is written between the separators -/

mutual

/-- The texts that an ordering is written as with commas between them: those of its terms, and an empty
one for each group without members. -/
def pieces : OrderSpec → List String
  | .term t => [t.text]
  | .group [] => [""]
  | .group (spec :: rest) => spec.pieces ++ allPieces rest

/-- The pieces of orderings, from left to right. -/
def allPieces : List OrderSpec → List String
  | [] => []
  | spec :: rest => spec.pieces ++ allPieces rest

end

theorem pieces_ne_nil : ∀ spec : OrderSpec, spec.pieces ≠ []
  | .term t => by simp [pieces]
  | .group [] => by simp [pieces]
  | .group (spec :: rest) => by
    rw [pieces]
    exact List.append_ne_nil_of_left_ne_nil (pieces_ne_nil spec) _

mutual

theorem text_eq_intercalate_pieces : ∀ spec : OrderSpec,
    spec.text = String.intercalate ", " spec.pieces
  | .term t => by simp [text, pieces]
  | .group [] => rfl
  | .group (spec :: rest) => intercalate_texts (spec :: rest) (List.cons_ne_nil spec rest)

/-- The same for the members of a group; there has to be one, since no members have no text. -/
theorem intercalate_texts : ∀ specs : List OrderSpec, specs ≠ [] →
    String.intercalate ", " (texts specs) = String.intercalate ", " (allPieces specs)
  | [], nonempty => absurd rfl nonempty
  | [spec], _ => by simp [texts, allPieces, text_eq_intercalate_pieces spec]
  | spec :: next :: rest, _ => by
    -- the separator is written only if the others have a text, and they have one with their pieces
    have others : allPieces (next :: rest) ≠ [] := by
      rw [allPieces]
      exact List.append_ne_nil_of_left_ne_nil (pieces_ne_nil next) _
    rw [texts, allPieces, String.intercalate_cons_of_ne_nil (by simp [texts]),
      text_eq_intercalate_pieces spec, intercalate_texts (next :: rest) (List.cons_ne_nil next rest),
      String.intercalate_append_of_ne_nil (pieces_ne_nil spec) others]

end

mutual

/-- The pieces that are not empty are the terms. -/
theorem filter_pieces : ∀ spec : OrderSpec,
    spec.pieces.filter (· ≠ "") = spec.terms.map OrderTerm.text
  | .term t => by simp [pieces, terms, t.text_ne_empty]
  | .group [] => rfl
  | .group (spec :: rest) => by
    rw [pieces, terms, allTerms, List.filter_append, List.map_append, filter_pieces spec,
      filter_allPieces rest]

theorem filter_allPieces : ∀ specs : List OrderSpec,
    (allPieces specs).filter (· ≠ "") = (allTerms specs).map OrderTerm.text
  | [] => rfl
  | spec :: rest => by
    rw [allPieces, allTerms, List.filter_append, List.map_append, filter_pieces spec,
      filter_allPieces rest]

end

mutual

/-- An ordering has an empty piece when it has an empty list. -/
theorem empty_mem_pieces : ∀ {value : Value} {spec : OrderSpec}, ofValue value = .ok spec →
    ("" ∈ spec.pieces ↔ value.solid = false)
  | .list items, spec, h => by
    obtain ⟨specs, hspecs, rfl⟩ := map_eq_ok.mp h
    exact empty_mem_group hspecs
  | .tuple items, spec, h => by
    obtain ⟨specs, hspecs, rfl⟩ := map_eq_ok.mp h
    exact empty_mem_group hspecs
  | .label name, spec, h => by
    obtain rfl := Except.ok.inj h
    simp [pieces, Value.solid, (OrderTerm.text_ne_empty _).symm]
  | .ordering column descending nullsLast, spec, h => by
    obtain rfl := Except.ok.inj h
    simp [pieces, Value.solid, (OrderTerm.text_ne_empty _).symm]
  | .map entries, spec, h => by
    simp only [ofValue] at h
    split at h
    · obtain rfl := Except.ok.inj h
      simp [pieces, Value.solid, (OrderTerm.text_ne_empty _).symm]
    · simp at h

theorem empty_mem_group : ∀ {values : List Value} {specs : List OrderSpec},
    ofValues values = .ok specs →
    ("" ∈ (group specs).pieces ↔ (!values.isEmpty && Value.areSolid values) = false)
  | [], specs, h => by
    obtain rfl := Except.ok.inj h
    simp [pieces]
  | value :: rest, specs, h => by
    obtain ⟨first, hfirst, h⟩ := bind_eq_ok.mp h
    obtain ⟨others, hothers, h⟩ := bind_eq_ok.mp h
    obtain rfl := pure_eq_ok.mp h
    rw [pieces, Value.areSolid, List.mem_append, empty_mem_pieces hfirst, empty_mem_allPieces hothers,
      List.isEmpty_cons, Bool.not_false, Bool.true_and, Bool.and_eq_false_iff]

theorem empty_mem_allPieces : ∀ {values : List Value} {specs : List OrderSpec},
    ofValues values = .ok specs → ("" ∈ allPieces specs ↔ Value.areSolid values = false)
  | [], specs, h => by
    obtain rfl := Except.ok.inj h
    simp [allPieces, Value.areSolid]
  | value :: rest, specs, h => by
    obtain ⟨first, hfirst, h⟩ := bind_eq_ok.mp h
    obtain ⟨others, hothers, h⟩ := bind_eq_ok.mp h
    obtain rfl := pure_eq_ok.mp h
    rw [allPieces, Value.areSolid, List.mem_append, Bool.and_eq_false_iff, empty_mem_pieces hfirst,
      empty_mem_allPieces hothers]

end

/-- An ordering without empty lists is written as its terms are, with commas between them. -/
theorem text_of_ofValue {value : Value} {spec : OrderSpec} (h : ofValue value = .ok spec)
    (hsolid : value.solid = true) :
    spec.text = String.intercalate ", " (spec.terms.map OrderTerm.text) ∧ spec.terms ≠ [] := by
  have full : "" ∉ spec.pieces := by simp [empty_mem_pieces h, hsolid]
  have terms : spec.pieces = spec.terms.map OrderTerm.text := by
    rw [← filter_pieces, List.filter_eq_self.mpr]
    intro piece mem
    simpa using ne_of_mem_of_not_mem mem full
  refine ⟨by rw [text_eq_intercalate_pieces, terms], ?_⟩
  rintro none
  exact pieces_ne_nil spec (by rw [terms, none]; rfl)

end OrderSpec

end TableModel
