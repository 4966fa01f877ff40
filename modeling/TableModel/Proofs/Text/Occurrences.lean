/-
# TableModel.Proofs.Text.Occurrences — how often a pattern occurs in a text

Counting the occurrences of a pattern in a text that is put together from pieces is adding up what
the pieces have, unless an occurrence lies across the seam of two pieces. Whether one can is a matter
of few characters: it would begin with an end of the left piece and end with a beginning of the right
one. There are three simple reasons why it cannot, and the pieces of a statement always have one.
-/
import Mathlib.Algebra.GroupWithZero.Nat
import Mathlib.Data.List.Infix
import TableModel.Proofs.Text.SelfDelimiting

namespace TableModel.Text

variable {α : Type} {pattern left right : List Char}

/-- At how many places of a text a pattern occurs. -/
def occurrences (pattern : List Char) : List Char → Nat
  | [] => 0
  | c :: rest => (if pattern <+: c :: rest then 1 else 0) + occurrences pattern rest

/-- A pattern that occurs nowhere is no part of a text. -/
theorem occurrences_eq_zero (given : pattern ≠ []) {text : List Char} :
    occurrences pattern text = 0 ↔ ¬ pattern <:+: text := by
  induction text with
  | nil => simpa [occurrences] using given
  | cons c text ih =>
    rw [occurrences, List.infix_cons_iff, Nat.add_eq_zero_iff, ih, not_or]
    simp

/-! ## Seams -/

/-- An occurrence of a pattern lies across the seam of two texts. -/
def Straddles (pattern left right : List Char) : Prop :=
  ∃ front back, front ≠ [] ∧ back ≠ [] ∧ pattern = front ++ back ∧ front <:+ left ∧ back <+: right

/-- No end of a text is a beginning of a pattern. -/
def Sealed (pattern text : List Char) : Prop :=
  ∀ tail ∈ text.tails, tail ≠ [] → ¬ tail <+: pattern

instance (pattern text : List Char) : Decidable (Sealed pattern text) :=
  inferInstanceAs (Decidable (∀ tail ∈ text.tails, tail ≠ [] → ¬ tail <+: pattern))

/-- Without an occurrence across the seam, those of a whole are those of its pieces. -/
theorem occurrences_append (apart : ¬ Straddles pattern left right) :
    occurrences pattern (left ++ right)
      = occurrences pattern left + occurrences pattern right := by
  induction left with
  | nil => rw [List.nil_append, occurrences, Nat.zero_add]
  | cons c left ih =>
    have rest : ¬ Straddles pattern left right := by
      rintro ⟨front, back, hfront, hback, split, ending, beginning⟩
      exact apart ⟨front, back, hfront, hback, split, ending.trans (List.suffix_cons c left), beginning⟩
    -- an occurrence at the first place ends before the seam
    have first : pattern <+: c :: (left ++ right) ↔ pattern <+: c :: left := by
      constructor
      · rintro ⟨behind, h⟩
        rw [← List.cons_append] at h
        rcases List.append_eq_append_iff.mp h with
          ⟨more, hleft, -⟩ | ⟨back, hpattern, hright⟩
        · exact ⟨more, hleft.symm⟩
        · cases back with
          | nil => exact ⟨[], by rw [hpattern]; simp⟩
          | cons d back =>
            exact absurd ⟨c :: left, d :: back, by simp, by simp, hpattern, List.suffix_rfl,
              ⟨behind, hright.symm⟩⟩ apart
      · intro h
        exact h.trans (List.prefix_append (c :: left) right)
    rw [List.cons_append, occurrences, occurrences, ih rest, if_congr first rfl rfl,
      Nat.add_assoc]

/-- Nothing lies across a seam behind which a character comes that the pattern does not have. -/
theorem not_straddles_of_stops (stops : Stops pattern.contains right) :
    ¬ Straddles pattern left right := by
  rintro ⟨front, back, -, hback, rfl, -, beginning⟩
  obtain ⟨c, back, rfl⟩ := List.exists_cons_of_ne_nil hback
  obtain ⟨behind, rfl⟩ := beginning
  simp at stops

/-- Nothing lies across a seam behind a text that is sealed. -/
theorem not_straddles_of_sealed (closed : Sealed pattern left) :
    ¬ Straddles pattern left right := by
  rintro ⟨front, back, hfront, -, rfl, ending, -⟩
  exact closed front ((List.mem_tails _ _).mpr ending) hfront (List.prefix_append front back)

/-- Nothing lies across a seam behind which a single character comes that is not the pattern's last. -/
theorem not_straddles_of_last {c : Char} (last : pattern.getLast? ≠ some c) :
    ¬ Straddles pattern left [c] := by
  rintro ⟨front, back, -, hback, rfl, -, beginning⟩
  rcases List.prefix_cons_iff.mp beginning with rfl | ⟨more, rfl, ending⟩
  · exact hback rfl
  · obtain rfl := List.prefix_nil.mp ending
    simp at last

/-! ## Fixed text, flags and joined lists -/

/-- Behind a sealed text the occurrences of the rest are counted by themselves. -/
theorem occurrences_sealed (closed : Sealed pattern left) :
    occurrences pattern (left ++ right) = occurrences pattern left + occurrences pattern right :=
  occurrences_append (not_straddles_of_sealed closed)

/-- Before a character that the pattern does not have they are, too. -/
theorem occurrences_stops (stops : Stops pattern.contains right) :
    occurrences pattern (left ++ right) = occurrences pattern left + occurrences pattern right :=
  occurrences_append (not_straddles_of_stops stops)

/-- A sealed text that is there or not. -/
theorem occurrences_flag {present : Bool} (closed : Sealed pattern left) :
    occurrences pattern ((if present then left else []) ++ right)
      = (if present then occurrences pattern left else 0) + occurrences pattern right := by
  cases present with
  | true => exact occurrences_sealed closed
  | false => exact (Nat.zero_add _).symm

/-- Occurrences in a joined list are those in its items, if nothing lies across the separators. -/
theorem occurrences_writeJoined {separator : List Char}
    {write : α → List Char} (none : occurrences pattern separator = 0)
    (before : ∀ rest, Stops pattern.contains (separator ++ rest))
    (closed : Sealed pattern separator) (items : List α) :
    occurrences pattern (SelfDelimiting.writeJoined separator write items)
      = (items.map fun item => occurrences pattern (write item)).sum := by
  induction items with
  | nil => rfl
  | cons item items ih =>
    cases items with
    | nil => simp
    | cons next items =>
      rw [SelfDelimiting.writeJoined_cons_cons, List.append_assoc, occurrences_stops (before _),
        occurrences_sealed closed, none, ih, Nat.zero_add]
      rfl

end TableModel.Text
