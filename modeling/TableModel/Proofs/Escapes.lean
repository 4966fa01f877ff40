/-
# TableModel.Proofs.Escapes — failures that are no findings

A chain of checks is meant to end in one of two ways: it yields a result, or it finds something wrong
with what it was given and says so. Some errors are neither and only mark a place where the chain
cannot go on. Here such an error is traced back through a chain to the link that it comes from,
together with all that was passed before it.
-/
import TableModel.Proofs.Checks

namespace TableModel

variable {ε α β : Type} {isFinding : ε → Bool}

/-- The two ways in which checks are meant to end: a result, or an error that is a finding. -/
def Answers (isFinding : ε → Bool) (result : Except ε α) : Prop :=
  (∃ a, result = .ok a) ∨ ∃ e, result = .error e ∧ isFinding e = true

/-- The way in which checks are not meant to end: an error that is no finding. -/
def Escapes (isFinding : ε → Bool) (result : Except ε α) : Prop :=
  ∃ e, result = .error e ∧ isFinding e = false

theorem answers_iff {result : Except ε α} : Answers isFinding result ↔ ¬ Escapes isFinding result := by
  cases result <;> simp [Answers, Escapes]

/-- Checks find something exactly when they yield nothing and nothing escapes. -/
theorem exists_finding_iff {result : Except ε α} :
    (∃ e, result = .error e ∧ isFinding e = true) ↔
      (¬ ∃ a, result = .ok a) ∧ ¬ Escapes isFinding result := by
  cases result <;> simp [Escapes]

namespace Escapes

theorem not_ok (a : α) : ¬ Escapes isFinding (.ok a : Except ε α) := by
  rintro ⟨e, h, -⟩
  cases h

theorem error_iff {e : ε} : Escapes isFinding (.error e : Except ε α) ↔ isFinding e = false := by
  simp [Escapes]

theorem map_iff {result : Except ε α} {f : α → β} :
    Escapes isFinding (result.map f) ↔ Escapes isFinding result := by
  simp only [Escapes, map_eq_error]

/-- An error escapes from the first link of a chain, or from the others once the first has passed. -/
theorem bind_iff {first : Except ε α} {next : α → Except ε β} :
    Escapes isFinding (first >>= next) ↔
      Escapes isFinding first ∨ ∃ a, first = .ok a ∧ Escapes isFinding (next a) := by
  cases first with
  | error e => simp [error_iff, Bind.bind, Except.bind]
  | ok a => simp [not_ok, ok_bind]

/-- Nothing escapes from a chain before its first link that an error can escape from. -/
theorem bind_of_answers {first : Except ε α} {next : α → Except ε β} (answers : ¬ Escapes isFinding first) :
    Escapes isFinding (first >>= next) ↔ ∃ a, first = .ok a ∧ Escapes isFinding (next a) :=
  bind_iff.trans (or_iff_right answers)

/-- Nothing escapes from a refusal that is a finding. -/
theorem refuse_iff {refused : Bool} {e : ε} {next : PUnit → Except ε β} (finding : isFinding e = true) :
    Escapes isFinding (if refused = true then throw e >>= next else next ⟨⟩) ↔
      refused = false ∧ Escapes isFinding (next ⟨⟩) := by
  cases refused with
  | true => simp [Escapes, bind_eq_error, finding]
  | false => simp

/-- An error escapes from a traversal at an item, and the items before it have passed. -/
theorem mapM_iff {f : α → Except ε β} {items : List α} :
    Escapes isFinding (items.mapM f) ↔
      ∃ before item after, items = before ++ item :: after ∧
        (∀ earlier ∈ before, ∃ b, f earlier = .ok b) ∧ Escapes isFinding (f item) := by
  constructor
  · rintro ⟨e, h, hidden⟩
    obtain ⟨before, item, after, split, passed, h⟩ := mapM_eq_error.mp h
    exact ⟨before, item, after, split, passed, e, h, hidden⟩
  · rintro ⟨before, item, after, split, passed, e, h, hidden⟩
    exact ⟨e, mapM_eq_error.mpr ⟨before, item, after, split, passed, h⟩, hidden⟩

end Escapes

end TableModel
