/-
# TableModel.Keyed — things kept under names

A keyed list holds at most one thing under a name. Putting a thing under a name replaces what was
there and leaves everything else as it is.
-/

namespace TableModel

/-- Things kept under names. -/
abbrev Keyed (α : Type) := List (String × α)

namespace Keyed

variable {α : Type}

/-- The thing under a name. -/
def find? (name : String) (things : Keyed α) : Option α :=
  List.lookup name things

/-- The things with one more, which replaces the one under its name. -/
def put (name : String) (thing : α) (things : Keyed α) : Keyed α :=
  (name, thing) :: things.filter fun entry => entry.1 != name

@[simp] theorem find?_put_self (name : String) (thing : α) (things : Keyed α) :
    find? name (put name thing things) = some thing := by
  simp [find?, put]

theorem find?_put_of_ne {name other : String} (h : other ≠ name) (thing : α) (things : Keyed α) :
    find? other (put name thing things) = find? other things := by
  have hb : (other == name) = false := by simpa using h
  simp only [find?, put, List.lookup_cons, hb]
  induction things with
  | nil => rfl
  | cons entry rest ih =>
    obtain ⟨key, value⟩ := entry
    by_cases hk : key = name
    · subst hk; simp [List.lookup_cons, hb, ih]
    · simp [hk, List.lookup_cons, ih]

/-- Among things with different names, what is found under a name is what stands under it. -/
theorem find?_eq_some_iff_mem {things : Keyed α} (distinct : (things.map Prod.fst).Nodup)
    {name : String} {thing : α} : find? name things = some thing ↔ (name, thing) ∈ things := by
  rw [find?, List.lookup_eq_some_iff]
  constructor
  · rintro ⟨before, after, split, -⟩
    rw [split]
    simp
  · intro member
    obtain ⟨before, after, split⟩ := List.append_of_mem member
    refine ⟨before, after, split, fun entry earlier => ?_⟩
    rw [split, List.map_append, List.nodup_append] at distinct
    have different := distinct.2.2 entry.1 (List.mem_map_of_mem earlier) name (by simp)
    simpa using different.symm

end Keyed

end TableModel
