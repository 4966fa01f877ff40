/-
# TableModel.Proofs.FirstFault — of several faults, the first one is reported

An input can have several faults at once, and its author is told about one of them. Which one is part
of what a chain of checks promises: the checks stand in an order, and the first one that finds a fault
decides. A catalogue of faults says for each check, on its own and whatever the other checks find, what
the check has to say about the input. `Reports` relates such a catalogue to the result of a chain, and
a chain is compared with its catalogue link by link.
-/
import TableModel.Proofs.Checks

namespace TableModel

variable {κ ε α β : Type} {fault : κ → ε → Prop} {check : κ} {checks : List κ}

/-- An error is what the first check says that finds a fault. It is all that this check says, and the
checks before it find nothing. -/
def FirstFault (fault : κ → ε → Prop) (checks : List κ) (e : ε) : Prop :=
  ∃ before check after, checks = before ++ check :: after ∧
    (∀ earlier ∈ before, ∀ e', ¬ fault earlier e') ∧ ∀ e', fault check e' ↔ e' = e

/-- A result reports the faults that checks find: it is an error for the first fault, and it is none
only where no check finds a fault. -/
inductive Reports (fault : κ → ε → Prop) (checks : List κ) : Except ε α → Prop
  | passed {a : α} (faultless : ∀ check ∈ checks, ∀ e, ¬ fault check e) : Reports fault checks (.ok a)
  | failed {e : ε} (first : FirstFault fault checks e) : Reports fault checks (.error e)

theorem FirstFault.exists_fault {e : ε} (first : FirstFault fault checks e) :
    ∃ check ∈ checks, fault check e := by
  obtain ⟨before, check, after, rfl, -, said⟩ := first
  exact ⟨check, by simp, (said e).mpr rfl⟩

/-- Further checks change nothing about the first fault. -/
theorem FirstFault.append {e : ε} (first : FirstFault fault checks e) (others : List κ) :
    FirstFault fault (checks ++ others) e := by
  obtain ⟨before, check, after, rfl, silent, said⟩ := first
  exact ⟨before, check, after ++ others, by simp, silent, said⟩

/-- Checks that find nothing leave the first fault to the others. -/
theorem FirstFault.after {e : ε} {others : List κ} (faultless : ∀ check ∈ checks, ∀ e', ¬ fault check e')
    (first : FirstFault fault others e) : FirstFault fault (checks ++ others) e := by
  obtain ⟨before, check, after, rfl, silent, said⟩ := first
  refine ⟨checks ++ before, check, after, by simp, ?_, said⟩
  rw [List.forall_mem_append]
  exact ⟨faultless, silent⟩

theorem FirstFault.cons_iff {e : ε} : FirstFault fault (check :: checks) e ↔
    (∀ e', fault check e' ↔ e' = e) ∨ (∀ e', ¬ fault check e') ∧ FirstFault fault checks e := by
  constructor
  · rintro ⟨before, other, after, h, silent, said⟩
    cases before with
    | nil =>
      rw [List.nil_append, List.cons_eq_cons] at h
      obtain ⟨rfl, rfl⟩ := h
      exact Or.inl said
    | cons earlier before =>
      rw [List.cons_append, List.cons_eq_cons] at h
      obtain ⟨rfl, rfl⟩ := h
      rw [List.forall_mem_cons] at silent
      exact Or.inr ⟨silent.1, before, other, after, rfl, silent.2, said⟩
  · rintro (said | ⟨silent, first⟩)
    · exact ⟨[], check, checks, rfl, by simp, said⟩
    · have faultless : ∀ earlier ∈ [check], ∀ e', ¬ fault earlier e' := by simpa using silent
      exact first.after faultless

/-- There is one first fault at most. -/
theorem FirstFault.unique {e e' : ε} (first : FirstFault fault checks e)
    (other : FirstFault fault checks e') : e = e' := by
  induction checks with
  | nil =>
    obtain ⟨check, member, -⟩ := first.exists_fault
    cases member
  | cons check checks ih =>
    rcases FirstFault.cons_iff.mp first with said | ⟨silent, first⟩
    · rcases FirstFault.cons_iff.mp other with said' | ⟨silent, -⟩
      · exact (said' e).mp ((said e).mpr rfl)
      · exact absurd ((said e).mpr rfl) (silent e)
    · rcases FirstFault.cons_iff.mp other with said' | ⟨-, other⟩
      · exact absurd ((said' e').mpr rfl) (silent e')
      · exact ih first other

namespace Reports

/-- A result is no error exactly where no check finds a fault. -/
theorem ok_iff {result : Except ε α} (reports : Reports fault checks result) :
    (∃ a, result = .ok a) ↔ ∀ check ∈ checks, ∀ e, ¬ fault check e := by
  cases reports with
  | passed faultless => exact ⟨fun _ => faultless, fun _ => ⟨_, rfl⟩⟩
  | failed first =>
    obtain ⟨check, member, found⟩ := first.exists_fault
    constructor
    · rintro ⟨a, h⟩
      cases h
    · intro faultless
      exact absurd found (faultless check member _)

/-- The error that is reported is the first fault. -/
theorem error_iff {result : Except ε α} (reports : Reports fault checks result) {e : ε} :
    result = .error e ↔ FirstFault fault checks e := by
  cases reports with
  | passed faultless =>
    constructor
    · intro h
      cases h
    · intro first
      obtain ⟨check, member, found⟩ := first.exists_fault
      exact absurd found (faultless check member e)
  | failed first =>
    rw [Except.error.injEq]
    constructor
    · rintro rfl
      exact first
    · exact first.unique

/-- A chain without checks has passed. -/
theorem done (a : α) : Reports fault [] (.ok a : Except ε α) :=
  .passed (by simp)

/-- A chain fails with what its first check says. -/
theorem fails {e : ε} (said : ∀ e', fault check e' ↔ e' = e) :
    Reports fault (check :: checks) (.error e : Except ε α) :=
  .failed ⟨[], check, checks, rfl, by simp, said⟩

/-- A link that fails with what one check says, and only then, reports that check. -/
theorem single {result : Except ε α} (decides : ∀ e, fault check e ↔ result = .error e) :
    Reports fault [check] result := by
  cases result with
  | error e =>
    refine fails fun e' => ?_
    rw [decides e', Except.error.injEq, eq_comm]
  | ok a =>
    refine .passed fun other member e found => ?_
    obtain rfl := List.mem_singleton.mp member
    cases (decides e).mp found

/-- A chain reports the checks of its first link and then those of the others. -/
theorem chain {first : Except ε α} {next : α → Except ε β} {others : List κ}
    (reports : Reports fault checks first)
    (rest : ∀ a, first = .ok a → Reports fault others (next a)) :
    Reports fault (checks ++ others) (first >>= next) := by
  cases reports with
  | failed found => exact .failed (found.append others)
  | @passed a faultless =>
    have rest := rest a rfl
    rw [ok_bind]
    generalize next a = result at rest
    cases rest with
    | passed others => exact .passed (List.forall_mem_append.mpr ⟨faultless, others⟩)
    | failed found => exact .failed (found.after faultless)

/-- What is made of a result that has passed is left to say. -/
theorem map {result : Except ε α} (reports : Reports fault checks result) (f : α → β) :
    Reports fault checks (result.map f) := by
  cases reports with
  | passed faultless => exact .passed faultless
  | failed first => exact .failed first

/-- A traversal reports the checks of its items, item by item. -/
theorem mapM {items : List α} {checksOf : α → List κ} {f : α → Except ε β}
    (each : ∀ item ∈ items, Reports fault (checksOf item) (f item)) :
    Reports fault (items.flatMap checksOf) (items.mapM f) := by
  induction items with
  | nil => exact done []
  | cons item items ih =>
    rw [List.forall_mem_cons] at each
    rw [List.flatMap_cons, List.mapM_cons]
    refine each.1.chain fun result _ => ?_
    rw [← List.append_nil (items.flatMap checksOf)]
    exact (ih each.2).chain fun results _ => done (result :: results)

/-- A chain whose first link is a single check. -/
theorem bind {first : Except ε α} {next : α → Except ε β}
    (decides : ∀ e, fault check e ↔ first = .error e)
    (rest : ∀ a, first = .ok a → Reports fault checks (next a)) :
    Reports fault (check :: checks) (first >>= next) :=
  (single decides).chain rest

/-- A check that finds nothing may be left out of a chain. -/
theorem skip {result : Except ε α} (silent : ∀ e, ¬ fault check e)
    (rest : Reports fault checks result) : Reports fault (check :: checks) result := by
  have passed : Reports fault [check] (.ok () : Except ε Unit) := .passed (by simpa using silent)
  exact passed.chain fun _ _ => rest

/-- A refusal on a condition is a check. -/
theorem refuse {refused : Bool} {e : ε} {next : PUnit → Except ε β}
    (decides : ∀ e', fault check e' ↔ refused = true ∧ e' = e)
    (rest : refused = false → Reports fault checks (next ⟨⟩)) :
    Reports fault (check :: checks) (if refused = true then throw e >>= next else next ⟨⟩) := by
  cases refused with
  | true =>
    refine fails fun e' => ?_
    simpa using decides e'
  | false => exact skip (by simpa using decides) (rest rfl)

end Reports

end TableModel
