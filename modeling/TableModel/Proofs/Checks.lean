/-
# TableModel.Proofs.Checks — what a chain of checks has passed

Definitions and requests are read by chains of checks, each of which either yields a result for the
next one or ends the chain with its error. These lemmas turn the result of a chain into the results
of its links, and the result of a traversal into those of its items.
-/
import Mathlib.Data.List.Forall2

namespace TableModel

variable {ε α β : Type}

theorem ok_bind {a : α} {next : α → Except ε β} : Except.ok a >>= next = next a := rfl

/-- A chain yields what its second link makes of the result of its first. -/
theorem bind_eq_ok {first : Except ε α} {next : α → Except ε β} {b : β} :
    first >>= next = .ok b ↔ ∃ a, first = .ok a ∧ next a = .ok b := by
  cases first <;> simp [Bind.bind, Except.bind]

/-- A chain ends with the error of its first link that fails. -/
theorem bind_eq_error {first : Except ε α} {next : α → Except ε β} {e : ε} :
    first >>= next = .error e ↔ first = .error e ∨ ∃ a, first = .ok a ∧ next a = .error e := by
  cases first <;> simp [Bind.bind, Except.bind]

theorem map_eq_ok {first : Except ε α} {f : α → β} {b : β} :
    first.map f = .ok b ↔ ∃ a, first = .ok a ∧ f a = b := by
  cases first <;> simp [Except.map]

theorem map_eq_error {first : Except ε α} {f : α → β} {e : ε} :
    first.map f = .error e ↔ first = .error e := by
  cases first <;> simp [Except.map]

/-- Renaming errors leaves results as they are. -/
theorem mapError_eq_ok {ε' : Type} {result : Except ε α} {rename : ε → ε'} {a : α} :
    result.mapError rename = .ok a ↔ result = .ok a := by
  cases result <;> simp [Except.mapError]

@[simp] theorem pure_eq_ok {a b : α} : (pure a : Except ε α) = .ok b ↔ a = b := by
  simp [pure, Except.pure]

@[simp] theorem throw_ne_ok {e : ε} {a : α} : (throw e : Except ε α) = .ok a ↔ False := by
  simp [throw, throwThe, MonadExceptOf.throw]

@[simp] theorem pure_ne_error {a : α} {e : ε} : (pure a : Except ε α) = .error e ↔ False := by
  simp [pure, Except.pure]

@[simp] theorem throw_eq_error {e e' : ε} : (throw e : Except ε α) = .error e' ↔ e = e' := by
  simp [throw, throwThe, MonadExceptOf.throw]

/-- A refusal on a condition is passed when the condition does not hold. -/
theorem refuse_eq_ok {refused : Bool} {e : ε} {next : PUnit → Except ε β} {b : β} :
    (if refused = true then throw e >>= next else next ⟨⟩) = .ok b ↔
      refused = false ∧ next ⟨⟩ = .ok b := by
  cases refused <;> simp [bind_eq_ok]

/-- A refusal fails with its own error, or the rest of the chain does. -/
theorem refuse_eq_error {refused : Bool} {e e' : ε} {next : PUnit → Except ε β} :
    (if refused = true then throw e >>= next else next ⟨⟩) = .error e' ↔
      refused = true ∧ e = e' ∨ refused = false ∧ next ⟨⟩ = .error e' := by
  cases refused <;> simp [bind_eq_error]

/-- A check with one error fails exactly where it yields nothing. -/
theorem eq_error_iff_of_only {result : Except ε α} {only : ε}
    (one : ∀ e, result = .error e → e = only) {e : ε} :
    result = .error e ↔ (∀ a, result ≠ .ok a) ∧ e = only := by
  cases result with
  | error other =>
    obtain rfl := one other rfl
    simp [eq_comm]
  | ok a => simp

/-- A traversal yields the results of its items, one by one. -/
theorem mapM_eq_ok {f : α → Except ε β} {items : List α} {results : List β} :
    items.mapM f = .ok results ↔ List.Forall₂ (fun a b => f a = .ok b) items results := by
  induction items generalizing results with
  | nil =>
    rw [List.mapM_nil, pure_eq_ok, List.forall₂_nil_left_iff, eq_comm]
  | cons item items ih =>
    rw [List.mapM_cons, bind_eq_ok, List.forall₂_cons_left_iff]
    constructor
    · rintro ⟨b, hb, h⟩
      -- the first item and then the others, as the traversal goes
      obtain ⟨bs, hbs, h⟩ := bind_eq_ok.mp h
      exact ⟨b, bs, hb, ih.mp hbs, (pure_eq_ok.mp h).symm⟩
    · rintro ⟨b, bs, hb, hbs, rfl⟩
      exact ⟨b, hb, bind_eq_ok.mpr ⟨bs, ih.mpr hbs, rfl⟩⟩

/-- A traversal fails with the error of an item when the items before it have passed. -/
theorem mapM_eq_error {f : α → Except ε β} {items : List α} {e : ε} :
    items.mapM f = .error e ↔ ∃ before item after, items = before ++ item :: after ∧
      (∀ earlier ∈ before, ∃ b, f earlier = .ok b) ∧ f item = .error e := by
  induction items with
  | nil => simp
  | cons first rest ih =>
    rw [List.mapM_cons, bind_eq_error]
    constructor
    · rintro (h | ⟨b, hb, h⟩)
      · exact ⟨[], first, rest, rfl, by simp, h⟩
      · rcases bind_eq_error.mp h with h | ⟨bs, -, h⟩
        · obtain ⟨before, item, after, rfl, passed, h⟩ := ih.mp h
          exact ⟨first :: before, item, after, rfl, List.forall_mem_cons.mpr ⟨⟨b, hb⟩, passed⟩, h⟩
        · exact (pure_ne_error.mp h).elim
    · rintro ⟨before, item, after, split, passed, h⟩
      cases before with
      | nil =>
        obtain ⟨rfl, rfl⟩ := List.cons_eq_cons.mp split
        exact .inl h
      | cons earlier before =>
        obtain ⟨rfl, rfl⟩ := List.cons_eq_cons.mp split
        obtain ⟨⟨b, hb⟩, passed⟩ := List.forall_mem_cons.mp passed
        have others := ih.mpr ⟨before, item, after, rfl, passed, h⟩
        exact .inr ⟨b, hb, bind_eq_error.mpr (.inl others)⟩

/-- A traversal fails with the error of one of its items. -/
theorem exists_of_mapM_eq_error {f : α → Except ε β} {items : List α} {e : ε}
    (h : items.mapM f = .error e) : ∃ item ∈ items, f item = .error e := by
  obtain ⟨before, item, after, rfl, -, h⟩ := mapM_eq_error.mp h
  exact ⟨item, by simp, h⟩

/-- A traversal with optional results yields them one by one. -/
theorem mapM_eq_some {f : α → Option β} {items : List α} {results : List β} :
    items.mapM f = some results ↔ List.Forall₂ (fun a b => f a = some b) items results := by
  induction items generalizing results with
  | nil => simp [eq_comm]
  | cons item items ih =>
    rw [List.mapM_cons, List.forall₂_cons_left_iff]
    simp only [Option.bind_eq_bind, Option.bind_eq_some_iff, Option.pure_def, Option.some.injEq]
    constructor
    · rintro ⟨b, hb, bs, hbs, rfl⟩
      exact ⟨b, bs, hb, ih.mp hbs, rfl⟩
    · rintro ⟨b, bs, hb, hbs, rfl⟩
      exact ⟨b, hb, bs, ih.mpr hbs, rfl⟩

/-! ## Two chains side by side -/

/-- Two checks agree when both fail with the same error, or both yield results that are related. -/
inductive ChecksAgree (related : α → β → Prop) : Except ε α → Except ε β → Prop
  | failed (e : ε) : ChecksAgree related (.error e) (.error e)
  | passed {a : α} {b : β} (h : related a b) : ChecksAgree related (.ok a) (.ok b)

namespace ChecksAgree

variable {related : α → β → Prop} {left : Except ε α} {right : Except ε β}

theorem failed_or_passed (agree : ChecksAgree related left right) :
    (∃ e, left = .error e ∧ right = .error e) ∨
      ∃ a b, left = .ok a ∧ right = .ok b ∧ related a b := by
  cases agree with
  | failed e => exact Or.inl ⟨e, rfl, rfl⟩
  | passed h => exact Or.inr ⟨_, _, rfl, rfl, h⟩

theorem refl (same : Except ε α) : ChecksAgree Eq same same := by
  cases same with
  | error e => exact .failed e
  | ok a => exact .passed rfl

/-- Checks that agree on equality are the same. -/
theorem eq {right : Except ε α} (agree : ChecksAgree Eq left right) : left = right := by
  cases agree with
  | failed e => rfl
  | passed same => rw [same]

/-- Results that are related are also related in a weaker way. -/
theorem mono {weaker : α → β → Prop} (agree : ChecksAgree related left right)
    (weaken : ∀ a b, related a b → weaker a b) : ChecksAgree weaker left right := by
  cases agree with
  | failed e => exact .failed e
  | passed h => exact .passed (weaken _ _ h)

/-- Chains agree when their first links do and the others agree on what those yield. -/
theorem bind {γ δ : Type} {other : γ → δ → Prop} {nextLeft : α → Except ε γ}
    {nextRight : β → Except ε δ} (first : ChecksAgree related left right)
    (next : ∀ a b, related a b → ChecksAgree other (nextLeft a) (nextRight b)) :
    ChecksAgree other (left >>= nextLeft) (right >>= nextRight) := by
  cases first with
  | failed e => exact .failed e
  | passed h => exact next _ _ h

/-- Chains with the same first link agree when the others do on what it yields. -/
theorem bind_same {γ δ : Type} {other : γ → δ → Prop} {nextLeft : α → Except ε γ}
    {nextRight : α → Except ε δ} (same : Except ε α)
    (next : ∀ a, ChecksAgree other (nextLeft a) (nextRight a)) :
    ChecksAgree other (same >>= nextLeft) (same >>= nextRight) := by
  refine (refl same).bind fun a b h => ?_
  subst h
  exact next a

theorem map {γ δ : Type} {other : γ → δ → Prop} {f : α → γ} {g : β → δ}
    (agree : ChecksAgree related left right) (h : ∀ a b, related a b → other (f a) (g b)) :
    ChecksAgree other (left.map f) (right.map g) := by
  cases agree with
  | failed e => exact .failed e
  | passed related => exact .passed (h _ _ related)

/-- Refusals on the same condition agree when what follows them does. -/
theorem refuse {γ δ : Type} {other : γ → δ → Prop} {refused : Bool} {e : ε}
    {nextLeft : PUnit → Except ε γ} {nextRight : PUnit → Except ε δ}
    (next : ChecksAgree other (nextLeft ⟨⟩) (nextRight ⟨⟩)) :
    ChecksAgree other (if refused = true then throw e >>= nextLeft else nextLeft ⟨⟩)
      (if refused = true then throw e >>= nextRight else nextRight ⟨⟩) := by
  cases refused with
  | true => exact .failed e
  | false => exact next

end ChecksAgree

end TableModel
