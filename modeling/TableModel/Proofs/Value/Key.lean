/-
# TableModel.Proofs.Value.Key — what is found under a key is a key

Values that can be no keys are the same key as nothing, so looking one up in a mapping finds nothing,
whatever the mapping holds.
-/
import TableModel.Value.Key

namespace TableModel

namespace Value

/-- What is the same number as something is a number. -/
theorem isKey_of_sameNumber {a b : Value} (h : a.sameNumber b = true) : b.isKey = true := by
  unfold sameNumber at h
  split at h
  · rename_i hb
    cases b with
    | bool | int | float => rfl
    | _ => cases hb
  · split at h
    · rfl
    · cases h
  · cases h

theorem isKey_and_areKeys_of_same :
    (∀ a b : Value, a.sameKey b = true → b.isKey = true) ∧
      ∀ as bs : List Value, sameKeys as bs = true → areKeys bs = true := by
  apply sameKey.mutual_induct (fun a b => a.sameKey b = true → b.isKey = true)
    fun as bs => sameKeys as bs = true → areKeys bs = true
  case case1 => exact fun _ => rfl
  case case2 => exact fun _ _ _ => rfl
  case case3 => exact fun _ _ _ => rfl
  case case4 =>
    intro as bs items h
    rw [sameKey] at h
    exact items h
  case case5 =>
    intro a b c a' b' c' ha hb hc h
    simp only [sameKey, Bool.and_eq_true] at h
    simp only [isKey, Bool.and_eq_true]
    exact ⟨⟨ha h.1.1, hb h.1.2⟩, hc h.2⟩
  case case6 =>
    intro a b c d e f a' b' c' d' e' f' ha hb hc hd he hf h
    simp only [sameKey, Bool.and_eq_true] at h
    obtain ⟨⟨⟨⟨⟨a, b⟩, c⟩, d⟩, e⟩, f⟩ := h
    simp only [isKey, Bool.and_eq_true]
    exact ⟨⟨⟨⟨⟨ha a, hb b⟩, hc c⟩, hd d⟩, he e⟩, hf f⟩
  case case7 =>
    -- all other pairs are compared as numbers
    intro a b h1 h2 h3 h4 h5 h6 h
    rw [sameKey.eq_7 a b h1 h2 h3 h4 h5 h6] at h
    exact isKey_of_sameNumber h
  case case8 => exact fun _ => rfl
  case case9 =>
    intro a as b bs first rest h
    rw [sameKeys, Bool.and_eq_true] at h
    rw [areKeys, Bool.and_eq_true]
    exact ⟨first h.1, rest h.2⟩
  case case10 =>
    intro as bs h1 h2 h
    rw [sameKeys.eq_3 as bs h1 h2] at h
    cases h

/-- What is the same key as something is a key. -/
theorem isKey_of_sameKey {a b : Value} : a.sameKey b = true → b.isKey = true :=
  isKey_and_areKeys_of_same.1 a b

/-- Under what can be no key there is nothing. -/
theorem lookup?_of_not_isKey {key : Value} (entries : List (Value × Value))
    (h : key.isKey = false) : lookup? key entries = none := by
  rw [lookup?, Option.map_eq_none_iff, List.find?_eq_none]
  intro entry _ same
  rw [isKey_of_sameKey same] at h
  cases h

end Value

end TableModel
