/-
# TableModel.Proofs.Schema.Literal — literals of SQL tell where they end

The literal of a default value is either a string in apostrophes or bare. A string may hold anything,
commas and parentheses included, and still ends where it should: inside it every apostrophe is
doubled, so the first lone one closes it. A bare literal is a truth value, a number or bytes in
hexadecimal; it holds no comma and no closing parenthesis, which are what may follow.
-/
import TableModel.Proofs.Text.SelfDelimiting
import TableModel.Schema.Rendering

namespace TableModel

open Text

/-! ## Strings -/

/-- The characters of a string whose first apostrophe has been read, and what follows the string: two
apostrophes are one of the characters, a lone one closes the string. -/
def scanString : List Char → List Char × List Char
  | [] => ([], [])
  | c :: rest =>
    if c = apostrophe then
      match rest with
      | d :: behind =>
        if d = apostrophe then (c :: (scanString behind).1, (scanString behind).2) else ([], rest)
      | [] => ([], [])
    else (c :: (scanString rest).1, (scanString rest).2)

theorem scanString_cons_of_ne {c : Char} (h : c ≠ apostrophe) (rest : List Char) :
    scanString (c :: rest) = (c :: (scanString rest).1, (scanString rest).2) := by
  cases rest <;> simp [scanString, h]

/-- A string is scanned up to the apostrophe that closes it, whatever it holds. -/
theorem scanString_doubled (cs : List Char) {rest : List Char} (h : Stops (· == apostrophe) rest) :
    scanString (cs.flatMap doubledApostrophe ++ apostrophe :: rest) = (cs, rest) := by
  induction cs with
  | nil =>
    cases rest with
    | nil => rfl
    | cons c rest =>
      have hc : c ≠ apostrophe := by simpa using h
      simp [scanString, hc]
  | cons c cs ih =>
    by_cases hc : c = apostrophe
    · simp [doubledApostrophe, hc, scanString, ih]
    · simp [doubledApostrophe, hc, scanString_cons_of_ne hc, ih]

/-- A text as a string of SQL, before a rest that does not start with an apostrophe. -/
theorem selfDelimiting_sqlString :
    SelfDelimiting (fun text => (sqlString text).toList) (fun _ => True)
      (Stops (· == apostrophe)) := by
  refine .ofReader (fun cs => (String.ofList (scanString cs.tail).1, (scanString cs.tail).2)) ?_
  intro text rest _ h
  simp [sqlString, scanString_doubled text.toList h]

/-! ## Literals -/

/-- A character that no literal is followed by. -/
def isBareChar (c : Char) : Bool :=
  c != ',' && c != ')'

/-- A comma or a closing parenthesis is no apostrophe. -/
theorem stops_apostrophe_of_bare {rest : List Char} (h : Stops isBareChar rest) :
    Stops (· == apostrophe) rest :=
  h.mono fun c hc => by
    obtain rfl : c = apostrophe := by simpa using hc
    decide

/-- A string in apostrophes, or a text without commas and closing parentheses that does not start
with an apostrophe. -/
inductive IsLiteral : String → Prop
  | string (text : String) : IsLiteral (sqlString text)
  | bare {text : String} (closed : ∀ c ∈ text.toList, isBareChar c = true)
      (unquoted : Stops (· == apostrophe) text.toList) : IsLiteral text

/-- A string and a bare literal start differently. -/
theorem sqlString_append_ne {text bare : String} {r s : List Char}
    (unquoted : Stops (· == apostrophe) bare.toList) (hs : Stops isBareChar s) :
    (sqlString text).toList ++ r ≠ bare.toList ++ s := by
  intro same
  have quoted : ¬ Stops (· == apostrophe) ((sqlString text).toList ++ r) := by simp [sqlString]
  rw [same] at quoted
  -- an empty bare literal is followed by a comma or a parenthesis, any other one has its own start
  cases hbare : bare.toList with
  | nil => exact quoted (by simpa [hbare] using stops_apostrophe_of_bare hs)
  | cons c rest =>
    rw [hbare] at unquoted quoted
    exact quoted (by simpa using unquoted)

/-- A literal, before a comma, a closing parenthesis or nothing. -/
theorem selfDelimiting_literal : SelfDelimiting String.toList IsLiteral (Stops isBareChar) := by
  intro a b r s ha hb hr hs same
  cases ha with
  | string text =>
    cases hb with
    | string other =>
      obtain ⟨rfl, hrest⟩ := selfDelimiting_sqlString trivial trivial (stops_apostrophe_of_bare hr)
        (stops_apostrophe_of_bare hs) same
      exact ⟨rfl, hrest⟩
    | bare _ unquoted => exact absurd same (sqlString_append_ne unquoted hs)
  | bare closed unquoted =>
    cases hb with
    | string other => exact absurd same.symm (sqlString_append_ne unquoted hr)
    | bare closed' _ => exact SelfDelimiting.word isBareChar closed closed' hr hs same

/-! ## Default values -/

/-- Digits, letters and marks that are no comma, no closing parenthesis and no apostrophe. -/
def isNumeral (c : Char) : Bool :=
  isBareChar c && c != apostrophe

theorem IsLiteral.numeral {text : String} (h : ∀ c ∈ text.toList, isNumeral c = true) :
    IsLiteral text := by
  simp only [isNumeral, Bool.and_eq_true] at h
  refine .bare (fun c hc => (h c hc).1) fun c hc => ?_
  simpa using (h c (List.mem_of_mem_head? hc)).2

theorem isNumeral_of_isDigit {c : Char} (h : c.isDigit = true) : isNumeral c = true := by
  have comma : c ≠ ',' := ne_of_test h (by decide)
  have parenthesis : c ≠ ')' := ne_of_test h (by decide)
  have mark : c ≠ apostrophe := ne_of_test h (by decide)
  simp [isNumeral, isBareChar, comma, parenthesis, mark]

theorem isNumeral_toString_nat (n : Nat) : ∀ c ∈ (toString n).toList, isNumeral c = true := by
  intro c hc
  rw [Nat.toString_eq_repr, Nat.toList_repr] at hc
  exact isNumeral_of_isDigit (Nat.isDigit_of_mem_toDigits (by decide) (by decide) hc)

theorem isNumeral_toString_int (n : Int) : ∀ c ∈ (toString n).toList, isNumeral c = true := by
  cases n with
  | ofNat n => exact isNumeral_toString_nat n
  | negSucc n =>
    show ∀ c ∈ ("-" ++ toString (n + 1)).toList, isNumeral c = true
    rw [String.toList_append, List.forall_mem_append]
    exact ⟨List.all_eq_true.mp (by decide), isNumeral_toString_nat (n + 1)⟩

theorem isNumeral_of_isMark {c : Char} (h : Decimal.isMark c = true) : isNumeral c = true := by
  simp only [Decimal.isMark, Bool.or_eq_true, beq_iff_eq] at h
  rcases h with (((h | rfl) | rfl) | rfl) | rfl
  · exact isNumeral_of_isDigit h
  all_goals decide

theorem isNumeral_decimal (magnitude : Decimal) : ∀ c ∈ magnitude.text.toList, isNumeral c = true := by
  intro c hc
  have unsigned := magnitude.unsigned
  cases hcs : magnitude.text.toList with
  | nil => simp [hcs] at hc
  | cons d rest =>
    rw [hcs, Decimal.isUnsigned, Bool.and_eq_true, List.all_eq_true] at unsigned
    rw [hcs] at hc
    rcases List.mem_cons.mp hc with rfl | hc
    · exact isNumeral_of_isDigit unsigned.1
    · exact isNumeral_of_isMark (unsigned.2 c hc)

theorem isNumeral_binary64 (x : Binary64) : ∀ c ∈ x.text.toList, isNumeral c = true := by
  have signed : ∀ negative, ∀ c ∈ (Binary64.sign negative).toList, isNumeral c = true := by
    intro negative
    cases negative <;> exact List.all_eq_true.mp (by decide)
  cases x with
  | nan => exact List.all_eq_true.mp (by decide)
  | infinite negative =>
    rw [Binary64.text, String.toList_append, List.forall_mem_append]
    exact ⟨signed negative, List.all_eq_true.mp (by decide)⟩
  | finite negative magnitude =>
    rw [Binary64.text, String.toList_append, List.forall_mem_append]
    exact ⟨signed negative, isNumeral_decimal magnitude⟩

theorem isBareChar_hexDigits (width n : Nat) : ∀ c ∈ hexDigits width n, isBareChar c = true := by
  have digit : ∀ k < 16, isBareChar (Nat.digitChar k) = true := by decide
  induction width generalizing n with
  | zero => simp [hexDigits]
  | succ width ih =>
    rw [hexDigits, List.forall_mem_append, List.forall_mem_singleton]
    exact ⟨ih (n / 16), digit _ (Nat.mod_lt n (by decide))⟩

/-- Bytes in hexadecimal are a literal: their apostrophes stand behind a letter. -/
theorem IsLiteral.hex (bytes : List UInt8) : IsLiteral ("X'" ++ hexText bytes ++ "'") := by
  refine .bare ?_ ?_
  · simp only [String.toList_append, List.forall_mem_append, hexText, String.toList_ofList,
      List.forall_mem_flatMap]
    exact ⟨⟨List.all_eq_true.mp (by decide), fun byte _ => isBareChar_hexDigits 2 byte.toNat⟩,
      List.all_eq_true.mp (by decide)⟩
  · simp [apostrophe]

/-- Every default value is written as a literal. -/
theorem isLiteral_sqlLiteral (value : Value) : IsLiteral value.sqlLiteral := by
  cases value with
  | bool b => cases b <;> exact .numeral (List.all_eq_true.mp (by decide))
  | int n => exact .numeral (isNumeral_toString_int n)
  | float x => exact .numeral (isNumeral_binary64 x)
  | bytes content | buffer content => exact .hex content
  | _ => exact .string _

end TableModel
