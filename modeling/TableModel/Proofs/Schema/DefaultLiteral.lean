/-
# TableModel.Proofs.Schema.DefaultLiteral — the literal of a default value is read back

A default value stands as a literal inside the statement that creates its table, and it may hold
anything: commas, parentheses, apostrophes, a whole constraint. Here literals are read by the rules of
SQL. An apostrophe opens a string, inside which two apostrophes stand for one and a lone one is the
end; a text that nothing closes is no string. Bytes are the letter `X` and a string of hexadecimal
digits. A minus sign or a digit starts an integer.

What is written is read back, and the reading stops where the literal ends, so nothing that a value
holds gets out of its literal. Different values may have one literal, as null and the text `None` do.
Among plain texts, truth values, integers and byte strings they do not, because the literal tells
the value.
-/
import Mathlib
import TableModel.Proofs.Schema.Literal

namespace TableModel

open Text

/-! ## Strings -/

/-- The characters of a string up to the apostrophe that closes it, and what follows. -/
def closeString? : List Char → Option (List Char × List Char)
  | [] => none
  | c :: rest =>
    if c = apostrophe then
      match rest with
      | [] => some ([], [])
      | d :: behind =>
        if d = apostrophe then (closeString? behind).map (Prod.map (c :: ·) id) else some ([], rest)
    else (closeString? rest).map (Prod.map (c :: ·) id)

/-- The text of a string at the beginning, and what follows it. -/
def readString? : List Char → Option (String × List Char)
  | [] => none
  | c :: rest =>
    if c = apostrophe then (closeString? rest).map (Prod.map String.ofList id) else none

theorem closeString?_cons_of_ne {c : Char} (h : c ≠ apostrophe) (rest : List Char) :
    closeString? (c :: rest) = (closeString? rest).map (Prod.map (c :: ·) id) := by
  rw [closeString?.eq_def]
  exact if_neg h

theorem closeString?_doubled_cons (rest : List Char) :
    closeString? (apostrophe :: apostrophe :: rest)
      = (closeString? rest).map (Prod.map (apostrophe :: ·) id) := by
  rw [closeString?.eq_def]
  simp

theorem closeString?_lone {rest : List Char} (h : Stops (· == apostrophe) rest) :
    closeString? (apostrophe :: rest) = some ([], rest) := by
  cases rest with
  | nil => rfl
  | cons c rest =>
    have other : c ≠ apostrophe := by simpa using h
    simp [closeString?, other]

/-- Doubled apostrophes do not close a string, however many there are, and the lone one behind them
does. -/
theorem closeString?_doubled (cs : List Char) {rest : List Char} (h : Stops (· == apostrophe) rest) :
    closeString? (cs.flatMap doubledApostrophe ++ apostrophe :: rest) = some (cs, rest) := by
  induction cs with
  | nil => exact closeString?_lone h
  | cons c cs ih =>
    rw [List.flatMap_cons, List.append_assoc, doubledApostrophe]
    by_cases mark : c = apostrophe
    · subst mark
      rw [if_pos rfl, List.cons_append, List.singleton_append, closeString?_doubled_cons, ih]
      rfl
    · rw [if_neg mark, List.singleton_append, closeString?_cons_of_ne mark, ih]
      rfl

/-- A text that ends in an apostrophe, behind the one that opens its string and in front of a comma. -/
example : closeString? "(''''', b".toList = some ("(''".toList, ", b".toList) := by
  decide +kernel

/-- A text written as a string is read back, before anything that is no apostrophe. -/
theorem readString?_sqlString (text : String) {rest : List Char} (h : Stops (· == apostrophe) rest) :
    readString? ((sqlString text).toList ++ rest) = some (text, rest) := by
  have opened : (sqlString text).toList ++ rest
      = apostrophe :: (text.toList.flatMap doubledApostrophe ++ apostrophe :: rest) := by
    simp [sqlString]
  rw [opened, readString?, if_pos rfl, closeString?_doubled _ h, Option.map_some, Prod.map_apply,
    String.ofList_toList, id]

/-- The text of a string with nothing behind it. -/
def wholeString? (cs : List Char) : Option String :=
  match readString? cs with
  | some (text, []) => some text
  | _ => none

theorem wholeString?_sqlString (text : String) :
    wholeString? (sqlString text).toList = some text := by
  have read := readString?_sqlString text (stops_nil _)
  rw [List.append_nil] at read
  rw [wholeString?, read]

/-- A text without apostrophes is a string as it stands. -/
theorem sqlString_of_not_mem {text : String} (h : apostrophe ∉ text.toList) :
    sqlString text = "'" ++ text ++ "'" := by
  have single : text.toList.flatMap doubledApostrophe = text.toList := by
    have each : ∀ c ∈ text.toList, doubledApostrophe c = [c] := by
      intro c member
      refine if_neg ?_
      rintro rfl
      exact h member
    rw [List.flatMap_congr each, List.flatMap_singleton']
  rw [sqlString, single, ← String.toList_inj]
  simp [apostrophe]

/-! ## Bytes -/

/-- The number that a hexadecimal digit stands for, in either letter case. -/
def hexValue? (c : Char) : Option Nat :=
  "0123456789abcdef".toList.idxOf? c.toLower

/-- The bytes that hexadecimal digits stand for, two digits a byte. -/
def readHex? : List Char → Option (List UInt8)
  | [] => some []
  | [_] => none
  | c :: d :: rest => do
    let high ← hexValue? c
    let low ← hexValue? d
    let bytes ← readHex? rest
    return UInt8.ofNat (16 * high + low) :: bytes

theorem hexValue?_digitChar : ∀ n < 16, hexValue? (Nat.digitChar n) = some n := by
  decide

/-- The digits of bytes are read back. -/
theorem readHex?_hexText (bytes : List UInt8) : readHex? (hexText bytes).toList = some bytes := by
  rw [hexText, String.toList_ofList]
  induction bytes with
  | nil => rfl
  | cons byte bytes ih =>
    have high := hexValue?_digitChar (byte.toNat / 16 % 16) (Nat.mod_lt _ (by decide))
    have low := hexValue?_digitChar (byte.toNat % 16) (Nat.mod_lt _ (by decide))
    have halves : 16 * (byte.toNat / 16 % 16) + byte.toNat % 16 = byte.toNat := by
      have bound := byte.toNat_lt
      omega
    have digits : (byte :: bytes).flatMap (fun byte => hexDigits 2 byte.toNat)
        = Nat.digitChar (byte.toNat / 16 % 16) :: Nat.digitChar (byte.toNat % 16)
          :: bytes.flatMap fun byte => hexDigits 2 byte.toNat := rfl
    rw [digits, readHex?, high, low, ih]
    show some (UInt8.ofNat (16 * (byte.toNat / 16 % 16) + byte.toNat % 16) :: bytes) = _
    rw [halves, UInt8.ofNat_toNat]

theorem apostrophe_not_mem_hexText (bytes : List UInt8) : apostrophe ∉ (hexText bytes).toList := by
  have digit : ∀ n < 16, Nat.digitChar n ≠ apostrophe := by decide
  rw [hexText, String.toList_ofList, List.mem_flatMap]
  rintro ⟨byte, -, member⟩
  simp only [hexDigits, List.nil_append, List.cons_append, List.mem_cons, List.not_mem_nil,
    or_false] at member
  rcases member with same | same
  · exact digit _ (Nat.mod_lt _ (by decide)) same.symm
  · exact digit _ (Nat.mod_lt _ (by decide)) same.symm

/-! ## Literals -/

/-- The value whose literal a text is, if it is the literal of a text, a truth value, an integer or a
byte string. -/
def readLiteral? (literal : String) : Option Value :=
  match literal.toList with
  | [] => none
  | c :: rest =>
    if c = apostrophe then (wholeString? (c :: rest)).map .text
    else if c = 'X' then
      (wholeString? rest).bind fun digits => (readHex? digits.toList).map .bytes
    else if c.isDigit || c = '-' then literal.toInt?.map .int
    else if literal = "true" then some (.bool true)
    else if literal = "false" then some (.bool false)
    else none

namespace Value

/-- Values that are written as strings: all but truth values, numbers and bytes. -/
def IsQuoted : Value → Prop
  | .bool _ | .int _ | .float _ | .bytes _ | .buffer _ => False
  | _ => True

/-- Plain texts, truth values, integers and byte strings. -/
inductive IsPlain : Value → Prop
  | text (text : String) : IsPlain (.text text)
  | bool (truth : Bool) : IsPlain (.bool truth)
  | int (n : Int) : IsPlain (.int n)
  | bytes (content : List UInt8) : IsPlain (.bytes content)

theorem IsQuoted.sqlLiteral {value : Value} (quoted : value.IsQuoted) :
    value.sqlLiteral = sqlString value.shown := by
  cases value with
  | bool | int | float | bytes | buffer => exact quoted.elim
  | _ => rfl

theorem sqlLiteral_bytes (content : List UInt8) :
    (Value.bytes content).sqlLiteral = "X" ++ sqlString (hexText content) := by
  rw [sqlString_of_not_mem (apostrophe_not_mem_hexText content), ← String.append_assoc,
    ← String.append_assoc]
  rfl

/-- The literal of an integer starts with a digit or with a minus sign. -/
theorem sqlLiteral_int_cons (n : Int) :
    ∃ c rest, (Value.int n).sqlLiteral.toList = c :: rest ∧ (c.isDigit || c = '-') = true := by
  cases n with
  | ofNat n =>
    have split : (Value.int (.ofNat n)).sqlLiteral.toList = Nat.toDigits 10 n := Nat.toList_repr
    cases digits : Nat.toDigits 10 n with
    | nil => exact absurd digits Nat.toDigits_ne_nil
    | cons c rest =>
      have member : c ∈ Nat.toDigits 10 n := by rw [digits]; exact List.mem_cons_self
      have digit := Nat.isDigit_of_mem_toDigits (by decide) (by decide) member
      exact ⟨c, rest, split.trans digits, by rw [digit, Bool.true_or]⟩
  | negSucc n =>
    have sign : (Value.int (.negSucc n)).sqlLiteral = "-" ++ toString (n + 1) := rfl
    exact ⟨'-', (toString (n + 1)).toList, by rw [sign, String.toList_append]; rfl, by decide⟩

/-- A plain value is read back from its literal. -/
theorem IsPlain.readLiteral?_sqlLiteral {value : Value} (plain : value.IsPlain) :
    readLiteral? value.sqlLiteral = some value := by
  cases plain with
  | text text =>
    have split : (Value.text text).sqlLiteral.toList
        = apostrophe :: (text.toList.flatMap doubledApostrophe ++ [apostrophe]) :=
      String.toList_ofList
    have whole : wholeString? (Value.text text).sqlLiteral.toList = some text :=
      wholeString?_sqlString text
    rw [split] at whole
    simp only [readLiteral?, split, if_pos, whole, Option.map_some]
  | bool truth => cases truth <;> rfl
  | int n =>
    obtain ⟨c, rest, split, starts⟩ := sqlLiteral_int_cons n
    have noMark : c ≠ apostrophe := by
      rintro rfl
      revert starts
      decide
    have noLetter : c ≠ 'X' := by
      rintro rfl
      revert starts
      decide
    have number : (Value.int n).sqlLiteral.toInt? = some n := Int.toInt?_repr n
    rw [readLiteral?, split]
    simp only [if_neg noMark, if_neg noLetter, if_pos starts, number, Option.map_some]
  | bytes content =>
    have split : (Value.bytes content).sqlLiteral.toList
        = 'X' :: (sqlString (hexText content)).toList := by
      rw [sqlLiteral_bytes, String.toList_append]
      rfl
    have other : 'X' ≠ apostrophe := by decide
    simp only [readLiteral?, split, if_neg other, if_pos, wholeString?_sqlString, Option.bind_some,
      readHex?_hexText, Option.map_some]

/-- What a literal says about its value. -/
structure ReadsBack (value : Value) : Prop where
  /-- A string ends where it should, before anything that is no apostrophe, and has the text that the
  value shows. -/
  quoted : value.IsQuoted → ∀ rest : List Char, Stops (· == apostrophe) rest →
    readString? (value.sqlLiteral.toList ++ rest) = some (value.shown, rest)
  /-- Bytes are in hexadecimal, with the letter and the apostrophes around them. -/
  bytes : ∀ content, value = .bytes content ∨ value = .buffer content →
    ∃ digits, value.sqlLiteral = "X'" ++ digits ++ "'" ∧ readHex? digits.toList = some content
  int : ∀ n, value = .int n → value.sqlLiteral.toInt? = some n
  /-- No other plain value has the literal of a plain value. -/
  plain : value.IsPlain → ∀ other : Value, other.IsPlain → value.sqlLiteral = other.sqlLiteral →
    value = other

/-- The literal of every value is read back. -/
theorem readsBack_sqlLiteral (value : Value) : value.ReadsBack where
  quoted := by
    intro quoted rest ends
    rw [quoted.sqlLiteral]
    exact readString?_sqlString value.shown ends
  bytes := by
    rintro content (rfl | rfl)
    · exact ⟨hexText content, rfl, readHex?_hexText content⟩
    · exact ⟨hexText content, rfl, readHex?_hexText content⟩
  int := by
    rintro n rfl
    exact Int.toInt?_repr n
  plain := by
    intro plain other otherPlain same
    have read := plain.readLiteral?_sqlLiteral
    rw [same, otherPlain.readLiteral?_sqlLiteral] at read
    exact (Option.some.inj read).symm

end Value

end TableModel
