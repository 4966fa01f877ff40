/-
# TableModel.Text.Quoted — quoted literals of texts and of byte strings

A literal stands in a pair of quotation marks. The mark is the apostrophe, except that a text with
an apostrophe and without a double quote is enclosed in double quotes. Inside, the enclosing mark
and the backslash follow a backslash, line feed, carriage return and tab have their letters, and
every other unprintable character is written by its code in hexadecimal, in the shortest of the
forms `\xhh`, `\uhhhh` and `\Uhhhhhhhh` that can hold it.

Bytes follow the same rule with printable ASCII for the printable characters. A byte buffer chooses
its mark the same way, but escapes every apostrophe, whichever mark encloses it.
-/
import TableModel.Text.Printable

namespace TableModel.Text

/-! ## Hexadecimal digits -/

/-- The last `width` hexadecimal digits of a number, in lower case. -/
def hexDigits : (width : Nat) → Nat → List Char
  | 0, _ => []
  | width + 1, n => hexDigits width (n / 16) ++ [Nat.digitChar (n % 16)]

/-- A digit for every place. -/
@[simp] theorem length_hexDigits (width n : Nat) : (hexDigits width n).length = width := by
  induction width generalizing n with
  | zero => rfl
  | succ width ih => simp [hexDigits, ih]

/-- The bytes in hexadecimal, two digits a byte. -/
def hexText (bytes : List UInt8) : String :=
  String.ofList (bytes.flatMap fun byte => hexDigits 2 byte.toNat)

/-! ## The enclosing mark -/

/-- The apostrophe, which is the usual quotation mark. -/
def apostrophe : Char := '\x27'

/-- The double quote, which encloses a text that holds an apostrophe and no double quote. -/
def doubleQuote : Char := '"'

/-- The mark that encloses the literal of these characters. -/
def enclosingMark (cs : List Char) : Char :=
  if cs.contains apostrophe && !cs.contains doubleQuote then doubleQuote else apostrophe

/-- A double quote encloses only a text without one. -/
theorem enclosingMark_eq_doubleQuote {cs : List Char} :
    enclosingMark cs = doubleQuote ↔ apostrophe ∈ cs ∧ doubleQuote ∉ cs := by
  unfold enclosingMark
  split <;> simp_all [apostrophe, doubleQuote]

/-! ## Texts -/

/-- The escape of a character that has a letter of its own. -/
def letterEscape? (c : Char) : Option Char :=
  match c with
  | '\n' => some 'n'
  | '\r' => some 'r'
  | '\t' => some 't'
  | _ => none

/-- A character by its code, in the shortest form that holds it. -/
def codeEscape (c : Char) : List Char :=
  if c.toNat ≤ 0xff then '\\' :: 'x' :: hexDigits 2 c.toNat
  else if c.toNat ≤ 0xffff then '\\' :: 'u' :: hexDigits 4 c.toNat
  else '\\' :: 'U' :: hexDigits 8 c.toNat

/-- A character as it stands in the literal of a text enclosed in `mark`. -/
def escapeChar (mark c : Char) : List Char :=
  if c = mark ∨ c = '\\' then ['\\', c]
  else match letterEscape? c with
    | some letter => ['\\', letter]
    | none => if isPrintable c then [c] else codeEscape c

/-- The literal of a text. -/
def quote (text : String) : String :=
  let mark := enclosingMark text.toList
  String.ofList (mark :: (text.toList.flatMap (escapeChar mark) ++ [mark]))

/-! ## Bytes -/

/-- The characters of Latin-1 that stand for bytes; a byte is quoted as its character is. -/
def byteChar (byte : UInt8) : Char :=
  Char.ofNat byte.toNat

/-- A byte as it stands in a literal; `escaped` says which quotation marks need a backslash. -/
def escapeByte (escaped : Char → Bool) (byte : UInt8) : List Char :=
  let c := byteChar byte
  if escaped c ∨ c = '\\' then ['\\', c]
  else match letterEscape? c with
    | some letter => ['\\', letter]
    | none =>
      if 0x20 ≤ byte.toNat ∧ byte.toNat ≤ 0x7e then [c] else '\\' :: 'x' :: hexDigits 2 byte.toNat

/-- The quoted part of the literal of a byte string. -/
def quoteBytes (bytes : List UInt8) : String :=
  let mark := enclosingMark (bytes.map byteChar)
  String.ofList (mark :: (bytes.flatMap (escapeByte (· == mark)) ++ [mark]))

/-- The quoted part of the literal of a byte buffer, in which every apostrophe is escaped. -/
def quoteBuffer (bytes : List UInt8) : String :=
  let mark := enclosingMark (bytes.map byteChar)
  String.ofList (mark :: (bytes.flatMap (escapeByte (· == apostrophe)) ++ [mark]))

end TableModel.Text
