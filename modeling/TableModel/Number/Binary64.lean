/-
# TableModel.Number.Binary64 — floating-point numbers, known by their shortest decimals

A finite number is known by the shortest decimal that reads back as it, written positionally
(`2.5`, `100.0`) or with an exponent (`1e+16`, `5e-324`). That text is all a statement or a message
needs, and two finite numbers other than the two zeros are equal exactly when their texts are. A
`Decimal` carries the proof that it is a text of digits and marks, so the text of a number never
holds anything else.

One thing has to be computed: which whole number a floating-point number is, if any, since as a key
it is the same as that integer. A decimal below 10^16 with a zero fraction is exact. A larger one
stands for the nearest number with 53 significant bits.
-/

namespace TableModel

namespace Decimal

/-- Whether a character may stand in a decimal. -/
def isMark (c : Char) : Bool :=
  c.isDigit || c == '.' || c == 'e' || c == '+' || c == '-'

/-- Whether characters make a decimal without a sign: a digit, then digits and marks. -/
def isUnsigned : List Char → Bool
  | [] => false
  | c :: rest => c.isDigit && rest.all isMark

end Decimal

/-- A decimal without a sign. -/
structure Decimal where
  text : String
  unsigned : Decimal.isUnsigned text.toList = true
  deriving DecidableEq, Repr

/-- A floating-point number of 64 bits. -/
inductive Binary64 where
  | nan
  | infinite (negative : Bool)
  | finite (negative : Bool) (magnitude : Decimal)
  deriving DecidableEq, Repr, Inhabited

namespace Binary64

/-! ## Text -/

/-- The sign of a negative number. -/
def sign (negative : Bool) : String :=
  if negative then "-" else ""

/-- The text of a number. -/
def text : Binary64 → String
  | .nan => "nan"
  | .infinite negative => sign negative ++ "inf"
  | .finite negative magnitude => sign negative ++ magnitude.text

/-- The number without its sign, from its characters; what is neither infinite nor a decimal is not
a number. -/
def ofMagnitude (negative : Bool) (cs : List Char) : Binary64 :=
  if cs = ['i', 'n', 'f'] then .infinite negative
  else if h : Decimal.isUnsigned cs = true then
    .finite negative ⟨String.ofList cs, by rwa [String.toList_ofList]⟩
  else .nan

/-- The number that a text stands for. -/
def ofText (text : String) : Binary64 :=
  match text.toList with
  | '-' :: cs => ofMagnitude true cs
  | cs => ofMagnitude false cs

/-! ## Tests -/

/-- Whether the number is one of the two zeros. -/
def isZero : Binary64 → Bool
  | .finite _ magnitude => magnitude.text == "0.0"
  | _ => false

/-- Whether the number is neither infinite nor the not-a-number. -/
def isFinite : Binary64 → Bool
  | .finite .. => true
  | _ => false

/-! ## Whole numbers -/

/-- The number of significant bits. -/
def precision : Nat := 53

/-- The nearest number with at most 53 significant bits; of two equally near ones, the even one. -/
def nearest (n : Nat) : Nat :=
  if n < 1 <<< precision then n
  else
    let unit := 1 <<< (n.log2 + 1 - precision)
    let low := n / unit
    let rest := n % unit
    if 2 * rest < unit then low * unit
    else if unit < 2 * rest then (low + 1) * unit
    else (low + low % 2) * unit

/-- The number that decimal digits stand for. -/
def ofDigits (cs : List Char) : Nat :=
  cs.foldl (fun n c => 10 * n + (c.toNat - 48)) 0

/-- The whole number that an unsigned decimal stands for, if it stands for one: a positional decimal
with a zero fraction, or one with a positive exponent, which has no digit after the point. -/
def wholeMagnitude? (magnitude : String) : Option Nat :=
  let (mantissa, power) := magnitude.toList.span (· != 'e')
  let (whole, rest) := mantissa.span (· != '.')
  let fraction := rest.drop 1
  match power with
  | [] => if fraction.all (· == '0') then some (ofDigits whole) else none
  | _ :: '+' :: digits =>
    let zeros := List.replicate (ofDigits digits - fraction.length) '0'
    some (nearest (ofDigits (whole ++ fraction ++ zeros)))
  | _ => none

/-- The whole number that a floating-point number is, if it is one. -/
def whole? : Binary64 → Option Int
  | .finite negative magnitude =>
    (wholeMagnitude? magnitude.text).map fun n => if negative then -(n : Int) else n
  | _ => none

end Binary64

end TableModel
