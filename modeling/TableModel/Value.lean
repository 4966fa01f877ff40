/-
# TableModel.Value — the values that definitions, requests and rows are made of

Table definitions, statement requests and rows arrive as dynamic values: a request may put anything
anywhere, and which value is acceptable where is decided by the rules of the schema and of the
statements. Besides plain data there are four records, which describe an ordering term, a column, a
table's options and a bundle of clauses; a record is not a mapping, and its fields hold any values.

A mapping is a list of entries in its order; `Value.ofEntries` (module `Value.Key`) builds one with
every key once.
-/
import TableModel.Label
import TableModel.Number.Binary64

namespace TableModel

/-- A dynamic value. -/
inductive Value where
  | null
  | bool (truth : Bool)
  | int (n : Int)
  | float (x : Binary64)
  | label (name : Label)
  | bytes (content : List UInt8)
  | buffer (content : List UInt8)
  | list (items : List Value)
  | tuple (items : List Value)
  | map (entries : List (Value × Value))
  | ordering (column descending nullsLast : Value)
  | descriptor (type primaryKey notNull unique autoIncrement defaultValue : Value)
  | tableOptions (tableName primaryKeys autoIncrement uniqueKeys withoutRowid : Value)
  | clauses (filter data updates limit offset orderBy : Value)
  deriving Repr, Inhabited

namespace Value

/-- A plain text. -/
@[match_pattern] def text (s : String) : Value := .label (.plain s)

/-! ## Truth -/

/-- Whether a value counts as true: all do but null, false, the zeros and everything empty. -/
def truth : Value → Bool
  | .null => false
  | .bool b => b
  | .int n => n != 0
  | .float x => !x.isZero
  | .label name => !name.isEmpty
  | .bytes content => !content.isEmpty
  | .buffer content => !content.isEmpty
  | .list items => !items.isEmpty
  | .tuple items => !items.isEmpty
  | .map entries => !entries.isEmpty
  | .ordering .. | .descriptor .. | .tableOptions .. | .clauses .. => true

/-! ## Views -/

/-- The value, unless it is null. -/
def present? : Value → Option Value
  | .null => none
  | value => some value

/-- The label that a text value is. -/
def label? : Value → Option Label
  | .label name => some name
  | _ => none

/-- The label that a text value is, if it has characters. -/
def name? (value : Value) : Option Label :=
  value.label?.filter fun name => !name.isEmpty

/-- The items of a list or tuple. -/
def sequence? : Value → Option (List Value)
  | .list items => some items
  | .tuple items => some items
  | _ => none

/-- The entries of a mapping. -/
def entries? : Value → Option (List (Value × Value))
  | .map entries => some entries
  | _ => none

/-- The number that a value counts: an integer that is not negative. A truth value counts nothing. -/
def count? : Value → Option Nat
  | .int (.ofNat n) => some n
  | _ => none

/-- What iterating over a value yields: the items of a list or tuple, the keys of a mapping, the
characters of a text, the numbers of bytes; other values cannot be iterated over. -/
def items? : Value → Option (List Value)
  | .list items => some items
  | .tuple items => some items
  | .map entries => some (entries.map Prod.fst)
  | .label name => some (name.content.toList.map fun c => .text (String.singleton c))
  | .bytes content => some (content.map fun byte => .int byte.toNat)
  | .buffer content => some (content.map fun byte => .int byte.toNat)
  | _ => none

@[simp] theorem label?_eq_some {value : Value} {l : Label} :
    value.label? = some l ↔ value = .label l := by
  cases value <;> simp [label?]

@[simp] theorem entries?_eq_some {value : Value} {es : List (Value × Value)} :
    value.entries? = some es ↔ value = .map es := by
  cases value <;> simp [entries?]

/-- A name is a label with characters. -/
theorem name?_eq_some {value : Value} {l : Label} :
    value.name? = some l ↔ value = .label l ∧ l.isEmpty = false := by
  unfold name?
  rw [Option.filter_eq_some_iff, label?_eq_some]
  simp

end Value

end TableModel
