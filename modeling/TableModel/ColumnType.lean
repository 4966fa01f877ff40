/-
# TableModel.ColumnType — the five types of a column and the spellings that name them

A column is an integer, a text, a real number, a blob or a boolean. A definition may name a type by
any of fourteen words in any letter case and with blanks around it; `ofSpelling?` folds a spelling
into its type once, and everything after that sees the type alone.
-/
import TableModel.Text.Blank
import TableModel.Text.Case

namespace TableModel

/-- The types of columns. -/
inductive ColumnType where
  | integer
  | text
  | real
  | blob
  | boolean
  deriving DecidableEq, Repr, Inhabited

namespace ColumnType

/-- The word that stands for the type in SQL. -/
def word : ColumnType → String
  | .integer => "integer"
  | .text => "text"
  | .real => "real"
  | .blob => "blob"
  | .boolean => "boolean"

/-- The name of the type among the members of its enumeration. -/
def name : ColumnType → String
  | .integer => "INTEGER"
  | .text => "TEXT"
  | .real => "REAL"
  | .blob => "BLOB"
  | .boolean => "BOOLEAN"

/-- All types, in the order of their definition. -/
def all : List ColumnType := [.integer, .text, .real, .blob, .boolean]

theorem mem_all (type : ColumnType) : type ∈ all := by
  cases type <;> simp [all]

/-- The type with the given name. -/
def ofName? (name : String) : Option ColumnType :=
  all.find? (·.name == name)

@[simp] theorem ofName?_name (type : ColumnType) : ofName? type.name = some type := by
  cases type <;> decide

/-- The words that name a type, each with its type. -/
def aliases : List (String × ColumnType) :=
  [("integer", .integer), ("int", .integer),
   ("text", .text), ("string", .text), ("varchar", .text), ("char", .text),
   ("real", .real), ("number", .real), ("numeric", .real), ("float", .real), ("double", .real),
   ("blob", .blob),
   ("boolean", .boolean), ("bool", .boolean)]

/-- The type that a spelling names: blanks around the word and the case of its letters do not
matter. -/
def ofSpelling? (spelling : String) : Option ColumnType :=
  aliases.lookup (Text.lower (Text.strip spelling))

/-- Two types with one word are one type. -/
theorem word_inj {a b : ColumnType} : a.word = b.word ↔ a = b := by
  cases a <;> cases b <;> simp [word]

end ColumnType

end TableModel
