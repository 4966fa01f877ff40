/-
# TableModel.Label — values that are text

Three sorts of values are text: plain strings, column types and statement kinds. All of them have a
*content*, which is what equality, order and joined lists of names see. Put into a sentence or a
clause, a label shows its content too, except that a statement kind shows its full name. A third
rendering is the literal, as a value stands inside a list or a message that quotes it.
-/
import TableModel.ColumnType
import TableModel.StatementKind
import TableModel.Text.Quoted

namespace TableModel

/-- A value that is text. -/
inductive Label where
  | plain (text : String)
  | columnType (type : ColumnType)
  | statementKind (kind : StatementKind)
  deriving DecidableEq, Repr, Inhabited

namespace Label

/-- The text that a label is. -/
def content : Label → String
  | .plain text => text
  | .columnType type => type.word
  | .statementKind kind => kind.keyword

/-- The text that a label shows when it is put into another text. -/
def shown : Label → String
  | .plain text => text
  | .columnType type => type.word
  | .statementKind kind => "QueryType." ++ kind.name

/-- The label as a quoted literal. -/
def literal : Label → String
  | .plain text => Text.quote text
  | .columnType type => "<DataType." ++ type.name ++ ": " ++ Text.quote type.word ++ ">"
  | .statementKind kind => "<QueryType." ++ kind.name ++ ": " ++ Text.quote kind.keyword ++ ">"

/-- Whether two labels are the same text. -/
def same (a b : Label) : Bool :=
  a.content == b.content

@[simp] theorem content_plain (text : String) : (plain text).content = text := rfl

@[simp] theorem shown_plain (text : String) : (plain text).shown = text := rfl

@[simp] theorem same_iff {a b : Label} : a.same b = true ↔ a.content = b.content := by
  simp [same]

/-- Whether the label has no characters. -/
def isEmpty (label : Label) : Bool :=
  label.content.isEmpty

end Label

end TableModel
