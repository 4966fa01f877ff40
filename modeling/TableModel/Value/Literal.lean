/-
# TableModel.Value.Literal — values as literals and as shown text

The literal of a value is how it stands inside a list, a tuple or a message that quotes it: texts in
quotation marks, records with the names of their fields. Shown text differs from it for labels only,
which show themselves without marks.

An integer is put into text with all of its digits, here and wherever else a value becomes text. A
process may be set to refuse integers of very many digits, as it is set to refuse recursion that goes
very deep; both are limits of the process and its settings, and both are left out.
-/
import TableModel.Value

namespace TableModel

namespace Value

/-- A pair of a field's name and its literal. -/
def fieldLiteral (field contents : String) : String :=
  field ++ "=" ++ contents

/-- A record by its name and its fields. -/
def recordLiteral (name : String) (fields : List String) : String :=
  name ++ "(" ++ String.intercalate ", " fields ++ ")"

/-- A tuple by its items: one item alone is followed by a comma. -/
def tupleLiteral : List String → String
  | [item] => "(" ++ item ++ ",)"
  | items => "(" ++ String.intercalate ", " items ++ ")"

mutual

/-- The literal of a value. -/
def literal : Value → String
  | .null => "None"
  | .bool b => if b then "True" else "False"
  | .int n => toString n
  | .float x => x.text
  | .label name => name.literal
  | .bytes content => "b" ++ Text.quoteBytes content
  | .buffer content => "bytearray(b" ++ Text.quoteBuffer content ++ ")"
  | .list items => "[" ++ String.intercalate ", " (literals items) ++ "]"
  | .tuple items => tupleLiteral (literals items)
  | .map entries => "\x7b" ++ String.intercalate ", " (entryLiterals entries) ++ "\x7d"
  | .ordering c d n => recordLiteral "OrderBy"
      [fieldLiteral "column" c.literal, fieldLiteral "descending" d.literal,
       fieldLiteral "null_last" n.literal]
  | .descriptor t p n u a d => recordLiteral "ModelColumn"
      [fieldLiteral "type" t.literal, fieldLiteral "primary_key" p.literal,
       fieldLiteral "not_null" n.literal, fieldLiteral "unique" u.literal,
       fieldLiteral "auto_increment" a.literal, fieldLiteral "default_value" d.literal]
  | .tableOptions t p a u w => recordLiteral "ModelOptions"
      [fieldLiteral "table_name" t.literal, fieldLiteral "primary_keys" p.literal,
       fieldLiteral "auto_increment" a.literal, fieldLiteral "unique_keys" u.literal,
       fieldLiteral "without_rowid" w.literal]
  | .clauses f d u l o b => recordLiteral "GenerateQueryOptions"
      [fieldLiteral "where" f.literal, fieldLiteral "data" d.literal,
       fieldLiteral "upsert_only_update_data" u.literal, fieldLiteral "limit" l.literal,
       fieldLiteral "offset" o.literal, fieldLiteral "order_by" b.literal]

/-- The literals of values, in their order. -/
def literals : List Value → List String
  | [] => []
  | value :: rest => value.literal :: literals rest

/-- The literals of the entries of a mapping, in their order. -/
def entryLiterals : List (Value × Value) → List String
  | [] => []
  | (key, value) :: rest => (key.literal ++ ": " ++ value.literal) :: entryLiterals rest

end

/-- The text that a value shows when it is put into another text. -/
def shown : Value → String
  | .label name => name.shown
  | value => value.literal

@[simp] theorem shown_text (s : String) : (text s).shown = s := rfl

theorem literals_eq_map (values : List Value) : literals values = values.map literal := by
  induction values with
  | nil => rfl
  | cons value rest ih => simp [literals, ih]

/-- A tuple of labels as a literal. -/
def labelsLiteral (labels : List Label) : String :=
  tupleLiteral (labels.map Label.literal)

end Value

end TableModel
