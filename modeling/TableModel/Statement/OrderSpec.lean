/-
# TableModel.Statement.OrderSpec — by which columns rows are ordered

An ordering is a term, which names a column and may turn its direction or put nulls last, or a group
of orderings, as deep as one likes. A term is given by a column's name alone, by a record, or by a
mapping with at least a column; further keys of such a mapping are not looked at.
-/
import TableModel.Statement.Error

namespace TableModel

/-- One term of an ordering. -/
structure OrderTerm where
  column : String
  descending : Bool
  nullsLast : Bool
  deriving DecidableEq, Repr, Inhabited

/-- The text of a term. -/
def OrderTerm.text (term : OrderTerm) : String :=
  "\"" ++ term.column ++ "\"" ++ (if term.descending then " DESC" else "")
    ++ (if term.nullsLast then " NULLS LAST" else "")

/-- An ordering: a term or a group of orderings. -/
inductive OrderSpec where
  | term (term : OrderTerm)
  | group (specs : List OrderSpec)
  deriving Repr, Inhabited

namespace OrderSpec

mutual

/-- The text of an ordering: the texts of a group's members, separated by commas. -/
def text : OrderSpec → String
  | .term t => t.text
  | .group specs => String.intercalate ", " (texts specs)

/-- The texts of orderings. -/
def texts : List OrderSpec → List String
  | [] => []
  | spec :: rest => spec.text :: texts rest

end

mutual

/-- The terms of an ordering, from left to right. -/
def terms : OrderSpec → List OrderTerm
  | .term t => [t]
  | .group specs => allTerms specs

/-- The terms of orderings, from left to right. -/
def allTerms : List OrderSpec → List OrderTerm
  | [] => []
  | spec :: rest => spec.terms ++ allTerms rest

end

mutual

/-- The ordering that a value describes. -/
def ofValue : Value → Except StatementError OrderSpec
  | .list items => (ofValues items).map .group
  | .tuple items => (ofValues items).map .group
  | .label name => .ok (.term ⟨name.shown, false, false⟩)
  | .ordering column descending nullsLast =>
    .ok (.term ⟨column.shown, descending.truth, nullsLast.truth⟩)
  | .map entries =>
    match Value.field? "column" entries with
    | some column => .ok (.term ⟨column.shown, (Value.field "descending" entries).truth,
        (Value.field "null_last" entries).truth⟩)
    | none => .error .orderWithoutColumn
  | _ => .error .orderShape

/-- The orderings that values describe. -/
def ofValues : List Value → Except StatementError (List OrderSpec)
  | [] => .ok []
  | value :: rest => do
    let spec ← ofValue value
    let specs ← ofValues rest
    return spec :: specs

end

end OrderSpec

end TableModel
