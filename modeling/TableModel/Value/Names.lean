/-
# TableModel.Value.Names — values that name columns, and keys that nobody knows

Primary keys and conflict targets are given as one name or as a list of names; `names?` reads both.
Records and bundles given as mappings may hold known keys only; `unknownKeys` finds the others, and
`sortedContents?` puts them into order for a message, which works only when all of them are text.
-/
import TableModel.Value.Literal
import TableModel.Value.Key

namespace TableModel

namespace Label

/-- Whether a label is among others, by content. -/
def isIn (name : Label) (names : List Label) : Bool :=
  names.any fun other => other.same name

theorem isIn_iff {name : Label} {names : List Label} :
    name.isIn names = true ↔ ∃ other ∈ names, other.content = name.content := by
  simp [isIn]

/-- Names one after the other, by content. -/
def join (names : List Label) : String :=
  String.intercalate ", " (names.map content)

end Label

namespace Value

/-- The names that a value lists: a name alone, or a list or tuple of at least one name and nothing
else. -/
def names? (value : Value) : Option (List Label) :=
  let items := match value with
    | .label name => some [.label name]
    | other => other.sequence?
  match items with
  | some (item :: rest) => (item :: rest).mapM name?
  | _ => none

/-- The keys of a mapping that are none of the known texts, in their order. -/
def unknownKeys (known : List String) (entries : List (Value × Value)) : List Value :=
  (entries.map Prod.fst).filter fun key => !known.any fun name => key.isText name

/-- The contents of values that are all text, in the order of code points. -/
def sortedContents? (values : List Value) : Option (List String) :=
  (values.mapM label?).map fun names => (names.map Label.content).mergeSort

/-- The shown texts of values, in the order of code points. -/
def sortedShown (values : List Value) : List String :=
  (values.map shown).mergeSort

end Value

end TableModel
