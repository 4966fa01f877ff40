/-
# TableModel.StatementKind — the six kinds of statements and how a request names them

A kind has a keyword, which opens its SQL text (`INSERT or REPLACE`), and a name of one word
(`INSERT_OR_REPLACE`). A request may give either of them in any letter case; letters are compared in
full upper case.
-/
import TableModel.Text.Case

namespace TableModel

/-- The kinds of statements. -/
inductive StatementKind where
  | select
  | insert
  | insertOrReplace
  | update
  | delete
  | upsert
  deriving DecidableEq, Repr, Inhabited

namespace StatementKind

/-- The keyword of the kind. -/
def keyword : StatementKind → String
  | .select => "SELECT"
  | .insert => "INSERT"
  | .insertOrReplace => "INSERT or REPLACE"
  | .update => "UPDATE"
  | .delete => "DELETE"
  | .upsert => "UPSERT"

/-- The name of the kind among the members of its enumeration. -/
def name : StatementKind → String
  | .select => "SELECT"
  | .insert => "INSERT"
  | .insertOrReplace => "INSERT_OR_REPLACE"
  | .update => "UPDATE"
  | .delete => "DELETE"
  | .upsert => "UPSERT"

/-- All kinds, in the order of their definition. -/
def all : List StatementKind := [.select, .insert, .insertOrReplace, .update, .delete, .upsert]

theorem mem_all (kind : StatementKind) : kind ∈ all := by
  cases kind <;> simp [all]

/-- The kind with the given name. -/
def ofName? (name : String) : Option StatementKind :=
  all.find? (·.name == name)

@[simp] theorem ofName?_name (kind : StatementKind) : ofName? kind.name = some kind := by
  cases kind <;> decide

/-- The kind that a text names, by its keyword or its name. -/
def ofSpelling? (spelling : String) : Option StatementKind :=
  let word := Text.upper spelling
  all.find? fun kind => Text.upper kind.keyword == word || kind.name == word

end StatementKind

end TableModel
