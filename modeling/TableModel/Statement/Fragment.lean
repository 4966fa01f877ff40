/-
# TableModel.Statement.Fragment — text with slots for values

A statement is text in which some places stand for values. It is built as a list of fragments, each
a piece of text or a slot with the value that belongs there. The text of a list shows every slot as
a question mark, and its bindings are the values of the slots from left to right; so a slot and its
value cannot come apart.
-/
import TableModel.Value

namespace TableModel

/-- A piece of a statement. -/
inductive Fragment where
  | text (piece : String)
  | slot (value : Value)
  deriving Repr, Inhabited

namespace Fragment

/-- What a fragment shows. -/
def shown : Fragment → String
  | .text piece => piece
  | .slot _ => "?"

/-- The value of a slot. -/
def value? : Fragment → Option Value
  | .text _ => none
  | .slot value => some value

/-- The text of fragments. -/
def render : List Fragment → String
  | [] => ""
  | fragment :: rest => fragment.shown ++ render rest

/-- The values of the slots, from left to right. -/
def bindings (fragments : List Fragment) : List Value :=
  fragments.filterMap value?

/-- Fragments one after the other with a text between each two. -/
def separated (separator : String) (parts : List (List Fragment)) : List Fragment :=
  [.text separator].intercalate parts

@[simp] theorem render_nil : render [] = "" := rfl

@[simp] theorem render_cons (fragment : Fragment) (rest : List Fragment) :
    render (fragment :: rest) = fragment.shown ++ render rest := rfl

@[simp] theorem render_append (left right : List Fragment) :
    render (left ++ right) = render left ++ render right := by
  induction left with
  | nil => simp
  | cons fragment rest ih => simp [ih, String.append_assoc]

@[simp] theorem bindings_nil : bindings [] = [] := rfl

@[simp] theorem bindings_text (piece : String) (rest : List Fragment) :
    bindings (.text piece :: rest) = bindings rest := rfl

@[simp] theorem bindings_slot (value : Value) (rest : List Fragment) :
    bindings (.slot value :: rest) = value :: bindings rest := rfl

@[simp] theorem bindings_append (left right : List Fragment) :
    bindings (left ++ right) = bindings left ++ bindings right := by
  simp [bindings]

end Fragment

end TableModel
