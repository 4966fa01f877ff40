/-
# TableModel.Value.Key — values as keys of mappings

Keys are compared by what they denote: a truth value is the number zero or one, a floating-point
number that is whole is that integer, labels are the same when their contents are, tuples and the
records of ordering terms and columns when their parts are. The not-a-number is the same as nothing,
itself included. Lists, mappings, byte buffers and the records of table options and clauses are no
keys at all.

Putting an entry into a mapping that has its key already keeps the place and the spelling of the
key and replaces the value.
-/
import TableModel.Value

namespace TableModel

namespace Value

/-! ## Sameness -/

/-- The integer that a value denotes as a key. -/
def integer? : Value → Option Int
  | .bool b => some (if b then 1 else 0)
  | .int n => some n
  | .float x => x.whole?
  | _ => none

/-- Whether two values are the same number. -/
def sameNumber (a b : Value) : Bool :=
  match a.integer?, b.integer? with
  | some m, some n => m == n
  | none, none =>
    match a, b with
    | .float x, .float y => x != .nan && x == y
    | _, _ => false
  | _, _ => false

mutual

/-- Whether two values are the same key. -/
def sameKey : Value → Value → Bool
  | .null, .null => true
  | .label a, .label b => a.same b
  | .bytes a, .bytes b => a == b
  | .tuple as, .tuple bs => sameKeys as bs
  | .ordering a b c, .ordering a' b' c' => sameKey a a' && sameKey b b' && sameKey c c'
  | .descriptor a b c d e f, .descriptor a' b' c' d' e' f' =>
    sameKey a a' && sameKey b b' && sameKey c c' && sameKey d d' && sameKey e e' && sameKey f f'
  | a, b => sameNumber a b

/-- Whether two sequences are the same keys, one by one. -/
def sameKeys : List Value → List Value → Bool
  | [], [] => true
  | a :: as, b :: bs => sameKey a b && sameKeys as bs
  | _, _ => false

end

mutual

/-- Whether a value can be a key. -/
def isKey : Value → Bool
  | .list _ | .map _ | .buffer _ | .tableOptions .. | .clauses .. => false
  | .tuple items => areKeys items
  | .ordering a b c => isKey a && isKey b && isKey c
  | .descriptor a b c d e f => isKey a && isKey b && isKey c && isKey d && isKey e && isKey f
  | _ => true

/-- Whether all values can be keys. -/
def areKeys : List Value → Bool
  | [] => true
  | value :: rest => isKey value && areKeys rest

end

/-- Whether a value is the given text. -/
def isText (s : String) : Value → Bool
  | .label name => name.content == s
  | _ => false

/-! ## Entries -/

/-- The entries with one more: the value of a key that is there is replaced in its place. -/
def putEntry (key value : Value) : List (Value × Value) → List (Value × Value)
  | [] => [(key, value)]
  | (k, v) :: rest =>
    if k.sameKey key then (k, value) :: rest else (k, v) :: putEntry key value rest

/-- The mapping that results from putting entries one after the other. -/
def ofEntries (entries : List (Value × Value)) : Value :=
  .map (entries.foldl (fun all entry => putEntry entry.1 entry.2 all) [])

/-- The value under a key. -/
def lookup? (key : Value) (entries : List (Value × Value)) : Option Value :=
  (entries.find? fun entry => entry.1.sameKey key).map Prod.snd

/-- The value under a text. -/
def field? (name : String) (entries : List (Value × Value)) : Option Value :=
  (entries.find? fun entry => entry.1.isText name).map Prod.snd

/-- The value under a text, and null where there is none. -/
def field (name : String) (entries : List (Value × Value)) : Value :=
  (field? name entries).getD .null

/-- Looking a text up is looking up its plain label. -/
theorem field?_eq_lookup? (name : String) (entries : List (Value × Value)) :
    field? name entries = lookup? (text name) entries := by
  unfold field? lookup?
  congr 2
  funext entry
  rcases entry with ⟨key, value⟩
  cases key with
  | float x => cases h : x.whole? <;> simp [isText, sameKey, sameNumber, integer?, h]
  | _ => simp [isText, sameKey, Label.same, sameNumber, integer?]

end Value

end TableModel
