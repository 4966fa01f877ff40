/-
# TableModel.Proofs.Statement.Spellings — every spelling of a request makes the same statement

A request may be spelled in many ways. Its kind is a member or the kind's keyword or name in any
letter case, its clauses are a record or a mapping, its conflict target is a name, a list or a tuple,
and its ordering nests lists and tuples as deep as one likes, with a record or a mapping at each leaf,
the flags of which are any values. None of this makes a difference: whether a request is refused, and
why, and which text and which values it makes are the same for all spellings.

Each part of a request has a relation between its spellings, and what reads the part is shown to read
the same from related ones, whether or not there is anything to be read. Orderings take an induction,
which follows the reader down to the leaves.
-/
import TableModel.Model.Basic
import TableModel.Proofs.Statement.Reading
import TableModel.Proofs.Value.Spellings

namespace TableModel

open Value

/-! ## Letter case -/

namespace Text

/-- Two texts are the same but for the case of ASCII letters. -/
def SameLetters (text word : String) : Prop :=
  text.toList.map Char.toLower = word.toList.map Char.toLower

instance (text word : String) : Decidable (SameLetters text word) :=
  inferInstanceAs (Decidable (_ = _))

/-- Lower case leaves characters beyond ASCII as they are. -/
theorem toLower_of_not_ascii {c : Char} (beyond : ¬ c.toNat < 128) : c.toLower = c := by
  unfold Char.toLower
  rw [dif_neg]
  rintro ⟨-, below⟩
  exact beyond (Nat.lt_of_le_of_lt (UInt32.le_iff_toNat_le.mp below) (by decide))

theorem toNat_toLower_lt {c : Char} (ascii : c.toNat < 128) : c.toLower.toNat < 128 := by
  have table : ∀ n < 128, (Char.ofNat n).toLower.toNat < 128 := by decide
  rw [← Char.ofNat_toNat c]
  exact table c.toNat ascii

theorem toUpper_toLower_of_ascii {c : Char} (ascii : c.toNat < 128) : c.toLower.toUpper = c.toUpper := by
  have table : ∀ n < 128, (Char.ofNat n).toLower.toUpper = (Char.ofNat n).toUpper := by decide
  rw [← Char.ofNat_toNat c]
  exact table c.toNat ascii

/-- The two cases of an ASCII letter have one upper-case form, and no other character has them. -/
theorem upperChar_congr {c d : Char} (ascii : d.toNat < 128) (same : c.toLower = d.toLower) :
    upperChar c = upperChar d := by
  have ascii' : c.toNat < 128 := by
    by_contra beyond
    rw [toLower_of_not_ascii beyond] at same
    exact beyond (same ▸ toNat_toLower_lt ascii)
  rw [upperChar, upperChar, if_pos ascii', if_pos ascii, ← toUpper_toLower_of_ascii ascii', same,
    toUpper_toLower_of_ascii ascii]

theorem upper_congr {text word : String} (ascii : word.toList.all (·.toNat < 128) = true)
    (same : SameLetters text word) : upper text = upper word := by
  have raised : ∀ {cs ds : List Char}, ds.all (·.toNat < 128) = true →
      cs.map Char.toLower = ds.map Char.toLower → cs.flatMap upperChar = ds.flatMap upperChar := by
    intro cs ds ascii same
    induction ds generalizing cs with
    | nil => rw [List.map_eq_nil_iff.mp same]
    | cons d ds ih =>
      obtain ⟨c, cs, rfl, first, rest⟩ := List.map_eq_cons_iff.mp same
      rw [List.all_cons, Bool.and_eq_true, decide_eq_true_eq] at ascii
      rw [List.flatMap_cons, List.flatMap_cons, upperChar_congr ascii.1 first, ih ascii.2 rest]
  rw [upper, upper, raised ascii same]

end Text

/-! ## Kinds -/

/-- A value spells a kind: it is the kind, or the kind's keyword or name in any letter case. -/
inductive Value.SpellsKind (kind : StatementKind) : Value → Prop
  | member : SpellsKind kind (.label (.statementKind kind))
  | word {text : String}
      (spelled : Text.SameLetters text kind.keyword ∨ Text.SameLetters text kind.name) :
      SpellsKind kind (.text text)

/-- Two values spell one kind, or they are the same. -/
inductive Value.KindsAlike : Value → Value → Prop
  | same (value : Value) : KindsAlike value value
  | spelled {kind : StatementKind} {value other : Value} (left : value.SpellsKind kind)
      (right : other.SpellsKind kind) : KindsAlike value other

/-- The keyword and the name of a kind name it in any letter case. -/
theorem Value.SpellsKind.gives {kind : StatementKind} {value : Value} (spells : value.SpellsKind kind) :
    value.GivesKind kind := by
  have keyword : kind.keyword.toList.all (·.toNat < 128) = true := by cases kind <;> decide
  have name : kind.name.toList.all (·.toNat < 128) = true := by cases kind <;> decide
  have capital : Text.upper kind.name = kind.name := by cases kind <;> decide
  cases spells with
  | member => exact .member kind
  | word spelled =>
    refine .spelling ?_
    rcases spelled with spelled | spelled
    · exact .inl (Text.upper_congr keyword spelled)
    · exact .inr ((Text.upper_congr name spelled).trans capital)

theorem StatementKind.ofValue_congr {value other : Value} (alike : value.KindsAlike other) :
    ofValue value = ofValue other := by
  cases alike with
  | same => rfl
  | spelled left right => rw [ofValue_eq_ok.mpr left.gives, ofValue_eq_ok.mpr right.gives]

/-! ## Conflict targets -/

/-- A target is said to be missing when it stands for no items. -/
theorem Value.ListsItems.missing {value : Value} {items : List Value} (listed : value.ListsItems items) :
    (value.label?.isNone && !value.truth) = items.isEmpty := by
  cases listed with
  | alone name => rfl
  | sequence shape => cases shape <;> cases items <;> rfl

theorem readTarget_congr {value other : Value} (alike : value.ListsAlike other) :
    readTarget value = readTarget other := by
  have missing : (value.label?.isNone && !value.truth) = (other.label?.isNone && !other.truth) := by
    cases alike with
    | same => rfl
    | items left right each => rw [left.missing, right.missing, isEmpty_eq_of_forall₂ each]
  rw [readTarget, readTarget, alike.names?_eq, missing]

/-! ## Orderings -/

namespace Value

/-- The fields of a record that is a term of an ordering, under their names. -/
def termFields (column direction nulls : Value) : List (String × Value) :=
  [("column", column), ("descending", direction), ("null_last", nulls)]

/-- The fields of such a record that have defaults, with these. -/
def termDefaults : List (String × Value) :=
  [("descending", .bool false), ("null_last", .bool false)]

/-- A value spells the term of a column with its two flags: it is a record, or the mapping of the
record's fields, in which flags that are off may be missing. A flag is on or off by its truth. -/
inductive SpellsTerm : Value → Value → Bool → Bool → Prop
  | record {column direction nulls : Value} {descending nullsLast : Bool}
      (turned : direction.truth = descending) (last : nulls.truth = nullsLast) :
      SpellsTerm (.ordering column direction nulls) column descending nullsLast
  | mapping {column direction nulls : Value} {descending nullsLast : Bool}
      {entries : List (Value × Value)}
      (given : AreFieldsBut termDefaults (termFields column direction nulls) entries)
      (turned : direction.truth = descending) (last : nulls.truth = nullsLast) :
      SpellsTerm (.map entries) column descending nullsLast

/-- Two leaves of orderings spell one term, or they are the same. -/
inductive TermsAlike : Value → Value → Prop
  | same (value : Value) : TermsAlike value value
  | spelled {column value other : Value} {descending nullsLast : Bool}
      (left : value.SpellsTerm column descending nullsLast)
      (right : other.SpellsTerm column descending nullsLast) : TermsAlike value other

/-- Two orderings differ in the shapes of their sequences and the spellings of their terms only. -/
abbrev OrdersAlike : Value → Value → Prop :=
  AlikeUpTo TermsAlike

section Terms

variable {column direction nulls : Value} {entries : List (Value × Value)}

theorem names_termFields : ((termFields column direction nulls).map Prod.fst).Nodup := by
  show ["column", "descending", "null_last"].Nodup
  decide

/-- The column of a term is always given. -/
theorem field?_column (given : AreFieldsBut termDefaults (termFields column direction nulls) entries) :
    field? "column" entries = some column := by
  rcases given.field?_eq_or names_termFields (List.mem_cons_self ..) with found | ⟨-, default⟩
  · exact found
  · simp [termDefaults] at default

/-- A flag of a term has its truth, also when it is left out. -/
theorem truth_flag {name : String} {flag : Value}
    (given : AreFieldsBut termDefaults (termFields column direction nulls) entries)
    (member : (name, flag) ∈ termFields column direction nulls) :
    (field name entries).truth = flag.truth := by
  refine given.read_field truth names_termFields member fun default => ?_
  have off : flag = .bool false := by
    simp only [termDefaults, List.mem_cons, Prod.mk.injEq, List.not_mem_nil, or_false] at default
    rcases default with ⟨-, off⟩ | ⟨-, off⟩ <;> exact off
  rw [off]
  rfl

end Terms

/-- A term has a column, and so it counts as true. -/
theorem SpellsTerm.truth_eq {column value : Value} {descending nullsLast : Bool}
    (spells : value.SpellsTerm column descending nullsLast) : value.truth = true := by
  cases spells with
  | record => rfl
  | @mapping _ _ _ _ _ entries given =>
    have named := field?_column given
    cases entries with
    | nil => cases named
    | cons => rfl

theorem TermsAlike.truth_eq {value other : Value} (alike : value.TermsAlike other) :
    value.truth = other.truth := by
  cases alike with
  | same => rfl
  | spelled left right => rw [left.truth_eq, right.truth_eq]

end Value

namespace OrderSpec

theorem ofValue_of_spellsTerm {column value : Value} {descending nullsLast : Bool}
    (spells : value.SpellsTerm column descending nullsLast) :
    ofValue value = .ok (.term ⟨column.shown, descending, nullsLast⟩) := by
  cases spells with
  | record turned last => rw [ofValue, turned, last]
  | mapping given turned last =>
    rw [ofValue, field?_column given, truth_flag given (.tail _ (.head _)),
      truth_flag given (.tail _ (.tail _ (.head _))), turned, last]

theorem ofValue_of_isSequence {value : Value} {items : List Value} (shape : value.IsSequence items) :
    ofValue value = (ofValues items).map .group := by
  cases shape with
  | list => rw [ofValue]
  | tuple => rw [ofValue]

theorem ofValue_congr_leaf {value other : Value} (alike : value.TermsAlike other) :
    ofValue value = ofValue other := by
  cases alike with
  | same => rfl
  | spelled left right => rw [ofValue_of_spellsTerm left, ofValue_of_spellsTerm right]

mutual

/-- Orderings are read alike, down to their leaves. -/
theorem ofValue_congr : ∀ value other : Value, value.OrdersAlike other → ofValue value = ofValue other
  | .list items, other, alike => by
    cases alike with
    | leaf alike => exact ofValue_congr_leaf alike
    | sequence left right each =>
      cases left
      rw [ofValue, ofValue_of_isSequence right, ofValues_congr items _ each]
  | .tuple items, other, alike => by
    cases alike with
    | leaf alike => exact ofValue_congr_leaf alike
    | sequence left right each =>
      cases left
      rw [ofValue, ofValue_of_isSequence right, ofValues_congr items _ each]
  | .null, other, alike | .bool _, other, alike | .int _, other, alike | .float _, other, alike
  | .label _, other, alike | .bytes _, other, alike | .buffer _, other, alike | .map _, other, alike
  | .ordering .., other, alike | .descriptor .., other, alike | .tableOptions .., other, alike
  | .clauses .., other, alike => by
    cases alike with
    | leaf alike => exact ofValue_congr_leaf alike
    | sequence left => cases left

/-- The same for items, one by one. -/
theorem ofValues_congr : ∀ items others : List Value, List.Forall₂ OrdersAlike items others →
    ofValues items = ofValues others
  | [], others, each => by
    rw [List.forall₂_nil_left_iff.mp each]
  | item :: rest, others, each => by
    obtain ⟨other, others, first, following, rfl⟩ := List.forall₂_cons_left_iff.mp each
    rw [ofValues, ofValues, ofValue_congr item other first, ofValues_congr rest others following]

end

end OrderSpec

theorem readOrder_congr {value other : Value} (alike : value.OrdersAlike other) :
    readOrder value = readOrder other := by
  rw [readOrder, readOrder, alike.truth_eq TermsAlike.truth_eq, OrderSpec.ofValue_congr value other alike]

/-! ## Clauses -/

namespace Clauses

/-- The clauses under their keys. -/
def fields (clauses : Clauses) : List (String × Value) :=
  [(ClauseName.filter.key, clauses.filter), (ClauseName.data.key, clauses.data),
    (ClauseName.updates.key, clauses.updates), (ClauseName.limit.key, clauses.limit),
    (ClauseName.offset.key, clauses.offset), (ClauseName.orderBy.key, clauses.orderBy)]

/-- A value spells clauses: it is a record, or the mapping of the record's fields, in which fields that
are null may be missing. -/
inductive SpelledAs (clauses : Clauses) : Value → Prop
  | record : SpelledAs clauses clauses.toValue
  | mapping {entries : List (Value × Value)}
      (given : AreFieldsBut ({} : Clauses).fields clauses.fields entries) :
      SpelledAs clauses (.map entries)

theorem mem_fields (clauses : Clauses) (name : ClauseName) :
    (name.key, clauses.clause name) ∈ clauses.fields := by
  cases name <;> simp [fields, clause]

theorem SpelledAs.gives {clauses : Clauses} {value : Value} (spelled : clauses.SpelledAs value) :
    value.GivesClauses clauses := by
  cases spelled with
  | record => exact .record clauses
  | mapping given =>
    have distinct : (clauses.fields.map Prod.fst).Nodup := show keys.Nodup by decide
    have null : ∀ field ∈ ({} : Clauses).fields, field.2 = .null := by simp [fields]
    refine .mapping given.hasKeysOf fun name => ?_
    exact (given.field_eq null distinct (clauses.mem_fields name)).symm

/-- Two bundles of clauses are equal but for the spelling of their orderings. -/
structure SameButOrder (clauses other : Clauses) : Prop where
  others : other = { clauses with orderBy := other.orderBy }
  orders : clauses.orderBy.OrdersAlike other.orderBy

theorem SameButOrder.refl (clauses : Clauses) : clauses.SameButOrder clauses :=
  ⟨rfl, .leaf (.same _)⟩

end Clauses

/-- Two values under the key of a clause are the same, or they are spellings of one ordering. -/
def Value.ClausesAlike (key value other : Value) : Prop :=
  value = other ∨ key.isText ClauseName.orderBy.key = true ∧ value.OrdersAlike other

/-- Two values spell clauses that are equal but for the spelling of their orderings, or they are
mappings with the same keys, known or unknown, of which that holds entry by entry. -/
inductive Value.BundlesAlike : Value → Value → Prop
  | same (value : Value) : BundlesAlike value value
  | spelled {clauses clauses' : Clauses} {value other : Value} (left : clauses.SpelledAs value)
      (right : clauses'.SpelledAs other) (same : clauses.SameButOrder clauses') :
      BundlesAlike value other
  | entries {entries others : List (Value × Value)} (each : EntriesAlike ClausesAlike entries others) :
      BundlesAlike (.map entries) (.map others)

namespace Clauses

/-- In alike entries the ordering is spelled alike, and all other clauses are the same. -/
theorem sameButOrder_of_entries {entries others : List (Value × Value)}
    (each : EntriesAlike ClausesAlike entries others) {clauses clauses' : Clauses}
    (read : ∀ name, clauses.clause name = field name.key entries)
    (read' : ∀ name, clauses'.clause name = field name.key others) :
    clauses.SameButOrder clauses' := by
  have under : ∀ name : ClauseName, ∃ key : Value, key.isText name.key = true ∧
      ClausesAlike key (clauses.clause name) (clauses'.clause name) := by
    intro name
    rw [read, read']
    exact each.field (fun _ _ => .inl rfl) name.key
  have apart : ∀ name : ClauseName, name ≠ .orderBy → clauses.clause name = clauses'.clause name := by
    intro name apart
    obtain ⟨key, named, same | ⟨ordering, -⟩⟩ := under name
    · exact same
    · -- the key of a clause is not that of the ordering
      have impossible := eq_of_isText named ordering
      cases name <;> simp [ClauseName.key] at impossible apart
  refine ⟨ext_clause fun name => ?_, ?_⟩
  · cases name with
    | orderBy => rfl
    | filter => exact (apart .filter (by decide)).symm
    | data => exact (apart .data (by decide)).symm
    | updates => exact (apart .updates (by decide)).symm
    | limit => exact (apart .limit (by decide)).symm
    | offset => exact (apart .offset (by decide)).symm
  · obtain ⟨key, -, same | ⟨-, alike⟩⟩ := under .orderBy
    · show OrdersAlike (clauses.clause .orderBy) (clauses'.clause .orderBy)
      rw [same]
      exact .leaf (.same _)
    · exact alike

/-- Alike bundles are refused for the same reason, or they are read as clauses that are equal but for
the spelling of their orderings. -/
theorem agree_of_bundlesAlike {value other : Value} (alike : value.BundlesAlike other) :
    ChecksAgree SameButOrder (ofValue value) (ofValue other) := by
  cases alike with
  | same =>
    exact (ChecksAgree.refl (ofValue value)).mono fun clauses _ same => same ▸ .refl clauses
  | spelled left right same =>
    rw [ofValue_eq_ok.mpr left.gives, ofValue_eq_ok.mpr right.gives]
    exact .passed same
  | @entries entries others each =>
    unfold ofValue
    dsimp only
    rw [each.unknownKeys_eq keys]
    cases unknownKeys keys others with
    | nil =>
      refine .passed (sameButOrder_of_entries each (fun name => ?_) fun name => ?_)
      · cases name <;> rfl
      · cases name <;> rfl
    | cons key rest =>
      dsimp only
      cases sortedContents? (key :: rest) with
      | none => exact .failed _
      | some names => exact .failed _

end Clauses

/-! ## Requests -/

/-- The ordering and the target of a request matter as far as they are read. -/
theorem Statement.ofClauses_congr (kind : StatementKind) (table : Label) {clauses other : Clauses}
    (same : clauses.SameButOrder other) {target target' : Value} (targets : target.ListsAlike target') :
    ofClauses kind table clauses target = ofClauses kind table other target' := by
  rw [same.others]
  unfold ofClauses
  rw [readOrder_congr same.orders, readTarget_congr targets]

namespace Request

/-- Two requests are spellings of one: they name the same table, and their kinds, clauses and conflict
targets are spelled alike. -/
structure Respelled (request other : Request) : Prop where
  kind : request.kind.KindsAlike other.kind
  table : request.table = other.table
  clauses : request.clauses.BundlesAlike other.clauses
  target : request.target.ListsAlike other.target

theorem statement_congr {request other : Request} (respelled : request.Respelled other) :
    request.statement = other.statement := by
  unfold statement
  rw [respelled.table, StatementKind.ofValue_congr respelled.kind]
  cases other.table.name? with
  | none => rfl
  | some table =>
    refine ChecksAgree.eq (ChecksAgree.bind_same _ fun kind => ?_)
    refine (Clauses.agree_of_bundlesAlike respelled.clauses).bind fun clauses clauses' same => ?_
    rw [Statement.ofClauses_congr kind table same respelled.target]
    exact ChecksAgree.refl _

/-- Requests that are spellings of one generate the same: the same statement, and with it the same text
and values and the same record in the log, or the same error. -/
theorem generate_of_respelled {request other : Request} (respelled : request.Respelled other) :
    request.generate = other.generate := by
  rw [generate, generate, statement_congr respelled]

/-- The newest day first, then by title, and by the number from the last one down. -/
def newestFirst : Value :=
  .list [.ordering (.text "day") (.bool true) (.bool false),
    .tuple [.text "title", .list [.ordering (.text "id") (.int 1) (.text "yes")]]]

/-- The same ordering with the other shapes of sequences and with mappings as terms, the first of which
has flags that say the same by other values, and one flag left out. -/
def newestFirstAgain : Value :=
  .tuple [.map [(.text "descending", .tuple [.null]), (.text "column", .text "day")],
    .list [.text "title", .tuple [.map [(.text "column", .text "id"), (.text "null_last", .int 2),
      (.text "descending", .bool true)]]]]

theorem newestFirst_alike : newestFirst.OrdersAlike newestFirstAgain := by
  have day : TermsAlike (.ordering (.text "day") (.bool true) (.bool false))
      (.map [(.text "descending", .tuple [.null]), (.text "column", .text "day")]) :=
    .spelled (.record rfl rfl)
      (.mapping ⟨[("null_last", .bool false)], by simp [termDefaults], .swap ..⟩ rfl rfl)
  have id : TermsAlike (.ordering (.text "id") (.int 1) (.text "yes"))
      (.map [(.text "column", .text "id"), (.text "null_last", .int 2),
        (.text "descending", .bool true)]) :=
    .spelled (.record rfl rfl) (.mapping ⟨[], by simp, .cons _ (.swap ..)⟩ rfl rfl)
  have inner : OrdersAlike (.list [.ordering (.text "id") (.int 1) (.text "yes")]) (.tuple [_]) :=
    .sequence (.list _) (.tuple _) (.cons (.leaf id) .nil)
  have rest : OrdersAlike (.tuple [.text "title", _]) (.list [.text "title", _]) :=
    .sequence (.tuple _) (.list _) (.cons (.leaf (.same _)) (.cons inner .nil))
  exact .sequence (.list _) (.tuple _) (.cons (.leaf day) (.cons rest .nil))

/-- A selection of ten posts, with a conflict target that it has no use for. -/
def tenPosts : Request where
  kind := .label (.statementKind .select)
  table := .text "posts"
  clauses := .clauses (.map [(.text "author", .int 7)]) .null .null (.int 10) .null newestFirst
  target := .text "id"

/-- The same with a spelled kind, clauses in another order and the target as a tuple. -/
def tenPostsAgain : Request where
  kind := .text "sElEcT"
  table := .text "posts"
  clauses := .map [(.text "limit", .int 10), (.text "offset", .null),
    (.text "order_by", newestFirstAgain), (.text "where", .map [(.text "author", .int 7)])]
  target := .tuple [.text "id"]

/-- Both spellings make the same statement. -/
theorem tenPosts_is_respelled :
    tenPosts.Respelled tenPostsAgain ∧ tenPosts.generate = tenPostsAgain.generate ∧
      tenPostsAgain.statement.toOption.map Statement.text =
        some ("SELECT * FROM `posts` WHERE author = ? ORDER BY \"day\" DESC, \"title\", "
          ++ "\"id\" DESC NULLS LAST LIMIT 10") := by
  let clauses (order : Value) : Clauses :=
    { filter := .map [(.text "author", .int 7)], limit := .int 10, orderBy := order }
  have mapping : (clauses newestFirstAgain).SpelledAs tenPostsAgain.clauses := by
    refine .mapping ⟨[("data", .null), ("upsert_only_update_data", .null)],
      by simp [Clauses.fields, ClauseName.key], ?_⟩
    -- the last three fields stand before the first three
    let fields := (clauses newestFirstAgain).fields
    have turned : (fields.drop 3 ++ fields.take 3).Perm (fields.take 3 ++ fields.drop 3) :=
      List.perm_append_comm
    exact turned.map fun field => (Value.text field.1, field.2)
  have itself : (clauses newestFirst).SpelledAs tenPosts.clauses := .record
  have word : tenPostsAgain.kind.SpellsKind .select := .word (.inl (by decide))
  have respelled : tenPosts.Respelled tenPostsAgain := {
    kind := .spelled .member word
    table := rfl
    clauses := .spelled itself mapping ⟨rfl, newestFirst_alike⟩
    target := .items (.alone _) (.sequence (.tuple _)) (.cons (.leaf rfl) .nil) }
  exact ⟨respelled, generate_of_respelled respelled, rfl⟩

end Request

end TableModel
