/-
# TableModel.Proofs.Model.Filter — a filter that is given is never lost

Deleting or changing rows without a filter does it to all rows, so a filter must not be taken for none
because it is false, empty or of the wrong sort. A filter is none when it is null or a mapping without
entries. Anything else either is refused before it reaches an engine, or it is a mapping, and then the
statement ends with one equation for each entry, and its last values are the values of the entries.
-/
import TableModel.Proofs.Model.Requests
import TableModel.Proofs.Statement.Placeholders

namespace TableModel

open TableModel.Action

/-- The end of a statement with a filter. -/
def Row.whereText (entries : List (Value × Value)) : String :=
  " WHERE " ++ String.intercalate " AND " (entries.map fun entry => entry.1.shown ++ " = ?")

/-- An action whose statement is `front` with the values `before`, and then the filter. The names in
the front are `names`. -/
structure Action.KeepsFilter {α : Type} (action : Action α) (engine : Engine) (front : String)
    (names : List String) (before : List Value) (filter : Value) : Prop where
  /-- Where a statement without a filter reaches an engine, none was given. -/
  unfiltered : ∀ scripts name sql bindings,
    Event.execute name sql bindings ∈ (action scripts).trace.events →
      sql = front ∨ ¬ " WHERE ".toList <:+: sql.toList → filter = .null ∨ filter = .map []
  /-- What is neither null nor a mapping reaches no engine. -/
  refused : filter ≠ .null → (∀ entries, filter ≠ .map entries) →
    Quiet action (.error (.statement (.notMapping .filter)))
  whole : filter = .null ∨ filter = .map [] → Runs action [⟨engine, [⟨front, some before⟩]⟩]
  /-- A mapping with entries is the end of the statement, and its values are the last ones. -/
  kept : ∀ entries, filter = .map entries → entries ≠ [] →
    Runs action [⟨engine, [⟨front ++ Row.whereText entries, some (before ++ entries.map Prod.snd)⟩]⟩]
  /-- The placeholder of an entry has the place that its value has among the values. -/
  placed : ∀ entries, filter = .map entries →
    (∀ name ∈ names ++ entries.map fun entry => entry.1.shown, '?' ∉ name.toList) →
    ∀ (i : Nat) (h : i < entries.length),
      PlaceholderOf (front ++ Row.whereText entries) (before.length + i) entries[i].1

theorem Row.filterText_of_ne_nil {entries : List (Value × Value)} (given : entries ≠ []) :
    Row.filterText ((entries.map Prod.fst).map Value.shown) = Row.whereText entries := by
  cases entries with
  | nil => exact absurd rfl given
  | cons entry rest => simp [Row.filterText, Row.whereText, Row.equationText, Function.comp_def]

/-- A statement that ends with a filter shows it. -/
theorem Row.infix_whereText (front : String) (entries : List (Value × Value)) :
    " WHERE ".toList <:+: (front ++ Row.whereText entries).toList := by
  rw [Row.whereText, String.toList_append, String.toList_append]
  exact (List.prefix_append _ _).isInfix.trans (List.suffix_append _ _).isInfix

theorem Row.append_whereText_ne (front : String) (entries : List (Value × Value)) :
    front ++ Row.whereText entries ≠ front := by
  intro same
  have lengths := congrArg String.length same
  rw [Row.whereText, String.length_append, String.length_append] at lengths
  have : " WHERE ".length = 7 := rfl
  omega

theorem Value.isOptionalMap_iff {value : Value} :
    value.IsOptionalMap ↔ value = .null ∨ ∃ entries, value = .map entries := by
  constructor
  · rintro (_ | entries)
    · exact .inl rfl
    · exact .inr ⟨entries, rfl⟩
  · rintro (rfl | ⟨entries, rfl⟩)
    · exact .null
    · exact .map entries

namespace Action.KeepsFilter

variable {α : Type} {action : Action α} {engine : Engine} {front : String} {names : List String}
  {before keys : List Value} {filter : Value}

/-- A filter is kept by what sends it behind a front, refuses what is no mapping, and has a placeholder
for each value, those of the front first. -/
theorem of_sent
    (sends : filter.IsOptionalMap → Runs action [⟨engine, [⟨front
      ++ Row.filterText ((filter.members.map Prod.fst).map Value.shown),
      some (before ++ filter.members.map Prod.snd)⟩]⟩])
    (refuses : ¬ filter.IsOptionalMap → Quiet action (.error (.statement (.notMapping .filter))))
    (placed : (∀ name ∈ names ++ (filter.members.map Prod.fst).map Value.shown, markCount name = 0) →
      Placed (front ++ Row.filterText ((filter.members.map Prod.fst).map Value.shown))
        (keys ++ filter.members.map Prod.fst))
    (paired : keys.length = before.length) :
    action.KeepsFilter engine front names before filter where
  unfiltered := by
    intro scripts name sql bindings event unfiltered
    by_cases shape : filter.IsOptionalMap
    · obtain ⟨-, sql_eq, -⟩ := (sends shape).executed event
      rcases Value.isOptionalMap_iff.mp shape with rfl | ⟨entries, rfl⟩
      · exact .inl rfl
      · right
        by_contra given
        have given : entries ≠ [] := fun none => given (none ▸ rfl)
        rw [Value.members_map, Row.filterText_of_ne_nil given] at sql_eq
        rw [sql_eq] at unfiltered
        rcases unfiltered with same | missing
        · exact Row.append_whereText_ne front entries same
        · exact missing (Row.infix_whereText front entries)
    · rw [(refuses shape).events_eq] at event
      cases event
  refused := by
    intro given noMapping
    apply refuses
    rw [Value.isOptionalMap_iff]
    rintro (h | ⟨entries, h⟩)
    · exact given h
    · exact noMapping entries h
  whole := by
    have none : front ++ Row.filterText [] = front := String.append_empty
    rintro (rfl | rfl)
    · simpa [none] using sends .null
    · simpa [none] using sends (.map [])
  kept := by
    rintro entries rfl given
    have sent := sends (.map entries)
    rw [Value.members_map, Row.filterText_of_ne_nil given] at sent
    exact sent
  placed := by
    rintro entries rfl unmarked i h
    have given : entries ≠ [] := by
      rintro rfl
      cases h
    have zero : ∀ name ∈ names ++ (entries.map Prod.fst).map Value.shown, markCount name = 0 := by
      intro name member
      rw [markCount_eq_zero]
      exact unmarked name (by simpa using member)
    have all := placed zero
    rw [Value.members_map, Row.filterText_of_ne_nil given] at all
    -- the marks of the filter come behind those of the front
    have place := all.place (keys.length + i) (by simpa using h)
    simpa [paired] using place

end Action.KeepsFilter

namespace Model

variable {model : Model} {engine : Engine}

/-- Deleting keeps its filter. -/
theorem keepsFilter_delete (constructed : model.Constructed engine) (filter : Value) :
    (model.delete filter).KeepsFilter engine
      ("DELETE FROM `" ++ model.schema.tableName.shown ++ "`") [model.schema.tableName.shown]
      [] filter := by
  refine KeepsFilter.of_sent ?_ ?_ ?_ (List.length_nil)
  · intro shape
    have shaped : ({ filter } : Clauses).Shaped := ⟨shape, .null, .null, .null, .null⟩
    have made : (model.deleteRequest filter).statement = .ok _ :=
      constructed.statement_of_made shaped .delete
    have runs := runs_request constructed made
    rw [Statement.sent, Statement.text_delete, Statement.bindings_delete, Row.columns_ofEntries,
      Row.values_ofEntries] at runs
    exact runs
  · intro noMapping
    exact quiet_request (constructed.statement_of_filter noMapping)
  · intro zero
    rw [← Row.columns_ofEntries] at zero
    have placed := Statement.placed_delete zero
    rw [Statement.text_delete, Row.columns_ofEntries] at placed
    exact placed

/-- The start of a statement that changes rows. -/
def updateFront (model : Model) (data : List (Value × Value)) : String :=
  "UPDATE `" ++ model.schema.tableName.shown ++ "` SET "
    ++ String.intercalate ", " (data.map fun entry => entry.1.shown ++ " = ?")

/-- Changing rows keeps its filter, whatever is changed. -/
theorem keepsFilter_update (constructed : model.Constructed engine) (filter : Value)
    {data : List (Value × Value)} (given : data ≠ []) :
    (model.update filter (.map data)).KeepsFilter engine (model.updateFront data)
      (model.schema.tableName.shown :: data.map fun entry => entry.1.shown)
      (data.map Prod.snd) filter := by
  have front : "UPDATE `" ++ model.schema.tableName.shown ++ "` SET "
      ++ Row.changeText ((data.map Prod.fst).map Value.shown) = model.updateFront data := by
    rw [Row.changeText, List.map_map, List.map_map]
    rfl
  have paired : (data.map Prod.fst).length = (data.map Prod.snd).length := by
    rw [List.length_map, List.length_map]
  refine KeepsFilter.of_sent ?_ ?_ ?_ paired
  · intro shape
    have shaped : ({ filter, data := .map data } : Clauses).Shaped :=
      ⟨shape, .map data, .null, .null, .null⟩
    have made : (model.updateRequest filter (.map data)).statement = .ok _ :=
      constructed.statement_of_made shaped (.update given)
    have runs := runs_request constructed made
    rw [Statement.sent, Statement.text_update, Statement.bindings_update, Row.columns_ofEntries,
      Row.columns_ofEntries, Row.values_ofEntries, Row.values_ofEntries, Value.members_map,
      front] at runs
    exact runs
  · intro noMapping
    exact quiet_request (constructed.statement_of_filter noMapping)
  · intro zero
    have unmarked : ∀ name ∈ (Statement.update model.schema.tableName.shown (Row.ofEntries data)
        (Row.ofEntries filter.members)).names, markCount name = 0 := by
      rw [Statement.names, Row.columns_ofEntries, Row.columns_ofEntries, List.map_map]
      exact zero
    have placed := Statement.placed_update given unmarked
    rw [Statement.text_update, Row.columns_ofEntries, Row.columns_ofEntries, front,
      List.map_append] at placed
    exact placed

/-- Neither deleting nor changing rows ever loses its filter. -/
theorem filter_never_lost (constructed : model.Constructed engine) (filter : Value) :
    (model.delete filter).KeepsFilter engine
        ("DELETE FROM `" ++ model.schema.tableName.shown ++ "`") [model.schema.tableName.shown]
        [] filter ∧
      ∀ data : List (Value × Value), data ≠ [] →
        (model.update filter (.map data)).KeepsFilter engine (model.updateFront data)
          (model.schema.tableName.shown :: data.map fun entry => entry.1.shown)
          (data.map Prod.snd) filter :=
  ⟨keepsFilter_delete constructed filter, fun _ given => keepsFilter_update constructed filter given⟩

/-- A filter that is zero deletes nothing, and a filter by team is the end of the statement. -/
theorem filter_of_members_never_lost :
    Quiet (members.delete (.int 0)) (.error (.statement (.notMapping .filter))) ∧
      Runs (members.update (.map [(.text "team", .text "red")]) (.map [(.text "id", .int 7)]))
        [⟨⟨"e", "sqlite", [], 0⟩, [⟨"UPDATE `members` SET id = ? WHERE team = ?",
          some [.int 7, .text "red"]⟩]⟩] := by
  have deleting := (filter_never_lost constructed_members (.int 0)).1
  have updating := (filter_never_lost constructed_members (.map [(.text "team", .text "red")])).2
    [(.text "id", .int 7)] (by simp)
  exact ⟨deleting.refused (by simp) (by simp), updating.kept _ rfl (by simp)⟩

end Model

end TableModel
