/-
# TableModel.Proofs.Logging.Coloring — a coloured line is the plain line with colours

A format is made of pieces: characters that stand for themselves, fields, and percent signs, which are
doubled. For the formats with fields for level, name and message it is shown what the two formatters
do with a record. They refuse the same formats. Their lines are the pieces one after the other, and
the coloured one differs in the fields for the level only: what the message or the format itself
contains is never taken for a field. Without its colours the coloured line is the plain one. And the
record, which others hold as well, is the same afterwards.

A format is looked at twice, by a search for something like a field and by a scan from the left. They
need not agree on what is a field: in `%%(name)s` the search finds one and the scan does not. All that
is used of the search is that it finds the fields of the scan.
-/
import Mathlib.Data.List.TakeDrop
import TableModel.Logging.Record
import TableModel.Proofs.Logging.Colors

namespace TableModel.Logging

/-! ## Formats -/

/-- A piece of a format: a character that stands for itself, a doubled percent sign, or a field for
the level, the name or the message. -/
inductive Piece where
  | char (c : Char) (own : c ≠ '%')
  | percent
  | field (field : Field) (timeless : field ≠ .time)

namespace Piece

/-- The characters of a piece. -/
def spelling : Piece → List Char
  | char c _ => [c]
  | percent => ['%', '%']
  | field f _ => '%' :: f.directive

/-- The segment that a piece is taken for. -/
def segment : Piece → Segment
  | char c _ => .char c
  | percent => .char '%'
  | field f _ => .field f

theorem spelling_ne_nil (piece : Piece) : piece.spelling ≠ [] := by
  cases piece <;> exact List.cons_ne_nil _ _

/-- What a piece contributes to the plain line of a record. -/
def plain (record : Entry) : Piece → String
  | char c _ => String.singleton c
  | percent => "%"
  | field f _ => f.read record

/-- What a piece contributes to the coloured line: the level name in its colour, and all else as it
is. -/
def colored (record : Entry) : Piece → String
  | field .level _ => paint record.level
  | piece => piece.plain record

/-- The text of a format. -/
def text (pieces : List Piece) : String :=
  String.ofList (pieces.flatMap spelling)

/-- The pieces that a format stands for: an empty one stands for the message alone. -/
def meant : List Piece → List Piece
  | [] => [field .message (by decide)]
  | pieces => pieces

end Piece

/-! ## Taking formats apart -/

namespace Template

theorem segments?_char {c : Char} (own : c ≠ '%') (rest : List Char) :
    segments? (c :: rest) = (segments? rest).map (.char c :: ·) := by
  rw [segments?]
  · rintro _ rfl
    exact absurd rfl own
  · exact own

theorem segments?_percent (rest : List Char) :
    segments? ('%' :: '%' :: rest) = (segments? rest).map (.char '%' :: ·) := by
  rw [segments?]

/-- A directive is a name in parentheses and the letter that ends it. -/
theorem exists_directive_eq (field : Field) :
    ∃ name, field.directive = '(' :: (name ++ [')', 's']) ∧ name ≠ [] ∧
      name.all (fun c => c.isAlphanum && c.toNat < 128) = true := by
  cases field with
  | time => exact ⟨"asctime".toList, by decide, by decide, by decide⟩
  | name => exact ⟨"name".toList, by decide, by decide, by decide⟩
  | level => exact ⟨"levelname".toList, by decide, by decide, by decide⟩
  | message => exact ⟨"message".toList, by decide, by decide, by decide⟩

theorem next?_directive (field : Field) (rest : List Char) :
    Field.next? (field.directive ++ rest) = some field := by
  cases field <;> rfl

theorem segments?_field (field : Field) (rest : List Char) :
    segments? ('%' :: (field.directive ++ rest)) = (segments? rest).map (.field field :: ·) := by
  have single : ∀ more, field.directive ++ rest = '%' :: more → False := by
    obtain ⟨name, shape, -, -⟩ := exists_directive_eq field
    intro more doubled
    rw [shape] at doubled
    exact absurd (List.cons.inj doubled).1 (by decide)
  rw [segments?, next?_directive]
  · dsimp only
    rw [List.drop_left]
  · exact single

/-- The scan finds the pieces of a format. -/
theorem segments?_flatMap (pieces : List Piece) :
    segments? (pieces.flatMap Piece.spelling) = some (pieces.map Piece.segment) := by
  induction pieces with
  | nil => rw [List.flatMap_nil, segments?, List.map_nil]
  | cons piece rest ih =>
    rw [List.flatMap_cons, List.map_cons]
    cases piece with
    | char c own =>
      show segments? (c :: rest.flatMap Piece.spelling) = _
      rw [segments?_char own, ih]
      rfl
    | percent =>
      show segments? ('%' :: '%' :: rest.flatMap Piece.spelling) = _
      rw [segments?_percent, ih]
      rfl
    | field field timeless =>
      show segments? ('%' :: (field.directive ++ rest.flatMap Piece.spelling)) = _
      rw [segments?_field, ih]
      rfl

theorem endsDirective_s (rest : List Char) : endsDirective ('s' :: rest) = true := by
  have notDecimal : Text.isDecimal 's' = false := Text.isDecimal_of_ascii (by decide)
  have conversion : isConversion 's' = true := by decide
  simp [endsDirective, notDecimal, conversion, List.dropWhile_cons_of_neg]

theorem startsField_named {name : List Char} (isName : name ≠ [])
    (letters : name.all (fun c => c.isAlphanum && c.toNat < 128) = true) (rest : List Char) :
    startsField ('%' :: '(' :: (name ++ ')' :: 's' :: rest)) = true := by
  have inside : ∀ c ∈ name, Text.isWord c = true := by
    intro c found
    obtain ⟨letter, ascii⟩ := Bool.and_eq_true_iff.mp (List.all_eq_true.mp letters c found)
    rw [Text.isWord_of_ascii (of_decide_eq_true ascii), letter, Bool.true_or]
  have outside : ¬ Text.isWord ')' = true := by
    rw [Text.isWord_of_ascii (by decide)]
    decide
  have parted : (name ++ ')' :: 's' :: rest).span Text.isWord = (name, ')' :: 's' :: rest) := by
    rw [List.span_eq_takeWhile_dropWhile, List.takeWhile_append_of_pos inside,
      List.takeWhile_cons_of_neg outside, List.append_nil, List.dropWhile_append_of_pos inside,
      List.dropWhile_cons_of_neg outside]
  obtain ⟨c, more, rfl⟩ := List.exists_cons_of_ne_nil isName
  rw [startsField, parted]
  exact endsDirective_s rest

theorem startsField_directive (field : Field) (rest : List Char) :
    startsField ('%' :: (field.directive ++ rest)) = true := by
  obtain ⟨name, shape, isName, letters⟩ := exists_directive_eq field
  rw [shape, List.cons_append, List.append_assoc]
  exact startsField_named isName letters rest

theorem hasField_append (before : List Char) {cs : List Char} (found : hasField cs = true) :
    hasField (before ++ cs) = true := by
  induction before with
  | nil => exact found
  | cons c before ih => rw [List.cons_append, hasField, ih, Bool.or_true]

/-- The search finds the fields of the scan. -/
theorem hasField_flatMap {pieces : List Piece} {field : Field} {timeless : field ≠ .time}
    (mem : .field field timeless ∈ pieces) : hasField (pieces.flatMap Piece.spelling) = true := by
  obtain ⟨before, after, rfl⟩ := List.append_of_mem mem
  rw [List.flatMap_append, List.flatMap_cons]
  apply hasField_append
  show hasField ('%' :: (field.directive ++ after.flatMap Piece.spelling)) = true
  rw [hasField, startsField_directive, Bool.true_or]

/-- A format is refused or stands for the pieces that are meant. -/
theorem ofText_text (pieces : List Piece) :
    ofText (Piece.text pieces) =
      if hasField ((Piece.meant pieces).flatMap Piece.spelling) then
        .ok ((Piece.meant pieces).map Piece.segment)
      else .error .noField := by
  have chars : (if (Piece.text pieces).isEmpty then '%' :: Field.message.directive
      else (Piece.text pieces).toList) = (Piece.meant pieces).flatMap Piece.spelling := by
    cases pieces with
    | nil => rfl
    | cons piece rest =>
      have full : ¬ (Piece.text (piece :: rest)).isEmpty = true := by
        rw [String.isEmpty_iff, Piece.text, String.ofList_eq_empty_iff, List.flatMap_cons]
        exact List.append_ne_nil_of_left_ne_nil piece.spelling_ne_nil _
      rw [if_neg full, Piece.text, String.toList_ofList, Piece.meant]
      exact List.cons_ne_nil piece rest
  rw [ofText, chars, segments?_flatMap]

end Template

/-! ## Lines -/

namespace Piece

/-- The line that pieces make of a record. -/
def plainLine (record : Entry) (pieces : List Piece) : String :=
  String.join (pieces.map (plain record))

/-- The line that pieces make of a record with the level name in its colour. -/
def coloredLine (record : Entry) (pieces : List Piece) : String :=
  String.join (pieces.map (colored record))

theorem segmentText_segment (record : Entry) (piece : Piece) :
    Template.segmentText record piece.segment = piece.plain record := by
  cases piece <;> rfl

theorem format_segments (record : Entry) (pieces : List Piece) :
    Template.format record (pieces.map segment) = plainLine record pieces := by
  induction pieces with
  | nil => rfl
  | cons piece rest ih =>
    rw [List.map_cons, Template.format, segmentText_segment, ih, plainLine, plainLine, List.map_cons,
      String.join_cons]

/-- A record with a coloured level name differs from the record in the fields for the level. -/
theorem plain_paint (record : Entry) (piece : Piece) :
    piece.plain { record with level := paint record.level } = piece.colored record := by
  cases piece with
  | char c own => rfl
  | percent => rfl
  | field field timeless => cases field <;> rfl

theorem formatColored_segments (record : Entry) (pieces : List Piece) :
    Template.formatColored record (pieces.map segment) = coloredLine record pieces := by
  rw [Template.formatColored, format_segments, plainLine, coloredLine]
  exact congrArg String.join (List.map_congr_left fun piece _ => plain_paint record piece)

variable {record : Entry}

theorem unescaped_plain {piece : Piece} (own : escape ∉ piece.spelling) (level : Unescaped record.level)
    (name : Unescaped record.name) (message : Unescaped record.message) :
    Unescaped (piece.plain record) := by
  cases piece with
  | char c _ => rwa [plain, Unescaped, String.toList_singleton]
  | percent =>
    show Unescaped "%"
    decide
  | field field timeless =>
    cases field with
    | time => exact absurd rfl timeless
    | name => exact name
    | level => exact level
    | message => exact message

theorem dropCodes_colored {piece : Piece} (level : Unescaped record.level)
    (own : Unescaped (piece.plain record)) (rest : List Char) :
    dropCodes ((piece.colored record).toList ++ rest)
      = (piece.plain record).toList ++ dropCodes rest := by
  cases piece with
  | char c _ => exact dropCodes_append own rest
  | percent => exact dropCodes_append own rest
  | field field timeless =>
    cases field with
    | level => exact dropCodes_paint level rest
    | time | name | message => exact dropCodes_append own rest

/-- Without its colours the coloured line is the plain one. -/
theorem uncolored_coloredLine {pieces : List Piece} (own : escape ∉ pieces.flatMap spelling)
    (level : Unescaped record.level) (name : Unescaped record.name)
    (message : Unescaped record.message) :
    uncolored (coloredLine record pieces) = plainLine record pieces := by
  have scanned : dropCodes (coloredLine record pieces).toList = (plainLine record pieces).toList := by
    induction pieces with
    | nil => exact dropCodes_nil
    | cons piece rest ih =>
      rw [List.flatMap_cons, List.mem_append, not_or] at own
      have bare := unescaped_plain own.1 level name message
      rw [coloredLine, plainLine, List.map_cons, List.map_cons, String.join_cons, String.join_cons,
        String.toList_append, String.toList_append, dropCodes_colored level bare]
      exact congrArg _ (ih own.2)
  rw [uncolored, scanned, String.ofList_toList]

end Piece

/-! ## Records -/

theorem setLevel_copy (records : Records) (record : Entry) (level : String) :
    (records.copy record).2.setLevel (records.copy record).1 level
      = records ++ [{ record with level }] := by
  show (records ++ [record]).modify records.length _ = _
  rw [List.modify_eq_take_cons_drop (by simp), List.take_left, List.getElem_concat_length rfl,
    List.drop_eq_nil_of_le (by simp)]

namespace Formatter

variable {records : Records} {place : Nat} {record : Entry}

/-- The records that a formatter makes for its own use. -/
def copies (record : Entry) : Formatter → List Entry
  | plain => []
  | colored => [{ record with level := paint record.level }]

theorem writePlain_eq (template : Template) (found : records[place]? = some record) :
    writePlain template records place = some (template.format record, records) := by
  rw [writePlain, found]
  rfl

/-- A formatter makes its line of the record, and its own records come behind those that there were. -/
theorem write_eq (formatter : Formatter) (template : Template) (found : records[place]? = some record) :
    formatter.write template records place =
      some (formatter.format record template, records ++ formatter.copies record) := by
  cases formatter with
  | plain => rw [write, writePlain_eq template found, format, copies, List.append_nil]
  | colored =>
    rw [write, writeColored, found]
    show writePlain template
      ((records.copy record).2.setLevel (records.copy record).1 (paint record.level)) _ = _
    rw [setLevel_copy]
    -- the line is made from the copy, which is the last of all records
    exact writePlain_eq template List.getElem?_concat_length

/-- Every formatter refuses the same formats, and of the others it takes the pieces that are meant. -/
theorem formatRecord_text (formatter : Formatter) (pieces : List Piece)
    (found : records[place]? = some record) :
    formatter.formatRecord (Piece.text pieces) records place =
      if Template.hasField ((Piece.meant pieces).flatMap Piece.spelling) then
        .ok (some (formatter.format record ((Piece.meant pieces).map Piece.segment),
          records ++ formatter.copies record))
      else .error .noField := by
  rw [formatRecord, Template.ofText_text]
  split
  · rw [← formatter.write_eq _ found]
    rfl
  · rfl

end Formatter

/-! ## What the formatters do -/

/-- What the two formatters do with the record at a place. -/
inductive ColorsOnly (pieces : List Piece) (records : Records) (place : Nat) (record : Entry) : Prop
  /-- Both refuse a format; it has no field. -/
  | refused
      (plain : Formatter.plain.formatRecord (Piece.text pieces) records place = .error .noField)
      (colored : Formatter.colored.formatRecord (Piece.text pieces) records place = .error .noField)
      (bare : ∀ field timeless, .field field timeless ∉ Piece.meant pieces)
  /-- Both make a line, and the records that there were stay as they are. -/
  | written (after : Records)
      (plain : Formatter.plain.formatRecord (Piece.text pieces) records place
        = .ok (some (Piece.plainLine record (Piece.meant pieces), records)))
      (colored : Formatter.colored.formatRecord (Piece.text pieces) records place
        = .ok (some (Piece.coloredLine record (Piece.meant pieces), after)))
      (kept : records <+: after)
      (same : after[place]? = some record)
      (uncolored : Unescaped (Piece.text pieces) → Unescaped record.level → Unescaped record.name →
        Unescaped record.message →
        uncolored (Piece.coloredLine record (Piece.meant pieces))
          = Piece.plainLine record (Piece.meant pieces))

theorem unescaped_meant {pieces : List Piece} (own : Unescaped (Piece.text pieces)) :
    escape ∉ (Piece.meant pieces).flatMap Piece.spelling := by
  cases pieces with
  | nil => decide
  | cons piece rest => rwa [Unescaped, Piece.text, String.toList_ofList] at own

/-- The coloured formatter makes a line when the plain one does, the same line with the level name in
its colour wherever the format has its field, and leaves the record as it is. -/
theorem Formatter.colored_colorsOnly (pieces : List Piece) {records : Records} {place : Nat}
    {record : Entry} (found : records[place]? = some record) :
    ColorsOnly pieces records place record := by
  have plain := Formatter.plain.formatRecord_text pieces found
  have colored := Formatter.colored.formatRecord_text pieces found
  rw [Formatter.format, Piece.format_segments, copies, List.append_nil] at plain
  rw [Formatter.format, Piece.formatColored_segments] at colored
  by_cases fields : Template.hasField ((Piece.meant pieces).flatMap Piece.spelling) = true
  · rw [if_pos fields] at plain colored
    refine .written _ plain colored (List.prefix_append _ _) ?same ?uncolored
    case same =>
      rw [List.getElem?_append_left (List.getElem?_eq_some_iff.mp found).1, found]
    case uncolored =>
      intro own level name message
      exact Piece.uncolored_coloredLine (unescaped_meant own) level name message
  · rw [if_neg fields] at plain colored
    refine .refused plain colored ?bare
    intro field timeless mem
    exact fields (Template.hasField_flatMap mem)

/-- The pieces of a text without percent signs. -/
def Piece.literal (text : String) : List Piece :=
  text.toList.filterMap fun c => if own : c ≠ '%' then some (.char c own) else none

/-- A format with two fields for the level, and with a third that is none behind a doubled percent
sign. -/
def Piece.alarm : List Piece :=
  [percent] ++ literal "(levelname)s " ++ [field .level (by decide)] ++ literal ": "
    ++ [field .message (by decide)] ++ literal " [" ++ [field .level (by decide)] ++ literal "] 100"
    ++ [percent]

/-- The record of an error whose message has the level name and something like a field in it, behind
another record. -/
theorem Formatter.colored_colorsOnly_alarm :
    let other : Entry := ⟨"", "root", "INFO", "started"⟩
    let record : Entry := ⟨"", "api", "ERROR", "ERROR in %(levelname)s"⟩
    Piece.text Piece.alarm = "%%(levelname)s %(levelname)s: %(message)s [%(levelname)s] 100%%"
      ∧ [other, record][1]? = some record
      ∧ ColorsOnly Piece.alarm [other, record] 1 record
      ∧ Piece.coloredLine record Piece.alarm
        = "%(levelname)s \x1b[31mERROR\x1b[0m: ERROR in %(levelname)s [\x1b[31mERROR\x1b[0m] 100%" := by
  intro other record
  have found : [other, record][1]? = some record := rfl
  exact ⟨by decide, found, Formatter.colored_colorsOnly Piece.alarm found, by decide⟩

end TableModel.Logging
