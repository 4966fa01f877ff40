/-
# TableModel.Proofs.Logging.Colors — coloured lines without their colours

A colour code is an escape character, an opening bracket, digits and the letter `m`. What a text is
without its colour codes is found by a scan from the left. The scan passes over text without escape
characters, whatever comes after it, so a line of such texts is what is left of its coloured form.
-/
import TableModel.Logging.State

namespace TableModel.Logging

/-! ## Escape characters -/

/-- The character that a colour code begins with. -/
def escape : Char := '\x1b'

/-- A text without escape characters. -/
def Unescaped (text : String) : Prop :=
  escape ∉ text.toList

instance (text : String) : Decidable (Unescaped text) :=
  inferInstanceAs (Decidable (escape ∉ text.toList))

theorem unescaped_append {text more : String} :
    Unescaped (text ++ more) ↔ Unescaped text ∧ Unescaped more := by
  rw [Unescaped, String.toList_append, List.mem_append, not_or]
  rfl

theorem unescaped_toString_nat (n : Nat) : Unescaped (toString n) := by
  intro found
  rw [Nat.toString_eq_repr, Nat.toList_repr] at found
  have digit := Nat.isDigit_of_mem_toDigits (by decide) (by decide) found
  exact absurd digit (by decide)

theorem unescaped_toString_int (n : Int) : Unescaped (toString n) := by
  cases n with
  | ofNat n => exact unescaped_toString_nat n
  | negSucc n =>
    show Unescaped ("-" ++ toString (n + 1))
    exact unescaped_append.mpr ⟨by decide, unescaped_toString_nat (n + 1)⟩

/-! ## Taking colour codes out -/

/-- What comes after a colour code at the beginning. -/
def afterCode? : List Char → Option (List Char)
  | c :: '[' :: digit :: rest =>
    if c = escape ∧ digit.isDigit then
      match rest.dropWhile Char.isDigit with
      | 'm' :: more => some more
      | _ => none
    else none
  | _ => none

theorem length_of_afterCode? {cs rest : List Char} (code : afterCode? cs = some rest) :
    rest.length < cs.length := by
  unfold afterCode? at code
  split at code
  · rename_i c digit tail
    split at code
    · split at code
      · rename_i more dropped
        have shorter := (List.dropWhile_sublist Char.isDigit (l := tail)).length_le
        rw [dropped] at shorter
        cases code
        simp only [List.length_cons] at shorter ⊢
        omega
      · cases code
    · cases code
  · cases code

theorem afterCode?_of_ne {c : Char} (plain : c ≠ escape) (cs : List Char) :
    afterCode? (c :: cs) = none := by
  unfold afterCode?
  split
  · rename_i heq
    cases heq
    rw [if_neg fun starts => plain starts.1]
  · rfl

/-- The characters without colour codes. -/
def dropCodes (cs : List Char) : List Char :=
  match _ : afterCode? cs with
  | some rest => dropCodes rest
  | none =>
    match cs with
    | [] => []
    | c :: rest => c :: dropCodes rest
termination_by cs.length
decreasing_by
  · exact length_of_afterCode? ‹_›
  · exact Nat.lt_succ_self _

/-- A text without colour codes. -/
def uncolored (text : String) : String :=
  String.ofList (dropCodes text.toList)

theorem dropCodes_of_afterCode? {cs rest : List Char} (code : afterCode? cs = some rest) :
    dropCodes cs = dropCodes rest := by
  rw [dropCodes]
  split
  · rename_i found
    rw [code] at found
    cases found
    rfl
  · rename_i found
    rw [code] at found
    cases found

@[simp] theorem dropCodes_nil : dropCodes [] = [] := by
  rw [dropCodes]
  rfl

theorem dropCodes_cons {c : Char} (plain : c ≠ escape) (cs : List Char) :
    dropCodes (c :: cs) = c :: dropCodes cs := by
  rw [dropCodes]
  split
  · rename_i found
    rw [afterCode?_of_ne plain] at found
    cases found
  · rfl

/-- The scan passes over text without escape characters. -/
theorem dropCodes_append {cs : List Char} (plain : escape ∉ cs) (rest : List Char) :
    dropCodes (cs ++ rest) = cs ++ dropCodes rest := by
  induction cs with
  | nil => rfl
  | cons c cs ih =>
    obtain ⟨first, later⟩ := not_or.mp (mt List.mem_cons.mpr plain)
    rw [List.cons_append, dropCodes_cons (Ne.symm first), ih later, List.cons_append]

/-- The scan takes out the code of a colour. -/
theorem dropCodes_colorCode {color : String} (isColor : color.toList ≠ [])
    (digits : color.toList.all Char.isDigit = true) (rest : List Char) :
    dropCodes ((colorCode color).toList ++ rest) = dropCodes rest := by
  obtain ⟨digit, more, isColor⟩ := List.exists_cons_of_ne_nil isColor
  rw [isColor, List.all_eq_true] at digits
  obtain ⟨first, later⟩ := List.forall_mem_cons.mp digits
  have shape : (colorCode color).toList ++ rest = escape :: '[' :: digit :: (more ++ 'm' :: rest) := by
    simp [colorCode, isColor, escape]
  have dropped : (more ++ 'm' :: rest).dropWhile Char.isDigit = 'm' :: rest := by
    rw [List.dropWhile_append_of_pos later]
    rfl
  -- the digits after the first one end at the letter, so the code is read to its end
  apply dropCodes_of_afterCode?
  rw [shape, afterCode?, if_pos ⟨rfl, first⟩, dropped]
  rfl

/-! ## Lines -/

theorem colors_eq_colorCode :
    ∀ color ∈ colors, ∃ digits ∈ ["36", "32", "33", "31", "35", "0"],
      color.2 = colorCode digits ∧ digits.toList ≠ [] ∧ digits.toList.all Char.isDigit = true := by
  decide

/-- The name of a level comes out of its colour as it went in. -/
theorem dropCodes_paint {level : String} (plain : Unescaped level) (rest : List Char) :
    dropCodes ((paint level).toList ++ rest) = level.toList ++ dropCodes rest := by
  rw [paint]
  cases found : colors.lookup level with
  | none => exact dropCodes_append plain rest
  | some code =>
    obtain ⟨before, after, split, -⟩ := List.lookup_eq_some_iff.mp found
    obtain ⟨color, -, rfl, isColor, digits⟩ :=
      colors_eq_colorCode (level, code) (by rw [split]; simp)
    have reset : dropCodes (resetCode.toList ++ rest) = dropCodes rest :=
      dropCodes_colorCode (by decide) (by decide) rest
    rw [String.toList_append, String.toList_append, List.append_assoc, List.append_assoc,
      dropCodes_colorCode isColor digits, dropCodes_append plain, reset]

/-- A record whose texts have no escape characters. -/
structure Entry.IsUnescaped (entry : Entry) : Prop where
  time : Unescaped entry.time
  name : Unescaped entry.name
  level : Unescaped entry.level
  message : Unescaped entry.message

namespace Template

variable {entry : Entry} {template : Template}

/-- A template without escape characters of its own. -/
def IsUnescaped (template : Template) : Prop :=
  Segment.char escape ∉ template

theorem unescaped_read (plain : entry.IsUnescaped) (field : Field) : Unescaped (field.read entry) := by
  cases field with
  | time => exact plain.time
  | name => exact plain.name
  | level => exact plain.level
  | message => exact plain.message

theorem unescaped_segmentText (plain : entry.IsUnescaped) {segment : Segment}
    (own : segment ≠ .char escape) : Unescaped (segmentText entry segment) := by
  cases segment with
  | char c =>
    intro found
    rw [segmentText, String.toList_singleton, List.mem_singleton] at found
    exact own (congrArg _ found.symm)
  | field field => exact unescaped_read plain field

/-- A line has no escape characters when neither the record nor the template has. -/
theorem unescaped_format (plain : entry.IsUnescaped) (own : template.IsUnescaped) :
    Unescaped (template.format entry) := by
  induction template with
  | nil => simp [format, Unescaped]
  | cons segment rest ih =>
    obtain ⟨first, later⟩ := not_or.mp (mt List.mem_cons.mpr own)
    exact unescaped_append.mpr ⟨unescaped_segmentText plain (Ne.symm first), ih later⟩

theorem dropCodes_segmentText_paint (plain : entry.IsUnescaped) {segment : Segment}
    (own : segment ≠ .char escape) (rest : List Char) :
    dropCodes ((segmentText { entry with level := paint entry.level } segment).toList ++ rest)
      = (segmentText entry segment).toList ++ dropCodes rest := by
  cases segment with
  | char c => exact dropCodes_append (unescaped_segmentText plain own) rest
  | field field =>
    cases field with
    | level => exact dropCodes_paint plain.level rest
    | time | name | message => exact dropCodes_append (unescaped_segmentText plain own) rest

theorem dropCodes_formatColored (plain : entry.IsUnescaped) (own : template.IsUnescaped)
    (rest : List Char) :
    dropCodes ((template.formatColored entry).toList ++ rest)
      = (template.format entry).toList ++ dropCodes rest := by
  rw [formatColored]
  induction template with
  | nil => simp [format]
  | cons segment more ih =>
    obtain ⟨first, later⟩ := not_or.mp (mt List.mem_cons.mpr own)
    rw [format, format, String.toList_append, String.toList_append, List.append_assoc,
      List.append_assoc, dropCodes_segmentText_paint plain (Ne.symm first), ih later]

end Template

/-- Whatever formatter makes it, a line is the plain line when its colours are taken out. -/
theorem uncolored_formatter_format {entry : Entry} {template : Template} (formatter : Formatter)
    (plain : entry.IsUnescaped) (own : template.IsUnescaped) {tail : String} (bare : Unescaped tail) :
    uncolored (formatter.format entry template ++ tail) = template.format entry ++ tail := by
  have ending : dropCodes tail.toList = tail.toList := by
    simpa using dropCodes_append bare []
  have scanned : dropCodes ((formatter.format entry template).toList ++ tail.toList)
      = (template.format entry).toList ++ tail.toList := by
    cases formatter with
    | plain =>
      rw [Formatter.format, dropCodes_append (Template.unescaped_format plain own), ending]
    | colored => rw [Formatter.format, Template.dropCodes_formatColored plain own, ending]
  rw [uncolored, String.toList_append, scanned, ← String.toList_append, String.ofList_toList]

/-! ## Records of the log -/

theorem unescaped_levelName (number : Int) : Unescaped (levelName number) := by
  rw [levelName]
  split
  · rename_i level _
    cases level <;> decide
  · split
    · decide
    · exact unescaped_append.mpr ⟨by decide, unescaped_toString_int number⟩

theorem isUnescaped_entry {name message : String} (plainName : Unescaped name)
    (plainMessage : Unescaped message) (level : Int) :
    (State.entry name level message).IsUnescaped where
  time := show Unescaped State.clock by decide
  name := by
    rw [State.entry]
    dsimp only
    split
    · decide
    · exact plainName
  level := unescaped_levelName level
  message := plainMessage

theorem isUnescaped_line : Template.line.IsUnescaped := by
  rw [Template.IsUnescaped]
  decide

end TableModel.Logging
