/-
# TableModel.Logging.Record — formatting records that others hold as well

One record goes to every handler, and each handler has its formatter make a line from it. Records are
therefore kept at places, and whoever has the place of a record sees what is written there. A coloured
line needs another level name than the record has; so the record is copied, the copy is given the
level name in its colour, and the line is made from the copy.
-/
import TableModel.Logging.Template

namespace TableModel.Logging

/-- The records that there are, each at its place. -/
abbrev Records := List Entry

namespace Records

/-- A copy of a record behind all others: its place, and the records with it. -/
def copy (records : Records) (record : Entry) : Nat × Records :=
  (records.length, records ++ [record])

/-- The records with another level name at one place. -/
def setLevel (records : Records) (place : Nat) (level : String) : Records :=
  records.modify place fun record => { record with level }

end Records

namespace Formatter

/-- The line of the record at a place, if there is one. -/
def writePlain (template : Template) (records : Records) (place : Nat) :
    Option (String × Records) := do
  let record ← records[place]?
  return (template.format record, records)

/-- The line of the record at a place with the level name in its colour. -/
def writeColored (template : Template) (records : Records) (place : Nat) :
    Option (String × Records) := do
  let record ← records[place]?
  let (copy, records) := records.copy record
  writePlain template (records.setLevel copy (paint record.level)) copy

/-- The line that a formatter makes of the record at a place, and the records after that. -/
def write (formatter : Formatter) (template : Template) (records : Records) (place : Nat) :
    Option (String × Records) :=
  match formatter with
  | plain => writePlain template records place
  | colored => writeColored template records place

/-- The line that a formatter of a text makes of the record at a place. The text is checked when the
formatter is made. -/
def formatRecord (formatter : Formatter) (text : String) (records : Records) (place : Nat) :
    Except TemplateError (Option (String × Records)) := do
  let template ← Template.ofText text
  return formatter.write template records place

end Formatter

end TableModel.Logging
