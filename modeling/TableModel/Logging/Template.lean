/-
# TableModel.Logging.Template — templates of log lines, plain and coloured

A template is text with fields. A field is written as a percent sign, its name in parentheses and
the letter `s`; two percent signs stand for one. A template has to look as if it had at least one
field, which is checked on its text and before it is taken apart.

A coloured line differs from a plain one in the name of the level only: a name that has a colour is
enclosed in the code of its colour and the code that resets it. The message and the name of the
logger are put in as they are, whatever they contain.
-/
import TableModel.Logging.Level
import TableModel.Text.Word

namespace TableModel.Logging

/-! ## Records -/

/-- What a line of the log is made from. -/
structure Entry where
  time : String
  name : String
  level : String
  message : String
  deriving DecidableEq, Repr, Inhabited

/-! ## Colours -/

/-- The code of a colour. -/
def colorCode (color : String) : String :=
  "\x1b[" ++ color ++ "m"

/-- The code that resets the colour. -/
def resetCode : String := colorCode "0"

/-- The names of levels that have a colour, with the codes. -/
def colors : List (String × String) :=
  [(Level.debug.name, colorCode "36"), (Level.info.name, colorCode "32"),
   (Level.warning.name, colorCode "33"), (Level.error.name, colorCode "31"),
   (Level.critical.name, colorCode "35"), ("RESET", resetCode)]

/-- The name of a level in its colour. -/
def paint (level : String) : String :=
  match colors.lookup level with
  | some code => code ++ level ++ resetCode
  | none => level

/-! ## Templates -/

/-- The fields of a template. -/
inductive Field where
  | time
  | name
  | level
  | message
  deriving DecidableEq, Repr, Inhabited

/-- The contents of a field. -/
def Field.read (entry : Entry) : Field → String
  | time => entry.time
  | name => entry.name
  | level => entry.level
  | message => entry.message

/-- What follows the percent sign of a field. -/
def Field.directive : Field → List Char
  | time => "(asctime)s".toList
  | name => "(name)s".toList
  | level => "(levelname)s".toList
  | message => "(message)s".toList

/-- All fields. -/
def Field.all : List Field := [time, name, level, message]

/-- The field whose directive comes next. -/
def Field.next? (cs : List Char) : Option Field :=
  Field.all.find? fun field => field.directive.isPrefixOf cs

/-- A part of a template. -/
inductive Segment where
  | char (c : Char)
  | field (field : Field)
  deriving DecidableEq, Repr, Inhabited

/-- A template, taken apart. -/
abbrev Template := List Segment

/-- The ways in which a text is no template. -/
inductive TemplateError where
  | noField
  | unknownDirective
  deriving DecidableEq, Repr, Inhabited

namespace Template

/-- A letter that ends a directive, in either case; three characters beyond ASCII count as cases of `i`
and `s`. -/
def isConversion (c : Char) : Bool :=
  "diouxefgcrsa%\u0130\u0131\u017f".toList.contains c.toLower

/-- Whether a directive of some field, known or not, ends here: flags, a width, a precision and one
letter may follow the name. -/
def endsDirective (cs : List Char) : Bool :=
  let afterFlags := cs.dropWhile fun c => "#0+ -".toList.contains c
  let afterWidth := match afterFlags with
    | '*' :: rest => rest
    | rest => rest.dropWhile Text.isDecimal
  let afterPrecision := match afterWidth with
    | '.' :: '*' :: rest => rest
    | '.' :: d :: rest =>
      if Text.isDecimal d then rest.dropWhile Text.isDecimal else '.' :: d :: rest
    | rest => rest
  match afterPrecision with
  | c :: _ => isConversion c
  | [] => false

/-- Whether a text looks as if it began with a field. -/
def startsField : List Char → Bool
  | '%' :: '(' :: rest =>
    match rest.span Text.isWord with
    | (_ :: _, ')' :: more) => endsDirective more
    | _ => false
  | _ => false

/-- Whether a text looks as if it had a field. -/
def hasField : List Char → Bool
  | [] => false
  | c :: rest => startsField (c :: rest) || hasField rest

/-- The segments of a text. -/
def segments? (cs : List Char) : Option Template :=
  match cs with
  | [] => some []
  | '%' :: '%' :: rest => (segments? rest).map (.char '%' :: ·)
  | '%' :: rest =>
    match Field.next? rest with
    | some field => (segments? (rest.drop field.directive.length)).map (.field field :: ·)
    | none => none
  | c :: rest => (segments? rest).map (.char c :: ·)
termination_by cs.length
decreasing_by
  all_goals
    simp only [List.length_cons, List.length_drop]
    omega

/-- The template of a text; an empty text stands for the message alone. -/
def ofText (text : String) : Except TemplateError Template :=
  let cs := if text.isEmpty then '%' :: Field.message.directive else text.toList
  if hasField cs then
    match segments? cs with
    | some template => .ok template
    | none => .error .unknownDirective
  else .error .noField

/-- A part of a line. -/
def segmentText (entry : Entry) : Segment → String
  | .char c => String.singleton c
  | .field field => field.read entry

/-- The line that a template makes from an entry. -/
def format (entry : Entry) : Template → String
  | [] => ""
  | segment :: rest => segmentText entry segment ++ format entry rest

/-- The line with the name of the level in its colour. -/
def formatColored (entry : Entry) (template : Template) : String :=
  template.format { entry with level := paint entry.level }

/-- The template of every line of the log: time, name, level and message. -/
def line : Template :=
  [.field .time, .char ' ', .char '-', .char ' ', .field .name, .char ' ', .char '-', .char ' ',
   .field .level, .char ' ', .char '-', .char ' ', .field .message]

end Template

/-! ## Formatters -/

/-- Whether lines are coloured. -/
inductive Formatter where
  | plain
  | colored
  deriving DecidableEq, Repr, Inhabited

/-- The name of a formatter. -/
def Formatter.name : Formatter → String
  | plain => "Formatter"
  | colored => "ColoredFormatter"

/-- The line that a formatter makes. -/
def Formatter.format (formatter : Formatter) (entry : Entry) (template : Template) : String :=
  match formatter with
  | plain => template.format entry
  | colored => template.formatColored entry

end TableModel.Logging
