/-
# TableModel.Logging.Level — levels of log records

A record has a level, a number; the five common levels have names. A level is asked for by name, in
any letter case: besides the five names, `WARN` and `FATAL` are older names of two of them, and
`NOTSET` is level zero, which means that nothing is asked for.
-/
import TableModel.Text.Case

namespace TableModel.Logging

/-- The common levels. -/
inductive Level where
  | debug
  | info
  | warning
  | error
  | critical
  deriving DecidableEq, Repr, Inhabited

namespace Level

/-- The number of a level. -/
def number : Level → Nat
  | debug => 10
  | info => 20
  | warning => 30
  | error => 40
  | critical => 50

/-- The name of a level. -/
def name : Level → String
  | debug => "DEBUG"
  | info => "INFO"
  | warning => "WARNING"
  | error => "ERROR"
  | critical => "CRITICAL"

/-- The common levels, from the lowest. -/
def all : List Level := [debug, info, warning, error, critical]

end Level

/-- The numbers of the names by which a level can be asked for. -/
def levelNumbers : List (String × Nat) :=
  Level.all.map (fun level => (level.name, level.number))
    ++ [("WARN", Level.warning.number), ("FATAL", Level.critical.number), ("NOTSET", 0)]

/-- The level that a text asks for. -/
def levelOfText? (text : String) : Option Nat :=
  levelNumbers.lookup (Text.upper text)

/-- The name under which a record of a level is written; a number between the common levels is
written as such. -/
def levelName (number : Int) : String :=
  match Level.all.find? fun level => (level.number : Int) == number with
  | some level => level.name
  | none => if number = 0 then "NOTSET" else "Level " ++ toString number

end TableModel.Logging
