/-
# TableModel.Settings — settings from the environment

Six variables of the environment set the database's address, whether statements are echoed, and how
the log is kept; each has a default. A flag is on when its text, without blanks at its ends and in
any letter case, is one of `1`, `true`, `yes` and `on`. Of a variable that is set twice the last
setting counts.
-/
import TableModel.Database.Action
import TableModel.Text.Blank

namespace TableModel

/-- The settings of the library. -/
structure Settings where
  url : String
  echo : Bool
  /-- The name of the level, in upper case. -/
  level : String
  logFile : Option String
  logDirectory : String
  colors : Bool
  deriving DecidableEq, Repr, Inhabited

namespace Settings

/-- The texts that switch a flag on. -/
def trueWords : List String := ["1", "true", "yes", "on"]

/-- Whether a text switches a flag on. -/
def isOn (text : String) : Bool :=
  trueWords.contains (Text.lower (Text.strip text))

/-- The settings of an environment. -/
def ofEnvironment (environment : List (String × String)) : Settings :=
  let setting (name : String) := environment.reverse.lookup name
  { url := (setting "ORM_DATABASE_URL").getD "sqlite://"
    echo := isOn ((setting "ORM_ECHO_SQL").getD "false")
    level := Text.upper ((setting "ORM_LOG_LEVEL").getD "INFO")
    logFile := (setting "ORM_LOG_FILE").filter fun name => !name.isEmpty
    logDirectory := (setting "ORM_LOG_DIR").getD "logs"
    colors := isOn ((setting "ORM_LOG_COLORS").getD "true") }

/-- Whether the database is a SQLite database. -/
def isSqlite (settings : Settings) : Bool :=
  "sqlite".toList.isPrefixOf settings.url.toList

end Settings

/-! ## Connections -/

/-- What an engine is made with. -/
structure Connection where
  url : String
  echo : Bool
  deriving DecidableEq, Repr, Inhabited

/-- The connection that is asked for; what is not given, or is an empty address, comes from the
settings. -/
def Settings.connection (settings : Settings) (url : Option String) (echo : Option Bool) :
    Connection where
  url := (url.filter fun text => !text.isEmpty).getD settings.url
  echo := echo.getD settings.echo

/-- A new connection, with a record of it in the log. -/
def Settings.connect (settings : Settings) (url : Option String) (echo : Option Bool) :
    Action Connection := do
  let connection := settings.connection url echo
  Action.log .debug .database ("Creating engine for " ++ connection.url)
  return connection

end TableModel
