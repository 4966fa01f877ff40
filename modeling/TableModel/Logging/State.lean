/-
# TableModel.Logging.State — set-up, loggers and what is written

The state of the log is the level and the handlers of the root, the levels that loggers have of
their own, and the files. Setting up replaces the level and all handlers: a console handler if one
is wanted, and a file handler if a file is named. A set-up that asks for an unknown level changes
nothing; one whose file cannot be opened has the new level and the console handler already.

A logger without a level of its own has that of the nearest logger above it, by the dots in its name,
and at last that of the root. A record at or above it goes to every handler whose level it reaches.
The root is the logger with the empty name or the name `root`.
-/
import TableModel.Keyed
import TableModel.Logging.Files
import TableModel.Logging.Template
import TableModel.Settings

namespace TableModel.Logging

/-- Where records are written. -/
inductive Handler where
  | console (level : Nat) (formatter : Formatter)
  | file (level : Nat) (path : Path)
  deriving DecidableEq, Repr, Inhabited

/-- The level that a record has to reach. -/
def Handler.level : Handler → Nat
  | console level _ => level
  | file level _ => level

/-- The state of the log. -/
structure State where
  rootLevel : Nat := Level.warning.number
  handlers : List Handler := []
  /-- The loggers that have been used, with the levels they were given; zero is none. -/
  loggers : Keyed Nat := []
  files : Files := {}
  deriving Repr, Inhabited

namespace State

/-! ## Set-up -/

/-- What a set-up asks for; the settings stand in for what is not given. -/
structure SetupRequest where
  level : Option String := none
  file : Option String := none
  directory : Option String := none
  console : Bool := true
  colors : Option Bool := none
  deriving DecidableEq, Repr, Inhabited

/-- The ways in which setting up, or asking for a logger, fails. -/
inductive SetupFault where
  | unknownLevel
  | file (fault : FileFault)
  deriving DecidableEq, Repr, Inhabited

/-- The level that a set-up asks for; an empty name is none. -/
def SetupRequest.levelText (request : SetupRequest) (settings : Settings) : String :=
  (request.level.filter fun text => !text.isEmpty).getD settings.level

/-- The file that a set-up asks for; an empty name is none. -/
def SetupRequest.fileName? (request : SetupRequest) (settings : Settings) : Option String :=
  (request.file.orElse fun _ => settings.logFile).filter fun name => !name.isEmpty

/-- The directory of the file. -/
def SetupRequest.directoryPath (request : SetupRequest) (settings : Settings) : Path :=
  Path.ofText (request.directory.getD settings.logDirectory)

/-- The console handler that a set-up asks for, if it wants one. -/
def SetupRequest.consoleHandlers (request : SetupRequest) (settings : Settings) (level : Nat) :
    List Handler :=
  if request.console then
    [.console level (if request.colors.getD settings.colors then .colored else .plain)]
  else []

/-- Adds a file handler: its directory is made, and then the file is opened. -/
def addFile (state : State) (level : Nat) (directory : Path) (name : String) :
    State × Option SetupFault :=
  match state.files.makeFolders directory.reverse with
  | (files, some fault) => ({ state with files }, some (.file fault))
  | (files, none) =>
    let path := (directory ++ Path.ofText name).normal
    match files.openAppend path with
    | .error fault => ({ state with files }, some (.file fault))
    | .ok opened =>
      ({ state with files := opened, handlers := state.handlers ++ [.file level path] }, none)

/-- Sets the log up. -/
def setup (settings : Settings) (request : SetupRequest) (state : State) :
    State × Option SetupFault :=
  match levelOfText? (request.levelText settings) with
  | none => (state, some .unknownLevel)
  | some level =>
    let fresh := { state with
      rootLevel := level
      handlers := request.consoleHandlers settings level }
    match request.fileName? settings with
    | none => (fresh, none)
    | some name => fresh.addFile level (request.directoryPath settings) name

/-! ## Loggers -/

/-- Whether a name is the root's. -/
def isRootName (name : String) : Bool :=
  name == "" || name == "root"

/-- The level that a logger has of its own. -/
def ownLevel (state : State) (name : String) : Nat :=
  if isRootName name then state.rootLevel else (state.loggers.find? name).getD 0

/-- The state with a logger in use. -/
def use (state : State) (name : String) : State :=
  if (state.loggers.find? name).isSome then state
  else { state with loggers := state.loggers.put name 0 }

/-- The state with a level given to a logger. -/
def giveLevel (state : State) (name : String) (level : Nat) : State :=
  if isRootName name then { state with rootLevel := level }
  else { state with loggers := state.loggers.put name level }

/-- Asks for a logger, possibly with a level; an empty level is none. -/
def getLogger (state : State) (name : String) (level : Option String) :
    State × Option SetupFault :=
  let used := state.use name
  match level.filter fun text => !text.isEmpty with
  | none => (used, none)
  | some text =>
    match levelOfText? text with
    | none => (used, some .unknownLevel)
    | some n => (used.giveLevel name n, none)

/-- The level that a logger has from the loggers above it; its name is given from the last character.
Above a name stands what comes before each of its dots, the nearest first. A dot right before another
one counts only when the name that ends in it has been used. -/
def inheritedLevel (state : State) : List Char → Nat
  | [] => state.rootLevel
  | c :: rest =>
    if c = '.' then
      match rest with
      | [] => state.rootLevel
      | d :: more =>
        let name := String.ofList (d :: more).reverse
        if (state.loggers.find? name).isSome then
          if state.ownLevel name = 0 then state.inheritedLevel (d :: more)
          else state.ownLevel name
        else state.inheritedLevel more
    else state.inheritedLevel rest

/-- The level that counts for a logger: its own, else that of the nearest logger above it that has
one, else the root's. -/
def effectiveLevel (state : State) (name : String) : Nat :=
  if state.ownLevel name = 0 then state.inheritedLevel name.toList.reverse else state.ownLevel name

/-! ## Records -/

/-- The time of every record: the clock stands still. -/
def clock : String := "1970-01-01 00:00:00"

/-- What a record says. -/
def entry (name : String) (level : Int) (message : String) : Entry where
  time := clock
  name := if isRootName name then "root" else name
  level := levelName level
  message := message

/-- Whether a record of a level is taken up by a logger; a record needs a positive level. -/
def takes (state : State) (name : String) (level : Int) : Bool :=
  0 < level && (state.effectiveLevel name : Int) ≤ level

/-- One handler writes a line: the text that appears on the console, and the files. -/
def handle (record : Entry) (level : Int) (handler : Handler) (files : Files) : String × Files :=
  if (handler.level : Int) ≤ level then
    match handler with
    | .console _ formatter => (formatter.format record Template.line ++ "\n", files)
    | .file _ path => ("", files.append path (Template.line.format record ++ "\n"))
  else ("", files)

/-- All handlers write a line, in their order. -/
def handleAll (record : Entry) (level : Int) : List Handler → Files → String × Files
  | [], files => ("", files)
  | handler :: rest, files =>
    let (text, written) := handle record level handler files
    let (more, files) := handleAll record level rest written
    (text ++ more, files)

/-- A logger logs a message: the text that appears on the console, and the state. -/
def log (state : State) (name : String) (level : Int) (message : String) : String × State :=
  let used := state.use name
  if used.takes name level then
    let (text, files) := handleAll (entry name level message) level used.handlers used.files
    (text, { used with files })
  else ("", used)

/-- The loggers in use with the levels they have of their own, in the order of their names. -/
def loggerListing (state : State) : List (String × Nat) :=
  (state.loggers.map fun logger => (logger.1, state.ownLevel logger.1)).mergeSort
    fun a b => a.1 ≤ b.1

end State

/-! ## Steps -/

/-- A use of the log. -/
inductive Step where
  | setup (request : State.SetupRequest)
  | getLogger (name : String) (level : Option String)
  | log (name : String) (level : Int) (message : String)
  deriving Repr, Inhabited

/-- What a step leaves: the text on the console, why it failed if it did, and the state. -/
structure StepResult where
  console : String
  fault : Option State.SetupFault
  state : State
  deriving Repr, Inhabited

/-- One use of the log. -/
def State.perform (settings : Settings) (state : State) : Step → StepResult
  | .setup request =>
    let (next, fault) := state.setup settings request
    ⟨"", fault, next⟩
  | .getLogger name level =>
    let (next, fault) := state.getLogger name level
    ⟨"", fault, next⟩
  | .log name level message =>
    let (text, next) := state.log name level message
    ⟨text, none, next⟩

/-- Uses of the log, one after the other. -/
def State.run (settings : Settings) (state : State) : List Step → List StepResult
  | [] => []
  | step :: rest =>
    let result := state.perform settings step
    result :: result.state.run settings rest

end TableModel.Logging
