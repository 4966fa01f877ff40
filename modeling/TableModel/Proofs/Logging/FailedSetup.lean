/-
# TableModel.Proofs.Logging.FailedSetup — what a set-up leaves behind when it fails

A set-up can fail in two places. An unknown level stops it before it does anything. After that it
changes the root step by step: the level, the handlers, the directory of the file and the file. Only
the last two can fail, in ways that depend on what the file system holds, and by then the level and
the console handler are new and all handlers of before are gone. So a known level always comes into
force, and directories are the most that such a failure leaves among the files. From then on nothing
is written to any file until the log is set up again.
-/
import TableModel.Proofs.Logging.Turns

namespace TableModel.Logging

/-- A text names a level, in any letter case. -/
def NamesLevel (text : String) (number : Nat) : Prop :=
  (Text.upper text, number) ∈ levelNumbers

/-- No name stands for two levels, so the first one that is found is the only one. -/
theorem levelOfText?_eq_some {text : String} {number : Nat} :
    levelOfText? text = some number ↔ NamesLevel text number := by
  have distinct : (levelNumbers.map Prod.fst).Nodup := by decide
  exact Keyed.find?_eq_some_iff_mem distinct

namespace State

variable {settings : Settings} {request : SetupRequest} {before : State} {text : String}
  {number : Nat}

/-- The text that says which level a set-up gives to the root: the one that is asked for, or else the
one of the settings. -/
inductive SetupRequest.LevelInForce (request : SetupRequest) (settings : Settings) : String → Prop
  | asked {text : String} (given : request.level = some text) (named : text ≠ "") :
      LevelInForce request settings text
  | configured (missing : request.level = none ∨ request.level = some "") :
      LevelInForce request settings settings.level

theorem SetupRequest.LevelInForce.levelText_eq (inForce : request.LevelInForce settings text) :
    request.levelText settings = text := by
  cases inForce with
  | asked given named => simp [levelText, given, named, Option.filter]
  | configured missing =>
    rcases missing with missing | missing <;> simp [levelText, missing, Option.filter]

/-- What a set-up has done when its file fails: the root has the new level and no handler but a new one
for the console, if one is wanted, and every file is as it was. -/
structure StopsAtFile (settings : Settings) (request : SetupRequest) (number : Nat)
    (before after : State) : Prop where
  rootLevel : after.rootLevel = number
  shown : request.console = true → after.handlers
    = [.console number (if request.colors.getD settings.colors then .colored else .plain)]
  hidden : request.console = false → after.handlers = []
  noFileHandler : ∀ level path, Handler.file level path ∉ after.handlers
  loggers : after.loggers = before.loggers
  contents : after.files.contents = before.files.contents

/-- A set-up that fails in spite of a known level fails on its file. -/
theorem stopsAtFile_of_failed {fault : SetupFault}
    (known : levelOfText? (request.levelText settings) = some number)
    (failed : (before.setup settings request).2 = some fault) :
    (∃ cause, fault = .file cause) ∧
      StopsAtFile settings request number before (before.setup settings request).1 := by
  cases setupTurn settings request before with
  | unknown unnamed _ =>
    rw [known] at unnamed
    cases unnamed
  | fileless _ _ done | opened _ _ _ _ done =>
    rw [done] at failed
    cases failed
  | failed known' _ untouched done =>
    rw [known, Option.some.injEq] at known'
    subst known'
    rw [done] at failed ⊢
    refine ⟨⟨_, (Option.some.inj failed).symm⟩, rfl, fun wanted => ?_, fun unwanted => ?_, ?_, rfl,
      untouched⟩
    · exact if_pos wanted
    · simp [SetupRequest.consoleHandlers, unwanted]
    · intro level path
      simp only [SetupRequest.consoleHandlers]
      split <;> simp

/-- A set-up that fails changes nothing when the level in force is unknown. Otherwise it has failed on
its file, with the new level and its console handler in force and with all files as they were. -/
theorem failed_setup_leaves {fault : SetupFault}
    (failed : (before.perform settings (.setup request)).fault = some fault)
    (inForce : request.LevelInForce settings text) :
    ((∀ number, ¬ NamesLevel text number) →
      before.perform settings (.setup request) = ⟨"", some .unknownLevel, before⟩) ∧
    ∀ number, NamesLevel text number →
      (∃ cause, fault = .file cause) ∧ (before.perform settings (.setup request)).console = "" ∧
        StopsAtFile settings request number before
          (before.perform settings (.setup request)).state := by
  rw [← inForce.levelText_eq]
  constructor
  · intro unnamed
    have unknown : levelOfText? (request.levelText settings) = none := by
      rw [Option.eq_none_iff_forall_ne_some]
      exact fun number known => unnamed number (levelOfText?_eq_some.mp known)
    rw [perform, setup, unknown]
  · intro number named
    rw [perform] at failed ⊢
    obtain ⟨cause, stops⟩ := stopsAtFile_of_failed (levelOfText?_eq_some.mpr named) failed
    exact ⟨cause, rfl, stops⟩

/-- A log that has been set up for the console and a file. -/
def consoleAndFile : State where
  rootLevel := 20
  handlers := [.console 20 .colored, .file 20 ["a"]]
  files := { contents := [(["a"], "")] }

/-- A set-up for a file in the directory `a`, where there is a file. -/
def directoryTaken : SetupRequest where
  level := some "debug"
  file := some "b"
  directory := some "a"
  colors := some false

theorem setup_directoryTaken (settings : Settings) :
    consoleAndFile.setup settings directoryTaken
      = ({ consoleAndFile with rootLevel := 10, handlers := [.console 10 .plain] },
        some (.file .alreadyExists)) := by
  have known : levelOfText? "debug" = some 10 := by decide +kernel
  have directory : Path.ofText "a" = ["a"] := by
    rw [Path.ofText, String.splitOn, if_neg (by decide), String.splitOnAux, if_neg (by decide),
      if_neg (by decide), String.splitOnAux, if_pos (by decide)]
    decide
  have adding : consoleAndFile.setup settings directoryTaken
      = State.addFile { consoleAndFile with rootLevel := 10, handlers := [.console 10 .plain] } 10
        (Path.ofText "a") "b" := by
    simp [setup, directoryTaken, SetupRequest.levelText, SetupRequest.fileName?,
      SetupRequest.directoryPath, SetupRequest.consoleHandlers, known, Option.filter]
  rw [adding, directory]
  rfl

/-- The level of the second set-up is in force, and the handlers of the first are gone. -/
theorem failed_setup_leaves_only_console :
    (consoleAndFile.perform (Settings.ofEnvironment []) (.setup directoryTaken)).fault
        = some (.file .alreadyExists) ∧
      directoryTaken.LevelInForce (Settings.ofEnvironment []) "debug" ∧ NamesLevel "debug" 10 ∧
      StopsAtFile (Settings.ofEnvironment []) directoryTaken 10 consoleAndFile
        (consoleAndFile.perform (Settings.ofEnvironment []) (.setup directoryTaken)).state := by
  have failed : (consoleAndFile.perform (Settings.ofEnvironment []) (.setup directoryTaken)).fault
      = some (.file .alreadyExists) := by
    rw [perform, setup_directoryTaken]
  have inForce : directoryTaken.LevelInForce (Settings.ofEnvironment []) "debug" :=
    .asked rfl (by decide)
  have named : NamesLevel "debug" 10 := levelOfText?_eq_some.mp (by decide +kernel)
  obtain ⟨-, -, stops⟩ := (failed_setup_leaves failed inForce).2 10 named
  exact ⟨failed, inForce, named, stops⟩

/-! ## After a failure -/

/-- Without a handler for a file, nothing is written to any file until the log is set up again. -/
theorem content?_after_of_no_fileHandler {state : State} {steps : List Step}
    (bare : ∀ level path, Handler.file level path ∉ state.handlers)
    (noSetup : ∀ request, Step.setup request ∉ steps) (path : Path) :
    (state.after settings steps).files.content? path = state.files.content? path := by
  induction steps generalizing state with
  | nil => rfl
  | cons step rest ih =>
    have noSetupLater : ∀ request, Step.setup request ∉ rest :=
      fun request later => noSetup request (List.mem_cons_of_mem _ later)
    rw [after]
    cases step with
    | setup request => exact absurd List.mem_cons_self (noSetup request)
    | getLogger name level =>
      have only := state.onlyGives_getLogger name level
      rw [state_perform_getLogger, ih (by rwa [only.handlers]) noSetupLater, only.files]
    | log name number message =>
      have only := state.onlyWrites_log name number message
      have elsewhere : ¬ WritesTo state.handlers path := fun ⟨level, writes⟩ => bare level path writes
      rw [state_perform_log, ih (by rwa [only.handlers]) noSetupLater, only.elsewhere path elsewhere]

/-- A set-up that has failed on its file keeps every file as it was until the log is set up again. -/
theorem StopsAtFile.content?_after {next : State} {steps : List Step}
    (stops : StopsAtFile settings request number before next)
    (noSetup : ∀ request, Step.setup request ∉ steps) (path : Path) :
    (next.after settings steps).files.content? path = before.files.content? path := by
  rw [content?_after_of_no_fileHandler stops.noFileHandler noSetup,
    Files.content?_of_contents stops.contents]

end State

end TableModel.Logging
