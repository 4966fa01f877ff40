/-
# TableModel.Proofs.Logging.Turns — what one use of the log can do

A set-up is refused before anything changes, or it replaces the level and the handlers of the root
and then may fail on its file. Asking for a logger gives it a level or leaves all levels alone, and
touches nothing else. A message goes to the files of the handlers and changes nothing else. `SetupTurn`
and `AskTurn` list these ways with all that comes out of each.
-/
import TableModel.Logging.State
import TableModel.Proofs.Logging.Files

namespace TableModel.Logging

/-! ## Loggers by their names -/

/-- Two names of one logger: the root has two names, every other logger has one. -/
def SameLogger (name other : String) : Prop :=
  name = other ∨ State.isRootName name = true ∧ State.isRootName other = true

/-- A step that gives a level to the logger of a name. -/
def Step.GivesLevel (name : String) : Step → Prop
  | .getLogger asked (some text) =>
    SameLogger asked name ∧ text ≠ "" ∧ (levelOfText? text).isSome = true
  | _ => False

namespace State

variable {settings : Settings} {state : State} {name other : String} {level : Nat} {path : Path}

/-! ## Levels of loggers -/

theorem handlers_use (state : State) (name : String) : (state.use name).handlers = state.handlers := by
  rw [use]
  split <;> rfl

theorem files_use (state : State) (name : String) : (state.use name).files = state.files := by
  rw [use]
  split <;> rfl

theorem rootLevel_use (state : State) (name : String) :
    (state.use name).rootLevel = state.rootLevel := by
  rw [use]
  split <;> rfl

/-- A logger that is used for the first time has no level. -/
theorem ownLevel_use (state : State) (name other : String) :
    (state.use name).ownLevel other = state.ownLevel other := by
  by_cases root : isRootName other = true
  · rw [ownLevel, ownLevel, if_pos root, if_pos root, rootLevel_use]
  · rw [ownLevel, ownLevel, if_neg root, if_neg root, use]
    split
    · rfl
    · rename_i unused
      -- it is put down with level zero, which is what it had while it was unknown
      by_cases same : other = name
      · subst same
        rw [Keyed.find?_put_self, Option.not_isSome_iff_eq_none.mp unused]
        rfl
      · rw [Keyed.find?_put_of_ne same]

theorem handlers_giveLevel (state : State) (name : String) (level : Nat) :
    (state.giveLevel name level).handlers = state.handlers := by
  rw [giveLevel]
  split <;> rfl

theorem files_giveLevel (state : State) (name : String) (level : Nat) :
    (state.giveLevel name level).files = state.files := by
  rw [giveLevel]
  split <;> rfl

/-- A level is given to one logger. -/
theorem ownLevel_giveLevel_of_not_sameLogger (different : ¬ SameLogger name other) (state : State)
    (level : Nat) : (state.giveLevel name level).ownLevel other = state.ownLevel other := by
  obtain ⟨different, notBoth⟩ := not_or.mp different
  rw [giveLevel]
  by_cases root : isRootName name = true
  · have notRoot : isRootName other ≠ true := fun h => notBoth ⟨root, h⟩
    rw [if_pos root, ownLevel, ownLevel, if_neg notRoot, if_neg notRoot]
  · rw [if_neg root, ownLevel, ownLevel, Keyed.find?_put_of_ne (Ne.symm different)]

/-- All that asking for a logger can do: give it a level, or leave all levels alone. -/
inductive AskTurn (state : State) (name : String) (level : Option String) : Prop
  | given {text : String} {number : Nat} (level_eq : level = some text) (named : text ≠ "")
      (known : levelOfText? text = some number)
      (asked : state.getLogger name level = ((state.use name).giveLevel name number, none))
  | kept {fault : Option SetupFault} (asked : state.getLogger name level = (state.use name, fault))

theorem askTurn (state : State) (name : String) (level : Option String) :
    state.AskTurn name level := by
  cases wanted : level.filter fun text => !text.isEmpty with
  | none => exact .kept (by rw [getLogger, wanted])
  | some text =>
    obtain ⟨level_eq, named⟩ := Option.filter_eq_some_iff.mp wanted
    cases known : levelOfText? text with
    | none =>
      have asked : state.getLogger name level = (state.use name, some .unknownLevel) := by
        rw [getLogger, wanted]
        simp only [known]
      exact .kept asked
    | some number =>
      refine .given level_eq ?_ known (by rw [getLogger, wanted]; simp only [known])
      rintro rfl
      cases named

/-- Asking for a logger changes no handler, no file and no level but the one that it gives. -/
structure OnlyGives (state : State) (step : Step) (next : State) : Prop where
  handlers : next.handlers = state.handlers
  files : next.files = state.files
  levels : ∀ name, ¬ step.GivesLevel name → next.ownLevel name = state.ownLevel name

theorem onlyGives_getLogger (state : State) (name : String) (level : Option String) :
    state.OnlyGives (.getLogger name level) (state.getLogger name level).1 := by
  cases state.askTurn name level with
  | given level_eq named known asked =>
    rw [asked]
    refine ⟨?_, ?_, fun other ungiven => ?_⟩
    · rw [handlers_giveLevel, handlers_use]
    · rw [files_giveLevel, files_use]
    · have different : ¬ SameLogger name other := by
        subst level_eq
        exact fun same => ungiven ⟨same, named, Option.isSome_of_eq_some known⟩
      rw [ownLevel_giveLevel_of_not_sameLogger different, ownLevel_use]
  | kept asked =>
    rw [asked]
    exact ⟨state.handlers_use name, state.files_use name, fun other _ => state.ownLevel_use name other⟩

/-! ## Set-up -/

/-- Adding a file handler fails and leaves no more than directories, or the file is there. -/
theorem addFile_cases (state : State) (level : Nat) (directory : Path) (name : String) :
    (∃ files fault, files.contents = state.files.contents ∧
      state.addFile level directory name = ({ state with files }, some (.file fault))) ∨
    ∃ files path, state.files.Opens files ∧ files.hasFile path = true ∧
      state.addFile level directory name
        = ({ state with files, handlers := state.handlers ++ [.file level path] }, none) := by
  rw [addFile]
  -- the directory is made first, which leaves the contents of all files alone
  have untouched := state.files.contents_makeFolders directory.reverse
  cases made : state.files.makeFolders directory.reverse with
  | mk files fault =>
    rw [made] at untouched
    cases fault with
    | some fault => exact .inl ⟨files, fault, untouched, rfl⟩
    | none =>
      cases opened : files.openAppend (directory ++ Path.ofText name).normal with
      | error fault => exact .inl ⟨files, fault, untouched, by simp only [opened]⟩
      | ok next =>
        obtain ⟨opens, present⟩ := Files.openAppend_eq_ok opened
        refine .inr ⟨next, _, fun path => ?_, present, by simp only [opened]⟩
        rw [← Files.content?_of_contents untouched]
        exact opens path

/-- All that a set-up can do: nothing, when its level is unknown; else set the level and the console
handler, and then make no file handler, fail to make one, or make one for a file that is there. -/
inductive SetupTurn (settings : Settings) (request : SetupRequest) (state : State) : Prop
  | unknown (unnamed : levelOfText? (request.levelText settings) = none)
      (done : state.setup settings request = (state, some .unknownLevel))
  | fileless {level : Nat} (known : levelOfText? (request.levelText settings) = some level)
      (unnamed : request.fileName? settings = none)
      (done : state.setup settings request
        = ({ state with
              rootLevel := level
              handlers := request.consoleHandlers settings level }, none))
  | failed {level : Nat} {name : String} {files : Files} {fault : FileFault}
      (known : levelOfText? (request.levelText settings) = some level)
      (named : request.fileName? settings = some name)
      (untouched : files.contents = state.files.contents)
      (done : state.setup settings request
        = ({ state with
              rootLevel := level
              handlers := request.consoleHandlers settings level
              files }, some (.file fault)))
  | opened {level : Nat} {name : String} {files : Files} {path : Path}
      (known : levelOfText? (request.levelText settings) = some level)
      (named : request.fileName? settings = some name)
      (opens : state.files.Opens files)
      (present : files.hasFile path = true)
      (done : state.setup settings request
        = ({ state with
              rootLevel := level
              handlers := request.consoleHandlers settings level ++ [.file level path]
              files }, none))

theorem setupTurn (settings : Settings) (request : SetupRequest) (state : State) :
    SetupTurn settings request state := by
  cases known : levelOfText? (request.levelText settings) with
  | none => exact .unknown known (by rw [setup, known])
  | some level =>
    cases named : request.fileName? settings with
    | none => exact .fileless known named (by rw [setup, known]; simp only [named])
    | some name =>
      have done : state.setup settings request
          = State.addFile { state with
              rootLevel := level
              handlers := request.consoleHandlers settings level }
            level (request.directoryPath settings) name := by
        rw [setup, known]
        simp only [named]
      rcases addFile_cases { state with
          rootLevel := level
          handlers := request.consoleHandlers settings level }
          level (request.directoryPath settings) name with
        ⟨files, fault, untouched, added⟩ | ⟨files, path, opens, present, added⟩
      · exact .failed known named untouched (done.trans added)
      · exact .opened known named opens present (done.trans added)

/-- A set-up adds no text to any file. -/
theorem opens_setup (settings : Settings) (request : SetupRequest) (state : State) :
    state.files.Opens (state.setup settings request).1.files := by
  cases setupTurn settings request state with
  | unknown _ done | fileless _ _ done =>
    rw [done]
    exact .of_contents rfl
  | failed _ _ untouched done =>
    rw [done]
    exact .of_contents untouched
  | opened _ _ opens _ done =>
    rw [done]
    exact opens

/-! ## Messages -/

/-- A handler that writes to a file. -/
def WritesTo (handlers : List Handler) (path : Path) : Prop :=
  ∃ level, Handler.file level path ∈ handlers

theorem grows_handle (record : Entry) (number : Int) (handler : Handler) (files : Files) :
    files.Grows (handle record number handler files).2 := by
  unfold handle
  split
  · cases handler with
    | console _ formatter => exact .refl files
    | file _ path => exact files.grows_append path _
  · exact .refl files

theorem content?_handle (record : Entry) (number : Int) {handler : Handler}
    (elsewhere : ∀ level, handler ≠ .file level path) (files : Files) :
    (handle record number handler files).2.content? path = files.content? path := by
  unfold handle
  split
  · cases handler with
    | console _ formatter => rfl
    | file level own =>
      refine Files.content?_append_of_ne ?_ _
      rintro rfl
      exact elsewhere level rfl
  · rfl

theorem grows_handleAll (record : Entry) (number : Int) (handlers : List Handler) (files : Files) :
    files.Grows (handleAll record number handlers files).2 := by
  induction handlers generalizing files with
  | nil => exact .refl files
  | cons handler rest ih => exact (grows_handle record number handler files).trans (ih _)

/-- A file that no handler writes to stays as it is. -/
theorem content?_handleAll (record : Entry) (number : Int) {handlers : List Handler}
    (elsewhere : ¬ WritesTo handlers path) (files : Files) :
    (handleAll record number handlers files).2.content? path = files.content? path := by
  induction handlers generalizing files with
  | nil => rfl
  | cons handler rest ih =>
    -- neither this handler nor those after it have the file
    have first : ∀ level, handler ≠ .file level path :=
      fun level same => elsewhere ⟨level, List.mem_cons.mpr (.inl same.symm)⟩
    have later : ¬ WritesTo rest path :=
      fun ⟨level, writes⟩ => elsewhere ⟨level, List.mem_cons_of_mem _ writes⟩
    exact (ih later _).trans (content?_handle record number first files)

/-- A message is dropped, or all handlers of the root get it; nothing else becomes of it. -/
theorem log_eq (state : State) (name : String) (number : Int) (message : String) :
    state.log name number message = ("", state.use name) ∨
    state.log name number message
      = ((handleAll (entry name number message) number state.handlers state.files).1,
        { state.use name with
          files := (handleAll (entry name number message) number state.handlers state.files).2 }) := by
  rw [← state.handlers_use name, ← state.files_use name, log]
  split
  · exact .inr rfl
  · exact .inl rfl

/-- A message changes no handler, no level and no file but those of the handlers. -/
structure OnlyWrites (state next : State) : Prop where
  handlers : next.handlers = state.handlers
  rootLevel : next.rootLevel = state.rootLevel
  grows : state.files.Grows next.files
  elsewhere : ∀ path, ¬ WritesTo state.handlers path →
    next.files.content? path = state.files.content? path

theorem onlyWrites_log (state : State) (name : String) (number : Int) (message : String) :
    state.OnlyWrites (state.log name number message).2 := by
  rcases state.log_eq name number message with dropped | taken
  · rw [dropped]
    refine ⟨state.handlers_use name, state.rootLevel_use name, ?_, fun path _ => ?_⟩
    · rw [files_use]
      exact .refl _
    · rw [files_use]
  · rw [taken]
    exact ⟨state.handlers_use name, state.rootLevel_use name, grows_handleAll _ _ _ _,
      fun path elsewhere => content?_handleAll _ _ elsewhere _⟩

/-! ## Runs -/

theorem state_perform_setup (settings : Settings) (state : State) (request : SetupRequest) :
    (state.perform settings (.setup request)).state = (state.setup settings request).1 := by
  rw [perform]

theorem state_perform_getLogger (settings : Settings) (state : State) (name : String)
    (level : Option String) :
    (state.perform settings (.getLogger name level)).state = (state.getLogger name level).1 := by
  rw [perform]

theorem state_perform_log (settings : Settings) (state : State) (name : String) (number : Int)
    (message : String) :
    (state.perform settings (.log name number message)).state
      = (state.log name number message).2 := by
  rw [perform]

theorem console_perform_log (settings : Settings) (state : State) (name : String) (number : Int)
    (message : String) :
    (state.perform settings (.log name number message)).console
      = (state.log name number message).1 := by
  rw [perform]

/-- Whatever is done to the log, files only grow. -/
theorem grows_perform (settings : Settings) (state : State) (step : Step) :
    state.files.Grows (state.perform settings step).state.files := by
  cases step with
  | setup request =>
    rw [state_perform_setup]
    exact (opens_setup settings request state).grows
  | getLogger name level =>
    rw [state_perform_getLogger, (state.onlyGives_getLogger name level).files]
    exact .refl _
  | log name number message =>
    rw [state_perform_log]
    exact (state.onlyWrites_log name number message).grows

/-- The state after steps. -/
def after (settings : Settings) (state : State) : List Step → State
  | [] => state
  | step :: rest => (state.perform settings step).state.after settings rest

end State

end TableModel.Logging
