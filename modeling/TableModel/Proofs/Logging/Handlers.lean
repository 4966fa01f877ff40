/-
# TableModel.Proofs.Logging.Handlers — handlers never pile up

A set-up puts its handlers in place of those before it, also when it fails on its file, so the root
never has more than one handler for the console and one for a file, in this order and at one level.
The level of the root is the same until a level is given to the root itself. These handlers are the
invariant `Equipped`; no other use of the log changes them.
-/
import TableModel.Proofs.Logging.Turns

namespace TableModel.Logging

/-- The handlers of a level: one for the console and then one for a file, each if there is one. -/
def arrangement (level : Nat) (console : Option Formatter) (file : Option Path) : List Handler :=
  (console.map (Handler.console level)).toList ++ (file.map (Handler.file level)).toList

theorem level_of_mem_arrangement {level : Nat} {console : Option Formatter} {file : Option Path}
    {handler : Handler} (mem : handler ∈ arrangement level console file) : handler.level = level := by
  simp only [arrangement, List.mem_append, Option.mem_toList, Option.map_eq_some_iff] at mem
  rcases mem with ⟨_, -, rfl⟩ | ⟨_, -, rfl⟩ <;> rfl

theorem console_mem_arrangement {level shown : Nat} {console : Option Formatter} {file : Option Path}
    {formatter : Formatter} :
    Handler.console shown formatter ∈ arrangement level console file ↔
      shown = level ∧ console = some formatter := by
  cases console <;> cases file <;> simp [arrangement, eq_comm]

theorem file_mem_arrangement {level kept : Nat} {console : Option Formatter} {file : Option Path}
    {path : Path} :
    Handler.file kept path ∈ arrangement level console file ↔ kept = level ∧ file = some path := by
  cases console <;> cases file <;> simp [arrangement, eq_comm]

namespace State

variable {settings : Settings} {start state : State} {steps : List Step} {step : Step} {level : Nat}

/-- The root has handlers of one level only, at most one for the console and then at most one for a
file, and the file is there. -/
def Equipped (state : State) (level : Nat) : Prop :=
  ∃ console file, state.handlers = arrangement level console file ∧
    ∀ path, file = some path → state.files.hasFile path = true

theorem equipped_of_no_handlers (bare : state.handlers = []) (level : Nat) : state.Equipped level :=
  ⟨none, none, bare, nofun⟩

/-- What leaves the handlers alone and takes no file away keeps the invariant. -/
theorem Equipped.of_grows {next : State} (equipped : state.Equipped level)
    (handlers : next.handlers = state.handlers) (grows : state.files.Grows next.files) :
    next.Equipped level := by
  obtain ⟨console, file, arranged, present⟩ := equipped
  exact ⟨console, file, handlers.trans arranged, fun path found => grows.hasFile (present path found)⟩

/-! ## One step -/

theorem consoleHandlers_eq (request : SetupRequest) (settings : Settings) (level : Nat) :
    ∃ console, request.consoleHandlers settings level = arrangement level console none := by
  rw [SetupRequest.consoleHandlers]
  split
  · exact ⟨some _, rfl⟩
  · exact ⟨none, rfl⟩

/-- A set-up leaves its own handlers at the level that it gives to the root, or changes nothing. -/
theorem equipped_setup (settings : Settings) (request : SetupRequest) (state : State) :
    (state.setup settings request).1.Equipped (state.setup settings request).1.rootLevel ∨
      (state.setup settings request).1 = state := by
  cases setupTurn settings request state with
  | unknown _ done =>
    rw [done]
    exact .inr rfl
  | @fileless level _ _ done | @failed level _ _ _ _ _ _ done =>
    obtain ⟨console, shown⟩ := consoleHandlers_eq request settings level
    rw [done]
    exact .inl ⟨console, none, shown, nofun⟩
  | @opened level _ files path _ _ _ present done =>
    obtain ⟨console, shown⟩ := consoleHandlers_eq request settings level
    rw [done]
    refine .inl ⟨console, some path, ?_, fun other found => Option.some.inj found ▸ present⟩
    simp only [shown, arrangement, Option.map_none, Option.toList_none, List.append_nil,
      Option.map_some, Option.toList_some]

/-- A step keeps the handlers in order, and at the level of the root if they are and no level is given
to the root. -/
theorem Equipped.perform (equipped : state.Equipped level) (settings : Settings) (step : Step) :
    ∃ next, (state.perform settings step).state.Equipped next ∧
      (¬ step.GivesLevel "root" → level = state.rootLevel →
        next = (state.perform settings step).state.rootLevel) := by
  cases step with
  | setup request =>
    rw [state_perform_setup]
    rcases equipped_setup settings request state with renewed | unchanged
    · exact ⟨_, renewed, fun _ _ => rfl⟩
    · rw [unchanged]
      exact ⟨level, equipped, fun _ same => same⟩
  | getLogger name asked =>
    have only := state.onlyGives_getLogger name asked
    have grows := grows_perform settings state (.getLogger name asked)
    rw [state_perform_getLogger] at grows ⊢
    -- The root's own level is its level.
    exact ⟨level, equipped.of_grows only.handlers grows,
      fun ungiven same => same.trans (only.levels "root" ungiven).symm⟩
  | log name number message =>
    have only := state.onlyWrites_log name number message
    rw [state_perform_log]
    exact ⟨level, equipped.of_grows only.handlers only.grows,
      fun _ same => same.trans only.rootLevel.symm⟩

/-! ## Runs -/

theorem Equipped.after (equipped : start.Equipped level) (settings : Settings) (steps : List Step) :
    ∃ last, (start.after settings steps).Equipped last ∧
      ((∀ step ∈ steps, ¬ step.GivesLevel "root") → level = start.rootLevel →
        last = (start.after settings steps).rootLevel) := by
  induction steps generalizing start level with
  | nil => exact ⟨level, equipped, fun _ same => same⟩
  | cons step rest ih =>
    obtain ⟨next, equipped, same⟩ := equipped.perform settings step
    obtain ⟨last, equipped, later⟩ := ih equipped
    refine ⟨last, equipped, fun ungiven started => later ?_ (same ?_ started)⟩
    · exact fun step mem => ungiven step (List.mem_cons_of_mem _ mem)
    · exact ungiven step List.mem_cons_self

/-- A set-up that asks for a coloured console and for a file. -/
def coloredWithFile : SetupRequest where
  level := some "INFO"
  file := some "a"
  directory := some ""
  colors := some true

theorem handlers_after_coloredWithFile (settings : Settings) :
    (({} : State).after settings [.setup coloredWithFile]).handlers
      = [.console 20 .colored, .file 20 ["a"]] := by
  have known : levelOfText? "INFO" = some 20 := by decide +kernel
  have directory : Path.ofText "" = [] := by
    rw [Path.ofText, String.splitOn, if_neg (by decide), String.splitOnAux, if_pos (by decide)]
    rfl
  have name : Path.ofText "a" = ["a"] := by
    rw [Path.ofText, String.splitOn, if_neg (by decide), String.splitOnAux, if_neg (by decide),
      if_neg (by decide), String.splitOnAux, if_pos (by decide)]
    decide
  have opening : ({} : State).after settings [.setup coloredWithFile]
      = (State.addFile { rootLevel := 20, handlers := [.console 20 .colored] } 20 (Path.ofText "") "a").1 := by
    simp [State.after, State.perform, setup, coloredWithFile, SetupRequest.levelText,
      SetupRequest.fileName?, SetupRequest.directoryPath, SetupRequest.consoleHandlers, known,
      Option.filter]
  rw [opening, directory, addFile, name]
  rfl

/-- Handlers and levels after steps: the handlers are arranged at one level, it is the level of the root
unless a step has given the root another one, and asking for a logger changes nothing but the level
that it gives. -/
structure InOrder (settings : Settings) (start : State) (steps : List Step) : Prop where
  arranged : ∃ level console file,
    (start.after settings steps).handlers = arrangement level console file
  levelled : (∀ step ∈ steps, ¬ step.GivesLevel "root") →
    ∀ handler ∈ (start.after settings steps).handlers,
      handler.level = (start.after settings steps).rootLevel
  asking : ∀ name level, (start.after settings steps).OnlyGives (.getLogger name level)
    ((start.after settings steps).perform settings (.getLogger name level)).state

/-- Without handlers at first, handlers never pile up, whatever is done and whatever fails. -/
theorem handlers_never_pile_up (settings : Settings) (start : State) (steps : List Step)
    (bare : start.handlers = []) : InOrder settings start steps := by
  obtain ⟨level, ⟨console, file, arranged, -⟩, same⟩ :=
    (equipped_of_no_handlers bare start.rootLevel).after settings steps
  refine ⟨⟨level, console, file, arranged⟩, fun ungiven handler mem => ?_, fun name asked => ?_⟩
  · rw [arranged] at mem
    rw [level_of_mem_arrangement mem, same ungiven rfl]
  · rw [state_perform_getLogger]
    exact (start.after settings steps).onlyGives_getLogger name asked

theorem handlers_never_pile_up_after_failure :
    (({} : State).after (Settings.ofEnvironment []) [.setup coloredWithFile]).handlers
      = [.console 20 .colored, .file 20 ["a"]] ∧
    InOrder (Settings.ofEnvironment []) {} [.setup coloredWithFile, .setup { level := some "LOUD" },
      .getLogger "root" (some "debug"), .log "db" 30 "late", .setup coloredWithFile] :=
  ⟨handlers_after_coloredWithFile _, handlers_never_pile_up _ _ _ rfl⟩

end State

end TableModel.Logging
