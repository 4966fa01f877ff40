/-
# TableModel.Proofs.Logging.Agreement — the console and the file say the same

Files only grow, a set-up adds no text to them, and a message goes to the file of the file handler at
most. A root with a handler for the console and one for a file has both at one level, so a message goes
to both or to neither. What the console then shows differs from what the file is given by colour codes
alone, as long as the message and the name of its logger have no escape characters.
-/
import TableModel.Proofs.Logging.Colors
import TableModel.Proofs.Logging.Handlers

namespace TableModel.Logging

namespace State

variable {state : State} {shown kept level : Nat} {formatter : Formatter} {path : Path}

/-- What a step may do to files: let them grow, but by a message only, and only the file of a
handler. -/
structure KeepsFiles (settings : Settings) (state : State) (step : Step) : Prop where
  grows : state.files.Grows (state.perform settings step).state.files
  setup : ∀ request, step = .setup request →
    state.files.Opens (state.perform settings step).state.files
  log : ∀ name number message, step = .log name number message →
    ∀ path, ¬ WritesTo state.handlers path →
      (state.perform settings step).state.files.content? path = state.files.content? path

theorem keepsFiles_perform (settings : Settings) (state : State) (step : Step) :
    state.KeepsFiles settings step where
  grows := grows_perform settings state step
  setup := by
    rintro request rfl
    rw [state_perform_setup]
    exact opens_setup settings request state
  log := by
    rintro name number message rfl
    rw [state_perform_log]
    exact (state.onlyWrites_log name number message).elsewhere

/-- What a console and a file make of a record: nothing, or the console shows the line of the record as
it is formatted, and the same line is added to the file when its colours are taken out. -/
inductive LoggedAlike (state : State) (formatter : Formatter) (path : Path) (record : Entry)
    (result : StepResult) : Prop
  | nothing (console : result.console = "") (files : result.state.files = state.files)
  | line {before added : String}
      (console : result.console = formatter.format record Template.line ++ "\n")
      (added_eq : added = Template.line.format record ++ "\n")
      (found : state.files.content? path = some before)
      (file : result.state.files.content? path = some (before ++ added))
      (alike : uncolored result.console = added)
      (plain : Unescaped added)

/-- Handlers of one level all write a record or all leave it. -/
theorem handleAll_pair (record : Entry) (number : Int) (level : Nat) (formatter : Formatter)
    (path : Path) (files : Files) :
    handleAll record number [.console level formatter, .file level path] files
      = if (level : Int) ≤ number then
          (formatter.format record Template.line ++ "\n",
            files.append path (Template.line.format record ++ "\n"))
        else ("", files) := by
  by_cases reaches : (level : Int) ≤ number <;> simp [handleAll, handle, Handler.level, reaches]

/-- A message goes to both handlers of a level or to neither. -/
theorem log_pair (pair : state.handlers = [.console level formatter, .file level path])
    (name : String) (number : Int) (message : String) :
    (state.log name number message).1 = "" ∧
        (state.log name number message).2.files = state.files ∨
      (state.log name number message).1
          = formatter.format (entry name number message) Template.line ++ "\n" ∧
        (state.log name number message).2.files
          = state.files.append path (Template.line.format (entry name number message) ++ "\n") := by
  rcases state.log_eq name number message with dropped | taken
  · rw [dropped]
    exact .inl ⟨rfl, state.files_use name⟩
  · rw [taken, pair, handleAll_pair]
    by_cases reaches : (level : Int) ≤ number
    · rw [if_pos reaches]
      exact .inr ⟨rfl, rfl⟩
    · rw [if_neg reaches]
      exact .inl ⟨rfl, rfl⟩

theorem Equipped.handlers_eq (equipped : state.Equipped level)
    (console : .console shown formatter ∈ state.handlers) (file : .file kept path ∈ state.handlers) :
    state.handlers = [.console level formatter, .file level path] ∧
      ∃ before, state.files.content? path = some before := by
  obtain ⟨console?, file?, arranged, present⟩ := equipped
  rw [arranged] at console file
  obtain ⟨-, rfl⟩ := console_mem_arrangement.mp console
  obtain ⟨-, rfl⟩ := file_mem_arrangement.mp file
  exact ⟨arranged, Option.isSome_iff_exists.mp (present path rfl)⟩

theorem Equipped.loggedAlike (equipped : state.Equipped level)
    (console : .console shown formatter ∈ state.handlers) (file : .file kept path ∈ state.handlers)
    (settings : Settings) {name message : String} (plainName : Unescaped name)
    (plainMessage : Unescaped message) (number : Int) :
    state.LoggedAlike formatter path (entry name number message)
      (state.perform settings (.log name number message)) := by
  obtain ⟨pair, before, found⟩ := equipped.handlers_eq console file
  have record := isUnescaped_entry plainName plainMessage number
  have newline : Unescaped "\n" := by decide
  rcases log_pair pair name number message with ⟨silent, untouched⟩ | ⟨shown, added⟩
  · exact .nothing silent untouched
  · refine .line shown rfl found ?_ ?_ ?_
    · rw [state_perform_log, added, Files.content?_append_self found]
    · rw [console_perform_log, shown]
      exact uncolored_formatter_format formatter record isUnescaped_line newline
    · exact unescaped_append.mpr ⟨Template.unescaped_format record isUnescaped_line, newline⟩

/-- The next step after steps: files only grow, and a console and a file get the same. -/
structure Agrees (settings : Settings) (start : State) (steps : List Step) (step : Step) : Prop where
  files : (start.after settings steps).KeepsFiles settings step
  alike : ∀ {shown kept : Nat} {formatter : Formatter} {path : Path} {name : String} {number : Int}
    {message : String},
    .console shown formatter ∈ (start.after settings steps).handlers →
    .file kept path ∈ (start.after settings steps).handlers →
    step = .log name number message → Unescaped name → Unescaped message →
    (start.after settings steps).LoggedAlike formatter path (entry name number message)
      ((start.after settings steps).perform settings step)

/-- Without handlers at first, console and file agree at every step of every run, and files only
grow. -/
theorem console_agrees_with_file (settings : Settings) (start : State) (steps : List Step)
    (step : Step) (bare : start.handlers = []) : Agrees settings start steps step := by
  obtain ⟨level, equipped, -⟩ := (equipped_of_no_handlers bare start.rootLevel).after settings steps
  refine ⟨keepsFiles_perform settings _ step, ?_⟩
  rintro shown kept formatter path name number message console file rfl plainName plainMessage
  exact equipped.loggedAlike console file settings plainName plainMessage number

theorem console_agrees_with_file_in_color :
    ({} : State).handlers = [] ∧
    (({} : State).after (Settings.ofEnvironment []) [.setup coloredWithFile]).LoggedAlike
      .colored ["a"] (entry "db" 30 "late")
      ((({} : State).after (Settings.ofEnvironment []) [.setup coloredWithFile]).perform
        (Settings.ofEnvironment []) (.log "db" 30 "late")) := by
  have both := handlers_after_coloredWithFile (Settings.ofEnvironment [])
  have console : Handler.console 20 .colored ∈
      (({} : State).after (Settings.ofEnvironment []) [.setup coloredWithFile]).handlers := by
    rw [both]
    exact List.mem_cons_self
  have file : Handler.file 20 ["a"] ∈
      (({} : State).after (Settings.ofEnvironment []) [.setup coloredWithFile]).handlers := by
    rw [both]
    exact List.mem_cons_of_mem _ List.mem_cons_self
  exact ⟨rfl, (console_agrees_with_file (Settings.ofEnvironment []) {} [.setup coloredWithFile]
    (.log "db" 30 "late") rfl).alike console file rfl (by decide) (by decide)⟩

end State

end TableModel.Logging
