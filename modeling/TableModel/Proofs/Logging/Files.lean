/-
# TableModel.Proofs.Logging.Files — what becomes of the contents of files

Three things are done to files. Making directories leaves their contents alone, however far it comes
before it fails. Opening a file adds it, empty, if it is missing. Appending a text adds it at the end
of one file. So files only grow.
-/
import TableModel.Logging.Files

namespace TableModel.Logging

namespace Files

variable {files next made : Files} {path other : Path} {text : String}

/-! ## Changes of contents -/

/-- Every file is still there, and what it contained comes first in it. -/
def Grows (files next : Files) : Prop :=
  ∀ path text, files.content? path = some text → ∃ more, next.content? path = some (text ++ more)

/-- Files are added at most, and those that are added are empty. -/
def Opens (files next : Files) : Prop :=
  ∀ path, next.content? path = files.content? path ∨
    files.content? path = none ∧ next.content? path = some ""

theorem Grows.refl (files : Files) : files.Grows files :=
  fun _ text found => ⟨"", by rw [String.append_empty]; exact found⟩

theorem Grows.trans {last : Files} (first : files.Grows next) (second : next.Grows last) :
    files.Grows last := by
  intro path text found
  obtain ⟨more, found⟩ := first path text found
  obtain ⟨most, found⟩ := second path _ found
  exact ⟨more ++ most, by rw [found, String.append_assoc]⟩

theorem content?_cons (folders : List Path) (key : Path) (text : String)
    (rest : List (Path × String)) (path : Path) :
    content? ⟨folders, (key, text) :: rest⟩ path
      = if path = key then some text else content? ⟨folders, rest⟩ path := by
  by_cases same : path = key
  · subst same
    simp [content?]
  · have differs : (path == key) = false := beq_false_of_ne same
    simp only [content?, List.lookup_cons, differs, if_neg same]

theorem content?_of_contents (same : next.contents = files.contents) (path : Path) :
    next.content? path = files.content? path := by
  rw [content?, content?, same]

theorem Opens.of_contents (same : next.contents = files.contents) : files.Opens next :=
  fun path => .inl (content?_of_contents same path)

theorem Opens.grows (opens : files.Opens next) : files.Grows next := by
  intro path text found
  rcases opens path with same | ⟨missing, -⟩
  · exact ⟨"", by rw [same, found, String.append_empty]⟩
  · rw [missing] at found
    cases found

/-! ## Making directories -/

theorem contents_makeFolder {names : List String} (made : files.makeFolder names = .ok next) :
    next.contents = files.contents := by
  cases names with
  | nil => cases made
  | cons name parents =>
    rw [makeFolder] at made
    cases walked : files.walk [] parents.reverse with
    | error fault =>
      rw [walked] at made
      cases made
    | ok parent =>
      rw [walked] at made
      by_cases taken : (files.hasFolder (parent.step name) || files.hasFile (parent.step name)) = true
      · simp only [bind, Except.bind, taken, if_true] at made
        cases made
      · simp only [bind, Except.bind, taken] at made
        cases made
        rfl

/-- Directories are made without touching a file, whether all of them can be made or not. -/
theorem contents_makeFolders (files : Files) (names : List String) :
    (files.makeFolders names).1.contents = files.contents := by
  induction names generalizing files with
  | nil => rfl
  | cons name parents ih =>
    rw [makeFolders]
    split
    · exact contents_makeFolder ‹_›
    · -- The directories above are made first, and then this one.
      have above := ih files
      split
      · rename_i failed
        rw [failed] at above
        exact above
      · rename_i done
        rw [done] at above
        split
        · exact (contents_makeFolder ‹_›).trans above
        · split <;> exact above
    · split <;> rfl

/-! ## Opening -/

/-- A file that has been opened is there, and at most it has been added. -/
theorem openAppend_eq_ok (opened : files.openAppend path = .ok next) :
    files.Opens next ∧ next.hasFile path = true := by
  rw [openAppend] at opened
  cases walked : files.walk [] path.dropLast with
  | error fault =>
    rw [walked] at opened
    cases opened
  | ok folder =>
    rw [walked] at opened
    simp only [bind, Except.bind] at opened
    split at opened
    · cases opened
    · split at opened
      · rename_i present
        cases opened
        exact ⟨.of_contents rfl, present⟩
      · rename_i missing
        cases opened
        refine ⟨fun other => ?_, by rw [hasFile, content?_cons, if_pos rfl, Option.isSome_some]⟩
        by_cases same : other = path
        · subst same
          refine .inr ⟨?_, by rw [content?_cons, if_pos rfl]⟩
          simpa [hasFile] using missing
        · exact .inl (by rw [content?_cons, if_neg same])

/-! ## Appending -/

/-- A text is added at the end of one file, if the file is there. -/
theorem content?_append (files : Files) (path : Path) (text : String) (other : Path) :
    (files.append path text).content? other
      = if other = path then (files.content? other).map (· ++ text) else files.content? other := by
  obtain ⟨folders, contents⟩ := files
  rw [append]
  induction contents with
  | nil => simp [content?]
  | cons entry rest ih =>
    obtain ⟨key, content⟩ := entry
    by_cases here : other = key
    · subst here
      by_cases same : other = path <;> simp [content?_cons, same]
    · rw [content?_cons, if_neg here, List.map_cons, ← ih]
      split <;> rw [content?_cons, if_neg here]

theorem content?_append_self (found : files.content? path = some text) (more : String) :
    (files.append path more).content? path = some (text ++ more) := by
  rw [content?_append, if_pos rfl, found, Option.map_some]

theorem content?_append_of_ne (different : other ≠ path) (more : String) :
    (files.append path more).content? other = files.content? other := by
  rw [content?_append, if_neg different]

theorem grows_append (files : Files) (path : Path) (more : String) :
    files.Grows (files.append path more) := by
  intro other text found
  by_cases same : other = path
  · subst same
    exact ⟨more, content?_append_self found more⟩
  · exact ⟨"", by rw [content?_append_of_ne same, found, String.append_empty]⟩

theorem Grows.hasFile (grows : files.Grows next) (present : files.hasFile path = true) :
    next.hasFile path = true := by
  obtain ⟨text, found⟩ := Option.isSome_iff_exists.mp present
  obtain ⟨more, found⟩ := grows path text found
  exact Option.isSome_iff_exists.mpr ⟨_, found⟩

end Files

end TableModel.Logging
