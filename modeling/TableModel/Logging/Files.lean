/-
# TableModel.Logging.Files — directories and the log files in them

Log files live below a start directory that is empty at first. A path is the list of its names; it
may go up by `..`. A file system of this kind knows which paths are directories and what the files
contain. Nothing is ever removed, and files only grow.

The names of directories and files are relative. An absolute name, with a slash in front, would lead
out of the start directory, and the name of a file would take the place of its directory; such names
are left out, and a slash in front counts for no more than a slash elsewhere.

Making a directory makes those above it first where they are missing; a directory that exists is
made already. A file is opened for appending: it is created empty if it is missing, in a directory
that has to exist.
-/

namespace TableModel.Logging

/-- A path, from the start directory down. -/
abbrev Path := List String

namespace Path

/-- The path of a relative name: the names between slashes, without empty ones and single dots. -/
def ofText (text : String) : Path :=
  (text.splitOn "/").filter fun name => name != "" && name != "."

/-- The text of a path. -/
def text (path : Path) : String :=
  String.intercalate "/" path

/-- The path after one more name, which may be a step up. -/
def step (path : Path) (name : String) : Path :=
  if name = ".." then path.dropLast else path ++ [name]

/-- The path with every step up taken. -/
def normal (path : Path) : Path :=
  path.foldl step []

end Path

/-- The ways in which a file or a directory cannot be used. -/
inductive FileFault where
  | notFound
  | alreadyExists
  | notADirectory
  | isADirectory
  deriving DecidableEq, Repr, Inhabited

/-- The directories below the start directory, and the files with their contents. -/
structure Files where
  folders : List Path := []
  contents : List (Path × String) := []
  deriving DecidableEq, Repr, Inhabited

namespace Files

/-! ## Looking -/

/-- Whether a normal path is a directory. -/
def hasFolder (files : Files) (path : Path) : Bool :=
  path.isEmpty || files.folders.contains path

/-- The contents of a file. -/
def content? (files : Files) (path : Path) : Option String :=
  files.contents.lookup path

/-- Whether a normal path is a file. -/
def hasFile (files : Files) (path : Path) : Bool :=
  (files.content? path).isSome

/-- The directory that names lead to from a directory, one after the other. -/
def walk (files : Files) (start : Path) : List String → Except FileFault Path
  | [] => .ok start
  | name :: rest =>
    let next := start.step name
    if files.hasFolder next then files.walk next rest
    else if files.hasFile next then .error .notADirectory
    else .error .notFound

/-- Whether a path leads to a directory. -/
def isFolder (files : Files) (path : Path) : Bool :=
  (files.walk [] path).isOk

/-! ## Making directories -/

/-- Makes one directory in a directory that exists; `path` is given from its last name up. -/
def makeFolder (files : Files) (path : List String) : Except FileFault Files :=
  match path with
  | [] => .error .alreadyExists
  | name :: parents => do
    let parent ← files.walk [] parents.reverse
    let folder := parent.step name
    if files.hasFolder folder || files.hasFile folder then throw .alreadyExists
    return { files with folders := folder :: files.folders }

/-- Makes a directory and, where they are missing, those above it; `path` is given from its last
name up. What has been made stays when a later step fails. -/
def makeFolders (files : Files) (path : List String) : Files × Option FileFault :=
  match path with
  | [] => (files, none)
  | name :: parents =>
    match files.makeFolder (name :: parents) with
    | .ok made => (made, none)
    | .error .notFound =>
      match files.makeFolders parents with
      | (above, some fault) => (above, some fault)
      | (above, none) =>
        match above.makeFolder (name :: parents) with
        | .ok made => (made, none)
        | .error fault =>
          if above.isFolder (name :: parents).reverse then (above, none) else (above, some fault)
    | .error fault =>
      if files.isFolder (name :: parents).reverse then (files, none) else (files, some fault)

/-! ## Writing files -/

/-- Opens a file for appending, by its normal path. -/
def openAppend (files : Files) (path : Path) : Except FileFault Files := do
  let _ ← files.walk [] path.dropLast
  if files.hasFolder path then throw .isADirectory
  if files.hasFile path then return files
  return { files with contents := (path, "") :: files.contents }

/-- Appends a text to a file. -/
def append (files : Files) (path : Path) (text : String) : Files :=
  { files with contents := files.contents.map fun entry =>
      if entry.1 = path then (entry.1, entry.2 ++ text) else entry }

/-- The files with their contents, in the order of the texts of their paths. -/
def listing (files : Files) : List (String × String) :=
  (files.contents.map fun entry => (entry.1.text, entry.2)).mergeSort fun a b => a.1 ≤ b.1

end Files

end TableModel.Logging
