import RoomLayout.Files.Path

/-!
# Files

A file system as a value: directories and files by location. Paths are followed
name by name from the working directory, so a name is looked up only in a
directory that exists, and `..` leads out of any directory but the root.

There are no symbolic links: where a path leads is told by its names alone, and
`..` leads back to where the directory before it was looked up. The working
directory lies directly below the root.
-/

namespace RoomLayout

/-- Why a file cannot be used. -/
inductive FileError where
  | notFound
  | notADirectory
  | isADirectory
  | alreadyExists
  /-- The content is not text. -/
  | notText
  /-- The text is not of the form that it should have. -/
  | malformed
  /-- Any other reason, in words. -/
  | other (message : String)
  deriving BEq, DecidableEq

namespace FileError

/-- The name of a kind of file errors. -/
def kind : FileError → String
  | notFound => "NotFound"
  | notADirectory => "NotADirectory"
  | isADirectory => "IsADirectory"
  | alreadyExists => "AlreadyExists"
  | notText => "InvalidData"
  | malformed => "InvalidData"
  | other _ => "Other"

/-- The wording of a file error. -/
def message : FileError → String
  | notFound => "No such file or directory (os error 2)"
  | notADirectory => "Not a directory (os error 20)"
  | isADirectory => "Is a directory (os error 21)"
  | alreadyExists => "File exists (os error 17)"
  | notText => "stream did not contain valid UTF-8"
  | malformed => "the content does not have the expected form"
  | other message => message

end FileError

/-- A place in the file system: the names that lead to it from the root. -/
abbrev Location := List String

/-- What is at a location. -/
inductive FileEntry where
  | file (content : ByteArray)
  | directory

/-- The directory in which relative paths start. No path can spell its name. -/
def workingDirectory : Location := [""]

/-- A file system. The root and the working directory always exist. -/
structure Files where
  entries : List (Location × FileEntry)

namespace Files

/-- Nothing but an empty working directory. -/
def empty : Files := ⟨[]⟩

/-- What is at a location, if anything. -/
def entry? (files : Files) (location : Location) : Option FileEntry :=
  if location = [] || location = workingDirectory then some .directory
  else files.entries.lookup location

/-- Put something at a location. -/
def put (files : Files) (location : Location) (entry : FileEntry) : Files :=
  ⟨(location, entry) :: files.entries.filter fun other => other.1 != location⟩

/-- Follow names from a directory. -/
def walk (files : Files) (location : Location) : List String → Except FileError Location
  | [] => .ok location
  | name :: rest =>
    if Path.isIdle name then walk files location rest
    else if name = ".." then walk files location.dropLast rest
    else
      match files.entry? (location ++ [name]) with
      | some .directory => walk files (location ++ [name]) rest
      | some (.file _) => if rest.isEmpty then .ok (location ++ [name]) else .error .notADirectory
      | none => .error .notFound

/-- The directory in which a path starts. -/
def startOf (path : String) : Location := if Path.isAbsolute path then [] else workingDirectory

/-- Where a path leads. -/
def resolve (files : Files) (path : String) : Except FileError Location :=
  if path = "" then .error .notFound else files.walk (startOf path) (Path.segments path)

/-- Whether a path leads to something. -/
def leadsSomewhere (files : Files) (path : String) : Bool := (files.resolve path).isOk

/-- The content of the file at a path. -/
def read (files : Files) (path : String) : Except FileError ByteArray := do
  let location ← files.resolve path
  match files.entry? location with
  | some (.file content) => .ok content
  | some .directory => .error .isADirectory
  | none => .error .notFound

/-- Whether a path leads to a regular file. -/
def isFile (files : Files) (path : String) : Bool := (files.read path).isOk

/-- The text of the file at a path. -/
def readText (files : Files) (path : String) : Except FileError String := do
  let content ← files.read path
  match String.fromUTF8? content with
  | some text => .ok text
  | none => .error .notText

/-- Follow names from a directory, making the directories that are missing. -/
def makeDirectories (files : Files) (location : Location) : List String → Except FileError Files
  | [] => .ok files
  | name :: rest =>
    if Path.isIdle name then makeDirectories files location rest
    else if name = ".." then makeDirectories files location.dropLast rest
    else
      match files.entry? (location ++ [name]) with
      | some .directory => makeDirectories files (location ++ [name]) rest
      | some (.file _) =>
        .error (if rest.all Path.isIdle then .alreadyExists else .notADirectory)
      | none =>
        makeDirectories (files.put (location ++ [name]) .directory) (location ++ [name]) rest

/-- Make the directory at a path, and those above it. -/
def createDirectories (files : Files) (path : String) : Except FileError Files :=
  files.makeDirectories (startOf path) (Path.segments path)

/-- Write a file at a path, in a directory that exists. -/
def write (files : Files) (path : String) (content : ByteArray) : Except FileError Files :=
  if path = "" then .error .notFound
  else do
    let names := Path.segments path
    let directory ← files.walk (startOf path) names.dropLast
    let name := names.getLast?.getD ""
    match files.entry? directory with
    | some .directory =>
      if Path.isIdle name || name = ".." then .error .isADirectory
      else
        match files.entry? (directory ++ [name]) with
        | some .directory => .error .isADirectory
        | _ => .ok (files.put (directory ++ [name]) (.file content))
    | _ => .error .notADirectory

/-- Write a text file at a path. -/
def writeText (files : Files) (path text : String) : Except FileError Files :=
  files.write path text.toUTF8

end Files

end RoomLayout
