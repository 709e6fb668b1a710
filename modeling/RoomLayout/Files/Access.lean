import RoomLayout.Files.Basic

/-!
# Access to files

What the program asks of a file system. It is written once over this interface,
and runs on the file system of the machine as well as on one that is a value.
-/

namespace RoomLayout

/-- The ways in which the program uses files. -/
class FileAccess (m : Type → Type) where
  /-- Whether a path leads to something. -/
  leadsSomewhere : String → m Bool
  /-- Whether a path leads to a regular file. -/
  isFile : String → m Bool
  /-- Read a text file. -/
  readText : String → m (Except FileError String)
  /-- Make a directory and those above it. -/
  createDirectories : String → m (Except FileError Unit)
  /-- Write a text file in a directory that exists. -/
  writeText : String → String → m (Except FileError Unit)

/-- Change the files, or leave them as they are when that fails. -/
def changeFiles (change : Files → Except FileError Files) : StateM Files (Except FileError Unit) :=
  fun files =>
    match change files with
    | .ok files => (.ok (), files)
    | .error error => (.error error, files)

/-- Files that are a value. -/
instance : FileAccess (StateM Files) where
  leadsSomewhere path := fun files => (files.leadsSomewhere path, files)
  isFile path := fun files => (files.isFile path, files)
  readText path := fun files => (files.readText path, files)
  createDirectories path := changeFiles fun files => files.createDirectories path
  writeText path text := changeFiles fun files => files.writeText path text

end RoomLayout
