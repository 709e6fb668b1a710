import RoomLayout.Files.Access
import RoomLayout.Files.TextureRoot
import RoomLayout.Level.Compile

/-!
# Loading scripts

Compiles the script in a file. Image files are looked up next to the script
unless the settings name a root.
-/

namespace RoomLayout

variable {m : Type → Type} [Monad m] [FileAccess m]

/-- The image files that a script's rules name. -/
def imageFiles (statements : List Statement) : List (String × String) :=
  statements.flatMap fun statement =>
    match statement.action with
    | .define _ rules => rules.filterMap fun rule =>
      match rule.source with
      | .custom folder filename _ => some (folder, filename)
      | _ => none
    | _ => []

/-- The image paths of a script below a root, as far as the script can be read. -/
def imagePaths (root source : String) : List String :=
  match tokenize source with
  | .error _ => []
  | .ok tokens =>
    (imageFiles (Program.ofTokens tokens).statements).map fun (folder, filename) =>
      texturePath root folder filename

/-- Those of some paths that lead to regular files. -/
def existingFiles (paths : List String) : m (List String) :=
  paths.filterM FileAccess.isFile

/-- Read a script, or tell why it cannot be read. -/
def readScript (path : String) : m (Except CompileError String) := do
  match ← FileAccess.readText path with
  | .ok source => return .ok source
  | .error error => return .error (.unreadable ("cannot read " ++ path ++ ": " ++ error.message))

/-- Compile the script at a path. Only the image files that the script names are
looked for. -/
def loadRooms (path : String) (config : Config) : m (Except CompileError Compiled) := do
  match ← readScript path with
  | .error error => return .error error
  | .ok source =>
    let root := config.rootBeside path
    let found ← existingFiles (imagePaths root source)
    return compile (.below (found.contains ·) root config) source

end RoomLayout
