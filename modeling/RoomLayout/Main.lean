import RoomLayout.Command.Run

/-!
# The program

Runs the command on the file system of the machine.
-/

namespace RoomLayout

/-- The reason why the system refused something. -/
def FileError.ofSystem (error : IO.Error) : FileError :=
  match error with
  | .noFileOrDirectory _ _ _ => .notFound
  | .alreadyExists _ _ _ => .alreadyExists
  | .inappropriateType _ 20 _ => .notADirectory
  | .inappropriateType _ 21 _ => .isADirectory
  | error => .other (toString error)

/-- Do something, and tell why it cannot be done if so. -/
def attempt {α : Type} (action : IO α) : IO (Except FileError α) := do
  try
    return .ok (← action)
  catch error => return .error (.ofSystem error)

/-- Whether something can be done. -/
def succeeds {α : Type} (action : IO α) : IO Bool := do return (← attempt action).isOk

/-- The files of the machine. -/
instance : FileAccess IO where
  leadsSomewhere path := succeeds (IO.FS.realPath path)
  isFile path := do
    match ← attempt (do (← IO.FS.realPath path).metadata) with
    | .ok found => return found.type == .file
    | .error _ => return false
  readText path := do
    match ← attempt (IO.FS.readBinFile path) with
    | .error error => return .error error
    | .ok content =>
      match String.fromUTF8? content with
      | some text => return .ok text
      | none => return .error .notText
  createDirectories path := if path = "" then return .ok () else attempt (IO.FS.createDirAll path)
  writeText path text := attempt (IO.FS.writeFile path text)

end RoomLayout

/-- Run the command and print what it leaves behind. -/
def main (arguments : List String) : IO UInt32 := do
  let outcome ← RoomLayout.Command.run (m := IO) (← IO.getEnv "HOME") arguments
  for line in outcome.reports do IO.eprintln line
  for line in outcome.output do IO.println line
  return outcome.status.code.toUInt32
