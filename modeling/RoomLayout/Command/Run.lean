import RoomLayout.Command.Arguments
import RoomLayout.Level.BundleFile
import RoomLayout.Level.Load
import RoomLayout.Script.TokenListing
import RoomLayout.Session.ConfigFile

/-!
# The command

What the program does when it is called: it compiles a script and says how large
the level is, or lists the tokens of the script. Diagnostics and errors are
reported apart from the output.
-/

namespace RoomLayout.Command

/-- How a call ends. -/
inductive Status where
  | success
  | failure
  /-- The arguments make no sense. -/
  | misuse
  deriving BEq, DecidableEq

/-- The number by which the system knows how a call has ended. -/
def Status.code : Status → Nat
  | success => 0
  | failure => 1
  | misuse => 2

/-- What a call leaves behind besides files, in lines. -/
structure Outcome where
  status : Status
  output : List String := []
  reports : List String := []

/-- The configuration file in a home directory. -/
def defaultConfigPath (home : Option String) : String :=
  Path.join (Path.join (home.getD ".") ".roomcraft") "config.yaml"

/-- The report of an error that ends the call. -/
def errorReport (message : String) : String := "error: " ++ message

/-- The line that says how large a level is. -/
def summary (compiled : Compiled) : String :=
  toString compiled.level.length ++ " rooms, "
    ++ toString compiled.level.polygonCount ++ " polygons, "
    ++ toString compiled.level.lightCount ++ " lights, "
    ++ toString compiled.session.used.length ++ " textures"

variable {m : Type → Type} [Monad m] [FileAccess m]

/-- The configuration in a file, with defaults in place of one that cannot be
read, and the reports about that. -/
def configFrom (path : String) : m (Config × List String) := do
  match ← loadConfig path with
  | .ok config => return (config, [])
  | .error error => return ({}, ["warning: could not load " ++ path ++ ": " ++ error.message])

/-- A configuration with what the arguments say instead. -/
def Arguments.override (arguments : Arguments) (config : Config) : Config :=
  { config with
    stitchRooms := config.stitchRooms && !arguments.keepsAll
    tolerance := arguments.tolerance.getD config.tolerance }

/-- List the tokens of the script at a path. -/
def listTokens (path : String) : m Outcome := do
  match ← FileAccess.readText path with
  | .error error =>
    return { status := .failure
             reports := [errorReport ("cannot read " ++ path ++ ": " ++ error.message)] }
  | .ok source =>
    match tokenize source with
    | .error error =>
      return { status := .failure, reports := [errorReport (CompileError.lexical error).display] }
    | .ok tokens => return { status := .success, output := tokens.map Token.listing }

/-- Write a bundle, and say so or why not. -/
def writeOutput (path : String) (bundle : Bundle) : m Outcome := do
  match ← saveBundle path bundle with
  | .ok () => return { status := .success, output := ["wrote " ++ path] }
  | .error error =>
    return { status := .failure
             reports := [errorReport ("cannot write " ++ path ++ ": " ++ error.message)] }

/-- Compile the script at a path, and write the level if there is a path for it. -/
def compileTo (path : String) (output : Option String) (config : Config) : m Outcome := do
  match ← loadRooms path config with
  | .error error => return { status := .failure, reports := [errorReport error.display] }
  | .ok compiled =>
    let reports := (Diagnostic.sorted compiled.session.log).map Diagnostic.display
    let size := summary compiled
    match output with
    | none => return { status := .success, output := [size], reports }
    | some target =>
      let written ← writeOutput target (Bundle.ofLevel compiled.level)
      return { status := written.status
               output := size :: written.output
               reports := reports ++ written.reports }

/-- Do what some arguments ask for. -/
def run (home : Option String) (texts : List String) : m Outcome := do
  match Arguments.ofList texts with
  | .error error => return { status := .misuse, reports := [errorReport error.message] }
  | .ok (input, arguments) =>
    let path := arguments.config.getD (defaultConfigPath home)
    let (config, warnings) ← configFrom path
    let outcome ←
      if arguments.listsTokens then listTokens input
      else compileTo input arguments.output (arguments.override config)
    return { outcome with reports := warnings ++ outcome.reports }

end RoomLayout.Command
