import RoomLayout.Level.Construction
import RoomLayout.Room.Stitching
import RoomLayout.Script.Program
import RoomLayout.Session.CompileError

/-!
# Compiling

A script is cut into tokens, read line by line, built statement by statement
and stitched. Only text that cannot be cut into tokens stops it.
-/

namespace RoomLayout

/-- The rooms of a compile and the session it leaves behind. -/
structure Compiled where
  level : Level Float
  session : Session

/-- Read a script, and report what its lines complain about. -/
def parse (session : Session) (source : String) :
    Except CompileError (List Statement × Session) :=
  match tokenize source with
  | .error error => .error (.lexical error)
  | .ok tokens =>
    let program := Program.ofTokens tokens
    .ok (program.statements, session.report program.diagnostics)

/-- Stitch the rooms, if the settings ask for it. -/
def finishRooms (config : Config) (level : Level Float) : Level Float :=
  if config.stitchRooms then (level.stitch config.tolerance).1 else level

/-- Build the rooms of a script's statements, stitch them, and mark the textures
that are left on some polygon. -/
def compileStatements (session : Session) (statements : List Statement) : Compiled :=
  let built := (Construction.start session).performAll statements
  let level := finishRooms session.config built.level
  let marked :=
    level.polygons.foldl (fun session polygon => session.markUsed polygon.texture) built.session
  ⟨level, marked⟩

/-- Compile a script. -/
def compile (session : Session) (source : String) : Except CompileError Compiled := do
  let (statements, session) ← parse session source
  return compileStatements session statements

/-- A script that comes to something can be cut into tokens. -/
theorem exists_tokens_of_compile {session : Session} {source : String} {α : Type}
    {reading : Compiled → α} {result : α}
    (computed : (compile session source).map reading = .ok result) :
    ∃ tokens, tokenize source = .ok tokens := by
  cases lexed : tokenize source with
  | ok tokens => exact ⟨tokens, rfl⟩
  | error error =>
    rw [compile, parse, lexed] at computed
    exact nomatch computed

/-- What a script that can be cut into tokens comes to. -/
theorem compile_of_lexes {source : String} {tokens : List Token}
    (lexes : tokenize source = .ok tokens) (session : Session) :
    compile session source = .ok (compileStatements
      (session.report (Program.ofTokens tokens).diagnostics)
      (Program.ofTokens tokens).statements) := by
  rw [compile, parse, lexes]
  rfl

/-! ## The session in the course of a compile -/

/-- A part of a compile in a session. What it has done to the session stays, also if it ends
in an error. -/
abbrev InSession (α : Type) : Type := ExceptT CompileError (StateM Session) α

/-- What a part of a compile comes to, and the session it leaves behind. -/
def InSession.runIn {α : Type} (part : InSession α) (session : Session) :
    Except CompileError α × Session :=
  StateT.run (ExceptT.run part) session

/-- Read a script; what its lines complain about goes to the session. -/
def parseInSession (source : String) : InSession (List Statement) := do
  match tokenize source with
  | .error error => throw (.lexical error)
  | .ok tokens =>
    let program := Program.ofTokens tokens
    modify (·.report program.diagnostics)
    return program.statements

/-- Compile a script; what its statements report and use goes to the session. -/
def compileInSession (source : String) : InSession (Level Float) := do
  let statements ← parseInSession source
  let compiled := compileStatements (← get) statements
  set compiled.session
  return compiled.level

/-- A compile in a session comes to the rooms and to the session of the compile, or to its
error; then the session is as it was. -/
theorem runIn_compileInSession (source : String) (session : Session) :
    (compileInSession source).runIn session =
      match compile session source with
      | .ok compiled => (.ok compiled.level, compiled.session)
      | .error error => (.error error, session) := by
  simp only [compile, parse]
  cases lexed : tokenize source with
  | error error =>
    rw [compileInSession, parseInSession, lexed]
    rfl
  | ok tokens =>
    rw [compileInSession, parseInSession, lexed]
    rfl

end RoomLayout
