import RoomLayout.Script.Tokenization

/-!
# Compile errors

What stops a compile: text that cannot be cut into tokens, and files that
cannot be read. Everything else is a diagnostic.
-/

namespace RoomLayout

/-- An error that stops a compile. -/
inductive CompileError where
  | lexical (error : LexicalError)
  /-- A file could not be read, for the given reason. -/
  | unreadable (message : String)
  deriving BEq, DecidableEq

namespace CompileError

/-- The kind of an error, as it is written. -/
def kind : CompileError → String
  | lexical _ => "SyntaxError"
  | unreadable _ => "Io"

/-- Where an error is; errors about files are nowhere, at line and column zero. -/
def position : CompileError → Position
  | lexical error => error.position
  | unreadable _ => ⟨0, 0⟩

/-- What is wrong. -/
def message : CompileError → String
  | lexical error => error.fault.message
  | unreadable message => message

/-- The written form of an error. -/
def display (error : CompileError) : String :=
  "[" ++ toString error.position.line ++ ":" ++ toString error.position.column ++ "] "
    ++ error.kind ++ ": " ++ error.message

end CompileError

end RoomLayout
