/-!
# Diagnostics

Problems that do not stop a compile, each tagged with its line. A warning says
that a fallback was applied, an error that a statement was dropped.
-/

namespace RoomLayout

/-- How much a problem costs. -/
inductive Severity where
  /-- A fallback was applied. -/
  | warning
  /-- A statement was dropped. -/
  | error
  deriving BEq, DecidableEq

/-- The written form of a severity. -/
def Severity.display : Severity → String
  | .warning => "warning"
  | .error => "error"

/-- A problem found while compiling. -/
structure Diagnostic where
  line : Nat
  severity : Severity
  message : String
  deriving BEq, DecidableEq

namespace Diagnostic

/-- A warning. -/
def warning (line : Nat) (message : String) : Diagnostic := ⟨line, .warning, message⟩

/-- An error. -/
def error (line : Nat) (message : String) : Diagnostic := ⟨line, .error, message⟩

/-- The written form of a diagnostic. -/
def display (diagnostic : Diagnostic) : String :=
  "line " ++ toString diagnostic.line ++ ": " ++ diagnostic.severity.display ++ ": "
    ++ diagnostic.message

/-- Diagnostics by line, in their order of emission on each line. -/
def sorted (diagnostics : List Diagnostic) : List Diagnostic :=
  diagnostics.mergeSort fun a b => a.line ≤ b.line

/-- Whether a statement was dropped. -/
def hasErrors (diagnostics : List Diagnostic) : Bool :=
  diagnostics.any fun diagnostic => diagnostic.severity == .error

end Diagnostic

end RoomLayout
