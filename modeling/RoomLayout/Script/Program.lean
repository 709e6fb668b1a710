import RoomLayout.Script.DefineBlock
import RoomLayout.Script.LineAction

/-!
# Programs

A script read as a whole: its statements in order, and everything its lines
complain about. A line that cannot be read never affects the lines after it.
-/

namespace RoomLayout

/-- The statements of a script and the diagnostics of reading it, in order of
emission. -/
structure Program where
  statements : List Statement
  diagnostics : List Diagnostic
  deriving BEq, DecidableEq

namespace Program

/-- Put the outcome of a line before the rest of the program. -/
def consOutcome (number : Nat) (outcome : LineOutcome) (rest : Program) : Program :=
  match outcome with
  | .ok (action, warnings) =>
    ⟨⟨number, action⟩ :: rest.statements,
      warnings.map (LineWarning.onLine · number) ++ rest.diagnostics⟩
  | .error error => ⟨rest.statements, error.onLine number :: rest.diagnostics⟩

/-- What a block comes to once its lines are read: a definition, or an error if
the header has no name. The warnings of header and lines come first. -/
def consBlock (number : Nat) (header : BlockHeader) (body : BlockBody) (rest : Program) : Program :=
  let warnings := header.warnings.map (LineWarning.onLine · number) ++ body.diagnostics
  match header.name with
  | some name =>
    ⟨⟨number, .define name body.rules⟩ :: rest.statements, warnings ++ rest.diagnostics⟩
  | none =>
    ⟨rest.statements, warnings ++ LineError.defineWithoutName.onLine number :: rest.diagnostics⟩

/-- Read logical lines. -/
def ofLines : List Line → Program
  | [] => ⟨[], []⟩
  | line :: following =>
    if line.head.kind = .keyword .define then
      let header := readHeader line.arguments following
      let body := header.body line.number following
      consBlock line.number header body (ofLines body.after)
    else consOutcome line.number (readLine line) (ofLines following)
termination_by lines => lines.length
decreasing_by
  · exact Nat.lt_succ_of_le (BlockHeader.length_after_body_le _ _ _)
  · simp

/-- Read the tokens of a script. -/
def ofTokens (tokens : List Token) : Program := ofLines (Line.ofTokens tokens)

end Program

end RoomLayout
