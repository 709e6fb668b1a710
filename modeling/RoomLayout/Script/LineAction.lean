import RoomLayout.Room.Definition
import RoomLayout.Script.Complaint
import RoomLayout.Script.Line
import RoomLayout.Script.Statement

/-!
# Actions of single lines

Reads the lines that stand for themselves: rooms, lights, snapshots and
assignments. Such a line comes to an action together with the warnings it
deserves, or to one error.
-/

namespace RoomLayout

/-- What a line comes to: an action and its warnings in order of emission, or
the error that drops the line. -/
abbrev LineOutcome := Except LineError (Action × List LineWarning)

/-- A warning if something is left over. -/
def LineWarning.ifAny {β : Type} (warning : LineWarning) : List β → List LineWarning
  | [] => []
  | _ :: _ => [warning]

/-- Read the extent of a room on one axis. -/
def readSize (axis : Axis) : Option TokenKind → Except LineError Number
  | some (.integer value) => .ok (.literal value)
  | some (.variableName name) => .ok (.named name)
  | some other => .error (.sizeNotNumber axis other.describe)
  | none => .error (.sizeMissing axis)

/-- Read the definition of a room, and give what follows it. A room line may
leave it out, in which case alignments follow at once. -/
def readDefinitionName : List TokenKind → String × List LineWarning × List TokenKind
  | [] => (Definitions.defaultName, [.definitionMissing], [])
  | .alignment code :: rest =>
    (Definitions.defaultName, [.definitionMissing], .alignment code :: rest)
  | kind :: rest =>
    match kind.asWord? with
    | some name => (name, [], rest)
    | none => (Definitions.defaultName, [.invalidDefinitionName kind.describe], rest)

/-- Read the alignments of a room after those in `earlier`. A later alignment of
an axis counts, an earlier one is reported; other tokens are ignored. -/
def readAlignments (earlier : List Alignment) : List TokenKind → List Alignment × List LineWarning
  | [] => ([], [])
  | .alignment code :: rest =>
    match Alignment.ofCode code with
    | .ok alignment =>
      let (alignments, warnings) := readAlignments (earlier ++ [alignment]) rest
      let repeated :=
        if earlier.any fun other => other.axis == alignment.axis then
          [LineWarning.axisRepeated alignment.axis code]
        else []
      (alignment :: alignments, repeated ++ warnings)
    | .error error =>
      let (alignments, warnings) := readAlignments earlier rest
      (alignments, .invalidAlignment error :: warnings)
  | kind :: rest =>
    let (alignments, warnings) := readAlignments earlier rest
    (alignments, .notAnAlignment kind.describe :: warnings)

/-- Read `room add <x> <y> <z> <definition> [alignment...]` after `room`. -/
def readRoom : List TokenKind → LineOutcome
  | .keyword .add :: sizes => do
    let x ← readSize .x sizes[0]?
    let y ← readSize .y sizes[1]?
    let z ← readSize .z sizes[2]?
    let (definition, definitionWarnings, rest) := readDefinitionName (sizes.drop 3)
    let (alignments, alignmentWarnings) := readAlignments [] rest
    return (.addRoom ⟨x, y, z⟩ definition alignments, definitionWarnings ++ alignmentWarnings)
  | _ => .error .roomWithoutAdd

/-- Read the modifier of a light. -/
def readLightArgument : Option TokenKind → LightArgument × List LineWarning
  | none => (.full, [])
  | some (.keyword .dim) => (.dim, [])
  | some (.percentage value) => (.percentage value, [])
  | some (.variableName name) => (.named name, [])
  | some other => (.full, [.unknownLightModifier other.describe])

/-- Read `with light [modifier]` after `with`. -/
def readLight : List TokenKind → LineOutcome
  | .keyword .light :: rest =>
    let (argument, warnings) := readLightArgument rest.head?
    .ok (.addLight argument, warnings ++ LineWarning.tokensAfterModifier.ifAny rest.tail)
  | _ => .error .withWithoutLight

/-- Read the name of a snapshot and nothing else. -/
def readSnapshot (action : String → Action) : List TokenKind → LineOutcome
  | [] => .error .snapshotWithoutName
  | kind :: rest =>
    match kind.asWord? with
    | some name => .ok (action name, LineWarning.tokensAfterSnapshotName.ifAny rest)
    | none => .error .snapshotWithoutName

/-- Read `cursor save <name>` or `cursor restore <name>` after `cursor`. -/
def readCursor : List TokenKind → LineOutcome
  | .keyword .save :: rest => readSnapshot .saveCursor rest
  | .keyword .restore :: rest => readSnapshot .restoreCursor rest
  | _ => .error .cursorWithoutVerb

/-- Read the value assigned to a variable. -/
def readValue (name : String) : TokenKind → Except LineError Value
  | .integer value => .ok (.integer value)
  | .percentage value => .ok (.percentage value)
  | kind =>
    match kind.asWord? with
    | some text => .ok (.text text)
    | none => .error (.assignmentOfToken kind.describe name)

/-- Read `$name = value` after the variable. -/
def readAssignment (name : String) : List TokenKind → LineOutcome
  | .mark .equals :: kind :: rest => do
    let value ← readValue name kind
    return (.assign name value, LineWarning.tokensAfterValue.ifAny rest)
  | [.mark .equals] => .error (.assignmentWithoutValue name)
  | _ => .error (.assignmentWithoutEquals name)

/-- Read a line that is not the header of a block. -/
def readLine (line : Line) : LineOutcome :=
  match line.head.kind with
  | .keyword .room => readRoom line.arguments
  | .keyword .withClause => readLight line.arguments
  | .keyword .cursor => readCursor line.arguments
  | .variableName name => readAssignment name line.arguments
  | .mark .rightBrace => .error .braceOutsideBlock
  | other => .error (.unrecognizedCommand other.describe)

end RoomLayout
