import RoomLayout.Placement.Alignment
import RoomLayout.Session.Diagnostic

/-!
# Complaints about lines

Everything that can be wrong with the wording of a script line, and how it is
reported. A `LineError` drops its line; a `LineWarning` drops at most a part of
it, or a line of a `define` block.
-/

namespace RoomLayout

/-- Why a line is dropped. Tokens are given as messages name them. -/
inductive LineError where
  | braceOutsideBlock
  | unrecognizedCommand (token : String)
  | defineWithoutName
  | roomWithoutAdd
  | sizeNotNumber (axis : Axis) (token : String)
  | sizeMissing (axis : Axis)
  | withWithoutLight
  | snapshotWithoutName
  | cursorWithoutVerb
  | assignmentWithoutEquals (name : String)
  | assignmentOfToken (token name : String)
  | assignmentWithoutValue (name : String)
  deriving BEq, DecidableEq

/-- The wording of a line error. -/
def LineError.message : LineError → String
  | .braceOutsideBlock => "unexpected '\x7d' outside a define block"
  | .unrecognizedCommand token => "unrecognized command '" ++ token ++ "'"
  | .defineWithoutName => "define needs a name"
  | .roomWithoutAdd => "expected 'add' after 'room'"
  | .sizeNotNumber axis token =>
    "expected a number for " ++ axis.letter.toString ++ ", got '" ++ token ++ "'"
  | .sizeMissing axis => "room add is missing the " ++ axis.letter.toString ++ " size"
  | .withWithoutLight => "expected 'light' after 'with'"
  | .snapshotWithoutName => "cursor snapshot needs a name"
  | .cursorWithoutVerb => "expected 'save' or 'restore' after 'cursor'"
  | .assignmentWithoutEquals name => "expected '=' after '$" ++ name ++ "'"
  | .assignmentOfToken token name => "cannot assign '" ++ token ++ "' to '$" ++ name ++ "'"
  | .assignmentWithoutValue name => "'$" ++ name ++ "' needs a value"

/-- What is ignored or replaced on a line. Tokens are given as messages name
them. -/
inductive LineWarning where
  | tokensAfterOpeningBrace
  | openingBraceMissing
  | blockNeverClosed
  | tokensAfterClosingBrace
  | unknownFace (token : String)
  | tokensAfterOff
  | builtinWithoutName
  | customWithoutFile
  | unknownTextureMode (token : String)
  | textureModeMissing
  | unknownFitMode (token : String)
  | definitionMissing
  | invalidDefinitionName (token : String)
  | notAnAlignment (token : String)
  | axisRepeated (axis : Axis) (code : String)
  | invalidAlignment (error : AlignmentError)
  | unknownLightModifier (token : String)
  | tokensAfterModifier
  | tokensAfterSnapshotName
  | tokensAfterValue
  deriving BEq, DecidableEq

/-- The wording of a line warning. -/
def LineWarning.message : LineWarning → String
  | .tokensAfterOpeningBrace => "ignoring tokens after '\x7b'"
  | .openingBraceMissing => "expected '\x7b' after define name"
  | .blockNeverClosed => "define block is never closed"
  | .tokensAfterClosingBrace => "ignoring tokens after '\x7d'"
  | .unknownFace token => "unknown face '" ++ token ++ "'"
  | .tokensAfterOff => "ignoring tokens after 'off'"
  | .builtinWithoutName => "arx texture needs a name"
  | .customWithoutFile => "custom texture needs a folder and a filename"
  | .unknownTextureMode token => "unknown texture mode '" ++ token ++ "'"
  | .textureModeMissing => "face needs a texture mode"
  | .unknownFitMode token => "unknown fit mode '" ++ token ++ "', ignored"
  | .definitionMissing => "room add has no definition, using 'default'"
  | .invalidDefinitionName token =>
    "invalid definition name '" ++ token ++ "', using 'default'"
  | .notAnAlignment token => "ignoring '" ++ token ++ "', expected an alignment"
  | .axisRepeated axis code =>
    axis.letter.toString ++ " axis aligned more than once, '" ++ code ++ "' wins"
  | .invalidAlignment error => error.message
  | .unknownLightModifier token =>
    "unknown light modifier '" ++ token ++ "', using full intensity"
  | .tokensAfterModifier => "ignoring tokens after light modifier"
  | .tokensAfterSnapshotName => "ignoring tokens after snapshot name"
  | .tokensAfterValue => "ignoring tokens after assigned value"

/-- A line error as a diagnostic. -/
def LineError.onLine (error : LineError) (line : Nat) : Diagnostic := .error line error.message

/-- A line warning as a diagnostic. -/
def LineWarning.onLine (warning : LineWarning) (line : Nat) : Diagnostic :=
  .warning line warning.message

end RoomLayout
