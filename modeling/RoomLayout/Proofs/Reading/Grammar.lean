import Mathlib.Data.List.Forall2
import RoomLayout.Script.Statement
import RoomLayout.Script.Token

/-!
# The grammar of lines

What lines denote: the lines of a script as actions, and the lines of a `define`
block as face rules. The grammar is said form by form and has no fallbacks. A form
that the reader tolerates with a warning is missing from it.
-/

namespace RoomLayout

/-- A token as a size. -/
inductive DenotesSize : TokenKind → Number → Prop where
  | literal (value : Int) : DenotesSize (.integer value) (.literal value)
  | named (name : String) : DenotesSize (.variableName name) (.named name)

/-- Tokens as the alignments of a room: codes, no two of them of one axis. -/
structure DenotesAlignments (kinds : List TokenKind) (alignments : List Alignment) : Prop where
  codes : List.Forall₂
    (fun kind alignment => ∃ code, kind = .alignment code ∧ Alignment.ofCode code = .ok alignment)
    kinds alignments
  distinct : (alignments.map Alignment.axis).Nodup

/-- Tokens as the modifier of a light. -/
inductive DenotesModifier : List TokenKind → LightArgument → Prop where
  | full : DenotesModifier [] .full
  | dim : DenotesModifier [.keyword .dim] .dim
  | percentage (value : Int) : DenotesModifier [.percentage value] (.percentage value)
  | named (name : String) : DenotesModifier [.variableName name] (.named name)

/-- A token as the value of a variable; an integer is a number and not a word here. -/
inductive DenotesValue : TokenKind → Value → Prop where
  | integer (value : Int) : DenotesValue (.integer value) (.integer value)
  | percentage (value : Int) : DenotesValue (.percentage value) (.percentage value)
  | text {kind : TokenKind} {text : String} (isWord : kind.asWord? = some text)
      (notInteger : ∀ value, kind ≠ .integer value) : DenotesValue kind (.text text)

/-- The tokens of a line as an action. A word is any token that can be read as one. -/
inductive DenotesLine : List TokenKind → Action → Prop where
  /-- `room add <x> <y> <z> <definition> [alignment...]` -/
  | addRoom {x y z definition : TokenKind} {codes : List TokenKind} {size : Vec3 Number}
      {name : String} {alignments : List Alignment}
      (sizeX : DenotesSize x size.x) (sizeY : DenotesSize y size.y) (sizeZ : DenotesSize z size.z)
      (isWord : definition.asWord? = some name)
      (notAlignment : ∀ code, definition ≠ .alignment code)
      (aligned : DenotesAlignments codes alignments) :
      DenotesLine
        (.keyword .room :: .keyword .add :: x :: y :: z :: definition :: codes)
        (.addRoom size name alignments)
  /-- `with light [dim|NN%|$name]` -/
  | addLight {modifier : List TokenKind} {argument : LightArgument}
      (modified : DenotesModifier modifier argument) :
      DenotesLine (.keyword .withClause :: .keyword .light :: modifier) (.addLight argument)
  /-- `cursor save <name>` -/
  | saveCursor {kind : TokenKind} {name : String} (isWord : kind.asWord? = some name) :
      DenotesLine [.keyword .cursor, .keyword .save, kind] (.saveCursor name)
  /-- `cursor restore <name>` -/
  | restoreCursor {kind : TokenKind} {name : String} (isWord : kind.asWord? = some name) :
      DenotesLine [.keyword .cursor, .keyword .restore, kind] (.restoreCursor name)
  /-- `$name = <value>` -/
  | assign (name : String) {kind : TokenKind} {value : Value} (valued : DenotesValue kind value) :
      DenotesLine [.variableName name, .mark .equals, kind] (.assign name value)
  /-- `define <name>` and both braces -/
  | define {kind : TokenKind} {name : String} (isWord : kind.asWord? = some name) :
      DenotesLine [.keyword .define, kind, .mark .leftBrace, .mark .rightBrace] (.define name [])

/-- The first token of a rule as the faces it speaks of. -/
inductive DenotesTarget : TokenKind → FaceTarget → Prop where
  | floor : DenotesTarget (.keyword .floor) (.single .floor)
  | ceiling : DenotesTarget (.keyword .ceiling) (.single .ceiling)
  | walls : DenotesTarget (.keyword .wall) .walls
  | wallNorth : DenotesTarget (.keyword .wallNorth) (.single .wallNorth)
  | wallEast : DenotesTarget (.keyword .wallEast) (.single .wallEast)
  | wallSouth : DenotesTarget (.keyword .wallSouth) (.single .wallSouth)
  | wallWest : DenotesTarget (.keyword .wallWest) (.single .wallWest)

/-- One of the fit modes. -/
def IsFitMode (kind : TokenKind) : Prop :=
  kind = .keyword .fitX ∨ kind = .keyword .fitY ∨ kind = .keyword .stretch

/-- Tokens as a fit: fit modes in any number and order, of which each axis takes those
that name it. -/
structure DenotesFit (modes : List TokenKind) (fit : Fit) : Prop where
  allModes : ∀ mode ∈ modes, IsFitMode mode
  x : fit.x = true ↔ .keyword .fitX ∈ modes ∨ .keyword .stretch ∈ modes
  y : fit.y = true ↔ .keyword .fitY ∈ modes ∨ .keyword .stretch ∈ modes

/-- The tokens after the face as the source of a covering. -/
inductive DenotesSource : List TokenKind → FaceSource → Prop where
  /-- `off` -/
  | off : DenotesSource [.keyword .off] .off
  /-- `arx <name> [fit...]` -/
  | builtin {kind : TokenKind} {modes : List TokenKind} {name : String} {fit : Fit}
      (isWord : kind.asWord? = some name) (fitted : DenotesFit modes fit) :
      DenotesSource (.keyword .arx :: kind :: modes) (.builtin name fit)
  /-- `custom <folder> <filename> [fit...]` -/
  | custom {first second : TokenKind} {modes : List TokenKind} {folder filename : String}
      {fit : Fit} (isFolder : first.asWord? = some folder)
      (isFilename : second.asWord? = some filename) (fitted : DenotesFit modes fit) :
      DenotesSource (.keyword .custom :: first :: second :: modes) (.custom folder filename fit)

/-- The tokens of a line of a block as a rule: a face and its source. -/
def DenotesRule (kinds : List TokenKind) (target : FaceTarget) (source : FaceSource) : Prop :=
  ∃ face rest, kinds = face :: rest ∧ DenotesTarget face target ∧ DenotesSource rest source

end RoomLayout
