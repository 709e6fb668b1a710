import RoomLayout.Geometry.Vec3
import RoomLayout.Placement.Alignment
import RoomLayout.Room.Face

/-!
# Statements

What a script says, one statement per logical line; a `define` block counts as
one line.
-/

namespace RoomLayout

/-- A numeric argument: a literal or a variable. -/
inductive Number where
  | literal (value : Int)
  | named (name : String)
  deriving BEq, DecidableEq

/-- A value that a variable can hold. -/
inductive Value where
  | integer (value : Int)
  | percentage (value : Int)
  | text (text : String)
  deriving BEq, DecidableEq

/-- The argument of a light. -/
inductive LightArgument where
  | full
  | dim
  | percentage (value : Int)
  | named (name : String)
  deriving BEq, DecidableEq

/-- The faces that a rule speaks of: one face, or all four walls. -/
inductive FaceTarget where
  | walls
  | single (face : Face)
  deriving BEq, DecidableEq

/-- The faces of a target. -/
def FaceTarget.faces : FaceTarget → List Face
  | .walls => Face.walls
  | .single face => [face]

/-- Where the covering of a face comes from. -/
inductive FaceSource where
  /-- The face is removed. -/
  | off
  /-- A texture shipped with the game. -/
  | builtin (name : String) (fit : Fit)
  /-- An image file of the project. -/
  | custom (folder filename : String) (fit : Fit)
  deriving BEq, DecidableEq

/-- One line of a `define` block. -/
structure FaceRule where
  line : Nat
  target : FaceTarget
  source : FaceSource
  deriving BEq, DecidableEq

/-- What a statement does. -/
inductive Action where
  | define (name : String) (rules : List FaceRule)
  | addRoom (size : Vec3 Number) (definition : String) (alignments : List Alignment)
  | addLight (argument : LightArgument)
  | saveCursor (name : String)
  | restoreCursor (name : String)
  | assign (name : String) (value : Value)
  deriving BEq, DecidableEq

/-- An action and the line it stands on. -/
structure Statement where
  line : Nat
  action : Action
  deriving BEq, DecidableEq

end RoomLayout
