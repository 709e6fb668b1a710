import RoomLayout.Geometry.Vec3
import RoomLayout.NameTable
import RoomLayout.Placement.Alignment

/-!
# The cursor

Placement is always relative. The cursor stands at the floor center of the room
that was placed last and knows that room's extent; alignment codes move it to
where the next room's floor center belongs. A snapshot keeps a whole cursor
position under a name.
-/

namespace RoomLayout

/-- Where the cursor stands, the extent of the room placed there, and the extent
of the room being placed. -/
structure CursorState (α : Type) where
  position : Vec3 α
  oldSize : Vec3 α
  newSize : Vec3 α
  deriving BEq, DecidableEq

/-- A cursor with its named snapshots. -/
structure Cursor (α : Type) where
  state : CursorState α
  saved : NameTable (CursorState α)

variable {α : Type} [Coordinate α]

open Coordinate

/-- The offset of the next room's center on a horizontal axis, from the extents
of the previous and the next room. -/
@[specialize] def AxisAlignment.horizontalOffset (align : AxisAlignment) (old new : α) : α :=
  match align with
  | .plusPlus => half old + half new
  | .plus => half old - half new
  | .center => zero
  | .minus => -(half old - half new)
  | .minusMinus => -(half old + half new)

/-- The offset of the next room's floor; the vertical axis points downward. -/
@[specialize] def AxisAlignment.verticalOffset (align : AxisAlignment) (old new : α) : α :=
  match align with
  | .plusPlus => -old
  | .plus => -(old - new)
  | .center => -(half old - half new)
  | .minus => zero
  | .minusMinus => new

/-- The alignment that counts on an axis: the last one given for it. -/
def Alignment.lastFor (axis : Axis) (alignments : List Alignment) : Option AxisAlignment :=
  (alignments.reverse.find? fun alignment => alignment.axis == axis).map Alignment.align

/-- A horizontal coordinate moved by an alignment; without one it stays. -/
@[specialize] def moveHorizontally (align : Option AxisAlignment) (position old new : α) : α :=
  match align with
  | none => position
  | some align => position + align.horizontalOffset old new

/-- The position of the next room. Each axis moves once, by the last alignment
given for it; without one for the vertical axis the floors are level. -/
@[specialize] def CursorState.moved (state : CursorState α) (alignments : List Alignment) :
    Vec3 α where
  x := moveHorizontally (Alignment.lastFor .x alignments)
    state.position.x state.oldSize.x state.newSize.x
  y := state.position.y +
    ((Alignment.lastFor .y alignments).getD .minus).verticalOffset
      state.oldSize.y state.newSize.y
  z := moveHorizontally (Alignment.lastFor .z alignments)
    state.position.z state.oldSize.z state.newSize.z

namespace Cursor

/-- A cursor at the origin, with nothing placed. -/
def initial : Cursor α where
  state := ⟨Vec3.zero, Vec3.zero, Vec3.zero⟩
  saved := NameTable.empty

/-- Set the extent of the room about to be placed. -/
def setNewSize (cursor : Cursor α) (size : Vec3 α) : Cursor α :=
  { cursor with state := { cursor.state with newSize := size } }

/-- Move to where the next room belongs. -/
@[specialize] def moveBy (cursor : Cursor α) (alignments : List Alignment) : Cursor α :=
  { cursor with state.position := cursor.state.moved alignments }

/-- The room was placed: its extent becomes the reference for the next one. -/
def commit (cursor : Cursor α) : Cursor α :=
  { cursor with state := { cursor.state with oldSize := cursor.state.newSize } }

/-- Keep the whole state under a name, replacing an earlier snapshot. -/
def saveAs (cursor : Cursor α) (name : String) : Cursor α :=
  { cursor with saved := cursor.saved.insert name cursor.state }

/-- Return to a snapshot, if there is one of that name. -/
def restore? (cursor : Cursor α) (name : String) : Option (Cursor α) :=
  (cursor.saved.get? name).map fun state => { cursor with state }

end Cursor

end RoomLayout
