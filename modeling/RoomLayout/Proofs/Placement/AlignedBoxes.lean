import RoomLayout.Placement.Cursor
import RoomLayout.Proofs.LastWrite
import RoomLayout.Proofs.Tiling.Depth

/-!
# Aligned boxes

An alignment code is a statement about two boxes: how the box of the next room stands against
the box of the previous one on an axis. Every axis is looked at from its near side, which is
west, south and, on the vertical axis, the floor. The far side is across from it, so on the
vertical axis, which points downward, codes count upward.

The cursor computes offsets between anchors, and an anchor is the center of a room on the
horizontal axes and its floor on the vertical one. In exact arithmetic these offsets are the
only ones under which the boxes stand as the codes say (`isAlignedTo_boxAt_iff`).
-/

namespace RoomLayout

/-- The side of a box from which codes count on an axis. -/
def Axis.nearSide : Axis → Face
  | .x => .wallWest
  | .y => .floor
  | .z => .wallSouth

/-- The side across from the near one. -/
def Axis.farSide (axis : Axis) : Face := axis.nearSide.opposite

/-- What counts on an axis for which no code is given: centers stay level on the horizontal
axes, and floors do on the vertical one. -/
def Axis.defaultAlignment : Axis → AxisAlignment
  | .x | .z => .center
  | .y => .minus

namespace Box

/-- Where the center of a box is on an axis. -/
def center (box : Box Rat) (axis : Axis) : Rat := (box.low.along axis + box.high.along axis) / 2

/-- How a box stands against another one on an axis, by the alignment between them: flush with
its far side, far sides level, centers level, near sides level, or flush with its near side. -/
def IsAlignedTo (next previous : Box Rat) (axis : Axis) : AxisAlignment → Prop
  | .plusPlus => next.side axis.nearSide = previous.side axis.farSide
  | .plus => next.side axis.farSide = previous.side axis.farSide
  | .center => next.center axis = previous.center axis
  | .minus => next.side axis.nearSide = previous.side axis.nearSide
  | .minusMinus => next.side axis.farSide = previous.side axis.nearSide

end Box

namespace Alignment

variable {axis : Axis} {codes earlier : List Alignment} {code : Alignment}

theorem lastFor_of_isLast (last : IsLast (fun code => code.axis = axis) codes earlier code) :
    lastFor axis codes = some code.align := by
  obtain ⟨ofAxis, later, rfl, others⟩ := last
  have notLater : later.reverse.find? (fun code => code.axis == axis) = none := by
    rw [List.find?_eq_none]
    intro other member
    rw [Axis.beq_iff_eq]
    exact others other (List.mem_reverse.mp member)
  have found : (code :: earlier.reverse).find? (fun code => code.axis == axis) = some code :=
    List.find?_cons_of_pos (Axis.beq_iff_eq.mpr ofAxis)
  simp only [lastFor, List.reverse_append, List.reverse_cons, List.append_assoc,
    List.singleton_append, List.find?_append, notLater, found, Option.none_or, Option.map_some]

theorem lastFor_of_none (none : ∀ code ∈ codes, code.axis ≠ axis) :
    lastFor axis codes = .none := by
  rw [lastFor, Option.map_eq_none_iff, List.find?_eq_none]
  intro code member
  rw [Axis.beq_iff_eq]
  exact none code (List.mem_reverse.mp member)

end Alignment

/-- How far an alignment moves the anchor of the next room along an axis. -/
def AxisAlignment.offset (align : AxisAlignment) : Axis → Rat → Rat → Rat
  | .x | .z => align.horizontalOffset
  | .y => align.verticalOffset

/-- Each axis moves once, by the alignment that counts for it. -/
theorem CursorState.along_moved (state : CursorState Rat) (codes : List Alignment) (axis : Axis) :
    (state.moved codes).along axis
      = state.position.along axis
        + ((Alignment.lastFor axis codes).getD axis.defaultAlignment).offset axis
          (state.oldSize.along axis) (state.newSize.along axis) := by
  have horizontally : ∀ (align : Option AxisAlignment) (position old new : Rat),
      moveHorizontally align position old new
        = position + (align.getD .center).horizontalOffset old new := by
    intro align position old new
    cases align with
    | none => exact (add_zero position).symm
    | some align => rfl
  cases axis with
  | x => exact horizontally _ _ _ _
  | y => rfl
  | z => exact horizontally _ _ _ _

/-- Boxes are aligned exactly if their anchors are as far apart as the offset says. -/
theorem Box.isAlignedTo_boxAt_iff {position size nextPosition nextSize : Vec3 Rat}
    (nonneg : ∀ axis, 0 ≤ size.along axis) (nextNonneg : ∀ axis, 0 ≤ nextSize.along axis)
    (axis : Axis) (align : AxisAlignment) :
    (Room.boxAt nextPosition nextSize).IsAlignedTo (Room.boxAt position size) axis align
      ↔ nextPosition.along axis
        = position.along axis + align.offset axis (size.along axis) (nextSize.along axis) := by
  rw [Room.boxAt_of_nonneg nonneg, Room.boxAt_of_nonneg nextNonneg]
  -- Five codes on each of three axes: both sides are equations in half extents.
  cases axis <;> cases align <;>
    simp only [IsAlignedTo, center, side, Axis.nearSide, Axis.farSide, Face.opposite,
      Vec3.along, AxisAlignment.offset, AxisAlignment.horizontalOffset,
      AxisAlignment.verticalOffset, Coordinate.half_eq, Coordinate.zero_eq] <;>
    constructor <;> intro equal <;> linarith

/-- Alignment codes mean what they say, in exact arithmetic. Wherever the cursor is and whatever
room stands there, the box of the next room stands against the box of that room as the last code
for the axis says, on each axis. On an axis without a code, centers are level, or floors on the
vertical axis. -/
theorem Cursor.moveBy_aligns_boxes (cursor : Cursor Rat) (size : Vec3 Rat)
    (codes : List Alignment) (nonneg : ∀ axis, 0 ≤ cursor.state.oldSize.along axis)
    (positive : ∀ axis, 0 < size.along axis) :
    let previous := Room.boxAt cursor.state.position cursor.state.oldSize
    let next := Room.boxAt ((cursor.setNewSize size).moveBy codes).state.position size
    ∀ axis,
      (∀ earlier code, IsLast (fun code => code.axis = axis) codes earlier code →
          next.IsAlignedTo previous axis code.align)
        ∧ ((∀ code ∈ codes, code.axis ≠ axis) →
          next.IsAlignedTo previous axis axis.defaultAlignment) := by
  intro previous next axis
  have aligned : next.IsAlignedTo previous axis
      ((Alignment.lastFor axis codes).getD axis.defaultAlignment) := by
    rw [Box.isAlignedTo_boxAt_iff nonneg (fun axis => (positive axis).le)]
    exact CursorState.along_moved (cursor.setNewSize size).state codes axis
  constructor
  · intro earlier code last
    rwa [Alignment.lastFor_of_isLast last] at aligned
  · intro none
    rwa [Alignment.lastFor_of_none none] at aligned

/-- A room of one by three by two goes to the far side of one of four by two by six, its center
as high as the other one's, after a code for the near side that no longer counts. -/
theorem Cursor.moveBy_aligns_boxes_last_code :
    let cursor : Cursor Rat := ⟨⟨⟨10, 5, -3⟩, ⟨4, 2, 6⟩, ⟨7, 7, 7⟩⟩, NameTable.empty⟩
    let codes : List Alignment := [⟨.x, .minusMinus⟩, ⟨.y, .center⟩, ⟨.x, .plusPlus⟩]
    let previous := Room.boxAt cursor.state.position cursor.state.oldSize
    let next := Room.boxAt ((cursor.setNewSize ⟨1, 3, 2⟩).moveBy codes).state.position ⟨1, 3, 2⟩
    previous = ⟨⟨8, 3, -6⟩, ⟨12, 5, 0⟩⟩
      ∧ next = ⟨⟨12, 5 / 2, -4⟩, ⟨13, 11 / 2, -2⟩⟩
      ∧ next.low.x = previous.high.x
      ∧ next.center .y = previous.center .y
      ∧ next.center .z = previous.center .z := by
  intro cursor codes previous next
  have nonneg : ∀ axis, 0 ≤ cursor.state.oldSize.along axis :=
    Axis.forall_iff.mpr (by decide +kernel)
  have positive : ∀ axis, 0 < (⟨1, 3, 2⟩ : Vec3 Rat).along axis :=
    Axis.forall_iff.mpr (by decide +kernel)
  have aligned := Cursor.moveBy_aligns_boxes cursor ⟨1, 3, 2⟩ codes nonneg positive
  have lastX : IsLast (fun code : Alignment => code.axis = .x) codes
      [⟨.x, .minusMinus⟩, ⟨.y, .center⟩] ⟨.x, .plusPlus⟩ := ⟨rfl, [], rfl, by simp⟩
  have lastY : IsLast (fun code : Alignment => code.axis = .y) codes
      [⟨.x, .minusMinus⟩] ⟨.y, .center⟩ := ⟨rfl, [⟨.x, .plusPlus⟩], rfl, by decide⟩
  have noneZ : ∀ code ∈ codes, code.axis ≠ .z := by decide
  exact ⟨by decide +kernel, by decide +kernel, (aligned .x).1 _ _ lastX,
    (aligned .y).1 _ _ lastY, (aligned .z).2 noneZ⟩

end RoomLayout
