import RoomLayout.Geometry.Vec3

/-!
# Boxes

Boxes whose edges are parallel to the axes, given by their lowest and highest
corner. The two tests widen a box by a tolerance, so flush boxes count as
intersecting and a point on a face counts as inside.
-/

namespace RoomLayout

/-- An axis-parallel box. -/
structure Box (α : Type) where
  low : Vec3 α
  high : Vec3 α
  deriving BEq, DecidableEq

namespace Box

variable {α : Type} [Coordinate α]

open Coordinate

/-- The box spanned by two opposite corners, given in any order. -/
@[specialize] def ofCorners (a b : Vec3 α) : Box α := ⟨a.lesser b, a.greater b⟩

/-- The box holding a single point. -/
@[specialize] def point (p : Vec3 α) : Box α := ofCorners p p

/-- The smallest box around two boxes. -/
@[specialize] def union (a b : Box α) : Box α := ⟨a.low.lesser b.low, a.high.greater b.high⟩

/-- The extent of a box on every axis. -/
@[specialize] def size (box : Box α) : Vec3 α := box.high - box.low

/-- Whether two boxes overlap or come within `tolerance` of each other. -/
@[specialize] def intersects (a b : Box α) (tolerance : α) : Bool :=
  le a.low.x (b.high.x + tolerance)
    && le (b.low.x - tolerance) a.high.x
    && le a.low.y (b.high.y + tolerance)
    && le (b.low.y - tolerance) a.high.y
    && le a.low.z (b.high.z + tolerance)
    && le (b.low.z - tolerance) a.high.z

/-- Whether a point lies in the box widened by `tolerance`. -/
@[specialize] def contains (box : Box α) (p : Vec3 α) (tolerance : α) : Bool :=
  le (box.low.x - tolerance) p.x
    && le p.x (box.high.x + tolerance)
    && le (box.low.y - tolerance) p.y
    && le p.y (box.high.y + tolerance)
    && le (box.low.z - tolerance) p.z
    && le p.z (box.high.z + tolerance)

end Box

end RoomLayout
