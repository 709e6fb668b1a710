import RoomLayout.Geometry.Box
import RoomLayout.Texture

/-!
# Polygons

Textured quads, the unit of room geometry. Two quads coincide when their
corners match up in any order, so the two sides of a shared wall coincide
although their winding, normal and texture differ.
-/

namespace RoomLayout

/-- Four values, one for each corner of a quad in winding order. -/
structure Quad (β : Type) where
  first : β
  second : β
  third : β
  fourth : β
  deriving BEq, DecidableEq

namespace Quad

variable {β γ : Type}

/-- The values in winding order. -/
def toList (q : Quad β) : List β := [q.first, q.second, q.third, q.fourth]

/-- Apply a function at every corner. -/
@[specialize] def map (f : β → γ) (q : Quad β) : Quad γ :=
  ⟨f q.first, f q.second, f q.third, f q.fourth⟩

/-- The same corners wound the other way. -/
def reverse (q : Quad β) : Quad β := ⟨q.fourth, q.third, q.second, q.first⟩

/-- Whether a test holds at every corner. -/
@[specialize] def all (q : Quad β) (test : β → Bool) : Bool :=
  test q.first && test q.second && test q.third && test q.fourth

/-- Whether a test holds at some corner. -/
@[specialize] def any (q : Quad β) (test : β → Bool) : Bool :=
  test q.first || test q.second || test q.third || test q.fourth

end Quad

/-- A corner of a polygon with its texture coordinates. -/
structure Corner (α : Type) where
  position : Vec3 α
  u : α
  v : α
  deriving BEq, DecidableEq

/-- A textured quad. -/
structure Polygon (α : Type) where
  corners : Quad (Corner α)
  normal : Vec3 α
  texture : Texture
  deriving BEq, DecidableEq

namespace Polygon

variable {α : Type}

/-- The corner positions in winding order. -/
def positions (p : Polygon α) : Quad (Vec3 α) := p.corners.map Corner.position

variable [Coordinate α]

/-- The box around the corners. -/
@[specialize] def bounds (p : Polygon α) : Box α :=
  p.positions.toList.foldl (fun box q => box.union (.point q)) (.point p.positions.first)

/-- Whether every corner lies in `box` widened by `tolerance`. -/
@[specialize] def isWithin (p : Polygon α) (box : Box α) (tolerance : α) : Bool :=
  p.positions.all fun q => box.contains q tolerance

/-- Whether every corner of either polygon is near a corner of the other. -/
@[specialize] def coincides (p q : Polygon α) (tolerance : α) : Bool :=
  p.positions.all (fun a => q.positions.any fun b => a.near b tolerance)
    && q.positions.all (fun b => p.positions.any fun a => a.near b tolerance)

end Polygon

end RoomLayout
