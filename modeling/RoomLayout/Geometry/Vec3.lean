import RoomLayout.Geometry.Coordinate

/-!
# Vectors

Points and directions in level units. The vertical axis points downward: a
room's floor has a larger `y` than its ceiling.
-/

namespace RoomLayout

/-- One value for each of the three axes. -/
structure Vec3 (α : Type) where
  x : α
  y : α
  z : α
  deriving BEq, DecidableEq

namespace Vec3

/-- Apply a function on every axis. -/
@[specialize] def map {α β : Type} (f : α → β) (v : Vec3 α) : Vec3 β :=
  ⟨f v.x, f v.y, f v.z⟩

/-- The values in axis order. -/
def toList {α : Type} (v : Vec3 α) : List α := [v.x, v.y, v.z]

variable {α : Type} [Coordinate α]

open Coordinate

/-- The origin. -/
def zero : Vec3 α := ⟨Coordinate.zero, Coordinate.zero, Coordinate.zero⟩

/-- Componentwise sum. -/
@[specialize] def add (a b : Vec3 α) : Vec3 α := ⟨a.x + b.x, a.y + b.y, a.z + b.z⟩

/-- Componentwise difference. -/
@[specialize] def sub (a b : Vec3 α) : Vec3 α := ⟨a.x - b.x, a.y - b.y, a.z - b.z⟩

/-- The opposite direction. -/
@[specialize] def neg (a : Vec3 α) : Vec3 α := ⟨-a.x, -a.y, -a.z⟩

/-- The vector stretched by a factor. -/
@[specialize] def scale (a : Vec3 α) (factor : α) : Vec3 α :=
  ⟨a.x * factor, a.y * factor, a.z * factor⟩

/-- Vectors are added componentwise. -/
instance : Add (Vec3 α) := ⟨add⟩

/-- Vectors are subtracted componentwise. -/
instance : Sub (Vec3 α) := ⟨sub⟩

/-- The negative of a vector is the opposite direction. -/
instance : Neg (Vec3 α) := ⟨neg⟩

/-- The scalar product, summed in axis order. -/
@[specialize] def dot (a b : Vec3 α) : α := a.x * b.x + a.y * b.y + a.z * b.z

/-- The vector product. -/
@[specialize] def cross (a b : Vec3 α) : Vec3 α :=
  ⟨a.y * b.z - a.z * b.y, a.z * b.x - a.x * b.z, a.x * b.y - a.y * b.x⟩

/-- Whether two points differ by at most `tolerance` on every axis. -/
@[specialize] def near (a b : Vec3 α) (tolerance : α) : Bool :=
  le (distance a.x b.x) tolerance
    && le (distance a.y b.y) tolerance
    && le (distance a.z b.z) tolerance

/-- Componentwise smaller values. -/
@[specialize] def lesser (a b : Vec3 α) : Vec3 α :=
  ⟨Coordinate.lesser a.x b.x, Coordinate.lesser a.y b.y, Coordinate.lesser a.z b.z⟩

/-- Componentwise larger values. -/
@[specialize] def greater (a b : Vec3 α) : Vec3 α :=
  ⟨Coordinate.greater a.x b.x, Coordinate.greater a.y b.y, Coordinate.greater a.z b.z⟩

end Vec3

end RoomLayout
