import RoomLayout.Geometry.Box
import RoomLayout.Placement.Alignment

/-!
# Geometry axis by axis

The tests of the geometry ask one question on each of the three axes. Here they are said
once for all axes, so that an argument about a room does not depend on which way the room
is looked at.
-/

namespace RoomLayout

theorem Axis.beq_iff_eq {a b : Axis} : (a == b) = true ↔ a = b := by
  cases a <;> cases b <;> decide

theorem Axis.forall_iff {property : Axis → Prop} :
    (∀ axis, property axis) ↔ property .x ∧ property .y ∧ property .z := by
  constructor
  · intro holds
    exact ⟨holds .x, holds .y, holds .z⟩
  · rintro ⟨x, y, z⟩ axis
    cases axis
    · exact x
    · exact y
    · exact z

namespace Vec3

/-- The value on an axis. -/
def along {β : Type} (v : Vec3 β) : Axis → β
  | .x => v.x
  | .y => v.y
  | .z => v.z

theorem ext_along {β : Type} {v w : Vec3 β} (same : ∀ axis, v.along axis = w.along axis) :
    v = w := by
  obtain ⟨x, y, z⟩ := v
  obtain ⟨x', y', z'⟩ := w
  obtain ⟨rfl, rfl, rfl⟩ := Axis.forall_iff.mp same
  rfl

variable {α : Type} [Coordinate α]

theorem mk_add_mk (x y z x' y' z' : α) :
    (⟨x, y, z⟩ : Vec3 α) + ⟨x', y', z'⟩ = ⟨x + x', y + y', z + z'⟩ := rfl

theorem neg_mk (x y z : α) : -(⟨x, y, z⟩ : Vec3 α) = ⟨-x, -y, -z⟩ := rfl

theorem near_iff {a b : Vec3 α} {tolerance : α} :
    a.near b tolerance = true
      ↔ ∀ axis, Coordinate.le (Coordinate.distance (a.along axis) (b.along axis)) tolerance := by
  simp only [Axis.forall_iff, near, Bool.and_eq_true, and_assoc]
  rfl

end Vec3

namespace Box

variable {α : Type} [Coordinate α] {tolerance : α}

open Coordinate

theorem contains_iff {box : Box α} {p : Vec3 α} :
    box.contains p tolerance = true
      ↔ ∀ axis, le (box.low.along axis - tolerance) (p.along axis)
        ∧ le (p.along axis) (box.high.along axis + tolerance) := by
  simp only [Axis.forall_iff, contains, Bool.and_eq_true, and_assoc]
  rfl

theorem intersects_iff {a b : Box α} :
    a.intersects b tolerance = true
      ↔ ∀ axis, le (a.low.along axis) (b.high.along axis + tolerance)
        ∧ le (b.low.along axis - tolerance) (a.high.along axis) := by
  simp only [Axis.forall_iff, intersects, Bool.and_eq_true, and_assoc]
  rfl

end Box

end RoomLayout
