import Mathlib.Algebra.Order.Field.Rat
import Mathlib.Algebra.Order.Group.Unbundled.Abs
import Mathlib.Tactic.Linarith
import Mathlib.Tactic.Ring
import RoomLayout.Proofs.Geometry.Axes
import RoomLayout.Room.Basic

/-!
# Exact geometry

Over the rationals the tests of the geometry are the order, and its operations are those of
arithmetic. So a point is near itself, and a room has its box where its extent says.
-/

namespace RoomLayout

namespace Coordinate

variable {x y : Rat}

theorem one_eq : (one : Rat) = 1 := rfl

theorem zero_eq : (zero : Rat) = 0 := rfl

theorem le_iff : le x y = true ↔ x ≤ y := decide_eq_true_iff

theorem lt_iff : lt x y = true ↔ x < y := decide_eq_true_iff

theorem lesser_of_le (ordered : x ≤ y) : lesser x y = x := by
  have isNumber : isNumber x = true := le_iff.mpr le_rfl
  have notSmaller : lt y x = false := decide_eq_false (not_lt.mpr ordered)
  simp [lesser, isNumber, notSmaller]

theorem greater_of_le (ordered : x ≤ y) : greater x y = y := by
  have isNumber : isNumber x = true := le_iff.mpr le_rfl
  rcases ordered.eq_or_lt with rfl | smaller
  · simp [greater]
  · simp [greater, isNumber, lt_iff.mpr smaller]

theorem distance_eq_abs (x y : Rat) : distance x y = |x - y| := by
  simp only [distance, lt_iff, zero_eq]
  split
  · next negative => rw [abs_of_neg negative]
  · next nonneg => rw [abs_of_nonneg (not_lt.mp nonneg)]

theorem distance_self (x : Rat) : distance x x = 0 := by
  rw [distance_eq_abs, sub_self, abs_zero]

theorem half_eq (x : Rat) : half x = x / 2 := rfl

end Coordinate

namespace Box

variable {tolerance : Rat}

theorem contains_iff_le {box : Box Rat} {p : Vec3 Rat} :
    box.contains p tolerance = true
      ↔ ∀ axis, box.low.along axis - tolerance ≤ p.along axis
        ∧ p.along axis ≤ box.high.along axis + tolerance := by
  simp only [contains_iff, Coordinate.le_iff]

/-- Boxes that hold one point intersect. -/
theorem intersects_of_contains {a b : Box Rat} {p : Vec3 Rat} (nonneg : 0 ≤ tolerance)
    (first : a.contains p 0 = true) (second : b.contains p 0 = true) :
    a.intersects b tolerance = true := by
  rw [contains_iff_le] at first second
  rw [intersects_iff]
  intro axis
  obtain ⟨firstLow, firstHigh⟩ := first axis
  obtain ⟨secondLow, secondHigh⟩ := second axis
  simp only [Coordinate.le_iff]
  constructor
  · linarith
  · linarith

end Box

/-- A room has its box around its origin, and above it, as far as its extent says. -/
theorem Room.boxAt_of_nonneg {origin size : Vec3 Rat} (nonneg : ∀ axis, 0 ≤ size.along axis) :
    boxAt origin size =
      ⟨⟨origin.x - size.x / 2, origin.y - size.y, origin.z - size.z / 2⟩,
        ⟨origin.x + size.x / 2, origin.y, origin.z + size.z / 2⟩⟩ := by
  obtain ⟨x, y, z⟩ := Axis.forall_iff.mp nonneg
  simp only [Vec3.along] at x y z
  have alongX : origin.x - size.x / 2 ≤ origin.x + size.x / 2 := by linarith
  have alongY : origin.y - size.y ≤ origin.y := by linarith
  have alongZ : origin.z - size.z / 2 ≤ origin.z + size.z / 2 := by linarith
  simp only [boxAt, Box.ofCorners, Vec3.lesser, Vec3.greater, Coordinate.half_eq,
    Coordinate.lesser_of_le alongX, Coordinate.greater_of_le alongX,
    Coordinate.lesser_of_le alongY, Coordinate.greater_of_le alongY,
    Coordinate.lesser_of_le alongZ, Coordinate.greater_of_le alongZ]

theorem Room.boxAt_of_positive {origin size : Vec3 Rat} (positive : ∀ axis, 0 < size.along axis) :
    boxAt origin size =
      ⟨⟨origin.x - size.x / 2, origin.y - size.y, origin.z - size.z / 2⟩,
        ⟨origin.x + size.x / 2, origin.y, origin.z + size.z / 2⟩⟩ :=
  boxAt_of_nonneg fun axis => (positive axis).le

end RoomLayout
