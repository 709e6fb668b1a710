import Mathlib.Tactic.LinearCombination
import RoomLayout.Proofs.Tiling.Depth

/-!
# Areas of quads

The area of a quad consists of all means of its corners, and its inside of the means in which
every corner counts. So both are said without knowing where the quad lies or how it is wound.
A cell of a face is the rectangle between two column lines and two row lines: its area is what
lies between these lines, and it is wound as seen from the room.
-/

namespace RoomLayout

namespace Quad

/-- The mean of the corners of a quad, with a weight for each of them. -/
def mean (q : Quad (Vec3 Rat)) (weights : Quad Rat) : Vec3 Rat :=
  q.first.scale weights.first + q.second.scale weights.second
    + q.third.scale weights.third + q.fourth.scale weights.fourth

/-- Whether a point is a mean of the corners with weights of one kind. -/
def HasMean (q : Quad (Vec3 Rat)) (IsAllowed : Rat → Prop) (point : Vec3 Rat) : Prop :=
  ∃ weights : Quad Rat, (∀ weight ∈ weights.toList, IsAllowed weight)
    ∧ weights.toList.sum = 1 ∧ q.mean weights = point

/-- Whether a point lies in the area of a quad. -/
def Covers (q : Quad (Vec3 Rat)) (point : Vec3 Rat) : Prop := q.HasMean (0 ≤ ·) point

/-- Whether a point lies in the area of a quad and not on its border. -/
def CoversInside (q : Quad (Vec3 Rat)) (point : Vec3 Rat) : Prop := q.HasMean (0 < ·) point

/-- Whether no point lies inside of both quads. -/
def Apart (q r : Quad (Vec3 Rat)) : Prop := ∀ point, q.CoversInside point → ¬r.CoversInside point

variable {q r : Quad (Vec3 Rat)} {IsAllowed : Rat → Prop} {point : Vec3 Rat}

theorem along_mean (q : Quad (Vec3 Rat)) (weights : Quad Rat) (axis : Axis) :
    (q.mean weights).along axis
      = q.first.along axis * weights.first + q.second.along axis * weights.second
        + q.third.along axis * weights.third + q.fourth.along axis * weights.fourth := by
  cases axis <;> rfl

theorem mean_reverse (q : Quad (Vec3 Rat)) (weights : Quad Rat) :
    q.reverse.mean weights.reverse = q.mean weights := by
  refine Vec3.ext_along fun axis => ?_
  rw [along_mean, along_mean]
  simp only [reverse]
  ring

theorem sum_toList (weights : Quad Rat) :
    weights.toList.sum = weights.first + weights.second + weights.third + weights.fourth := by
  simp only [toList, List.sum_cons, List.sum_nil]
  ring

theorem HasMean.reverse (mean : q.HasMean IsAllowed point) :
    q.reverse.HasMean IsAllowed point := by
  obtain ⟨weights, allowed, total, rfl⟩ := mean
  refine ⟨weights.reverse, ?_, ?_, mean_reverse q weights⟩
  · intro weight member
    rw [toList_reverse, List.mem_reverse] at member
    exact allowed weight member
  · rw [toList_reverse, List.sum_reverse, total]

/-- Winding does not change the area. -/
theorem SameUpToWinding.hasMean_iff (same : q.SameUpToWinding r) :
    r.HasMean IsAllowed point ↔ q.HasMean IsAllowed point := by
  rcases same with rfl | rfl
  · exact Iff.rfl
  · exact ⟨HasMean.reverse, HasMean.reverse⟩

end Quad

namespace FaceLayout

/-- The rectangle of a face between two column lines and two row lines. -/
def rectangle {α : Type} [Coordinate α] (layout : FaceLayout α) (u u' v v' : α) : Quad (Vec3 α) :=
  ⟨layout.point u v, layout.point u' v, layout.point u' v', layout.point u v'⟩

variable {layout : FaceLayout Rat} {u u' v v' : Rat} {point : Vec3 Rat}

theorem along_point (layout : FaceLayout Rat) (u v : Rat) (axis : Axis) :
    (layout.point u v).along axis
      = layout.start.along axis + layout.uDirection.along axis * u
        + layout.vDirection.along axis * v := by
  cases axis <;> rfl

/-- A mean of the corners of a rectangle is the point as far between the lines as the corners
beyond weigh. -/
theorem mean_rectangle {weights : Quad Rat} (total : weights.toList.sum = 1) :
    (layout.rectangle u u' v v').mean weights
      = layout.point (u + (u' - u) * (weights.second + weights.third))
        (v + (v' - v) * (weights.third + weights.fourth)) := by
  rw [Quad.sum_toList] at total
  refine Vec3.ext_along fun axis => ?_
  simp only [Quad.along_mean, rectangle, along_point]
  linear_combination (layout.start.along axis + layout.uDirection.along axis * u
    + layout.vDirection.along axis * v) * total

theorem between_iff (ordered : u < u') {s : Rat} :
    (u ≤ u + (u' - u) * s ∧ u + (u' - u) * s ≤ u') ↔ 0 ≤ s ∧ s ≤ 1 := by
  have extent : 0 < u' - u := sub_pos.mpr ordered
  rw [le_add_iff_nonneg_right, mul_nonneg_iff_of_pos_left extent, ← le_sub_iff_add_le',
    mul_le_iff_le_one_right extent]

theorem strictly_between_iff (ordered : u < u') {s : Rat} :
    (u < u + (u' - u) * s ∧ u + (u' - u) * s < u') ↔ 0 < s ∧ s < 1 := by
  have extent : 0 < u' - u := sub_pos.mpr ordered
  rw [lt_add_iff_pos_right, mul_pos_iff_of_pos_left extent, ← lt_sub_iff_add_lt',
    mul_lt_iff_lt_one_right extent]

theorem exists_fraction (ordered : u < u') (a : Rat) : ∃ s, u + (u' - u) * s = a :=
  ⟨(a - u) / (u' - u), by rw [mul_div_cancel₀ _ (sub_pos.mpr ordered).ne', add_sub_cancel]⟩

/-- The area of a rectangle is what lies between its lines. -/
theorem covers_rectangle_iff (columns : u < u') (rows : v < v') :
    (layout.rectangle u u' v v').Covers point
      ↔ ∃ a b, (u ≤ a ∧ a ≤ u') ∧ (v ≤ b ∧ b ≤ v') ∧ layout.point a b = point := by
  constructor
  · rintro ⟨weights, nonneg, total, rfl⟩
    refine ⟨_, _, (between_iff columns).mpr ?_, (between_iff rows).mpr ?_,
      (mean_rectangle total).symm⟩
    all_goals
      rw [Quad.sum_toList] at total
      simp only [Quad.toList, List.forall_mem_cons] at nonneg
      obtain ⟨first, second, third, fourth, -⟩ := nonneg
      constructor <;> linarith
  · rintro ⟨a, b, column, row, rfl⟩
    -- A corner weighs as much as the point has gone toward it on both axes.
    obtain ⟨s, rfl⟩ := exists_fraction columns a
    obtain ⟨t, rfl⟩ := exists_fraction rows b
    obtain ⟨sNonneg, sLeOne⟩ := (between_iff columns).mp column
    obtain ⟨tNonneg, tLeOne⟩ := (between_iff rows).mp row
    have total : (⟨(1 - s) * (1 - t), s * (1 - t), s * t, (1 - s) * t⟩ : Quad Rat).toList.sum
        = 1 := by
      rw [Quad.sum_toList]
      ring
    refine ⟨_, ?_, total, ?_⟩
    · simp only [Quad.toList, List.forall_mem_cons]
      exact ⟨mul_nonneg (sub_nonneg.mpr sLeOne) (sub_nonneg.mpr tLeOne),
        mul_nonneg sNonneg (sub_nonneg.mpr tLeOne), mul_nonneg sNonneg tNonneg,
        mul_nonneg (sub_nonneg.mpr sLeOne) tNonneg, by simp⟩
    · rw [mean_rectangle total]
      congr 1 <;> ring

/-- The inside of a rectangle lies strictly between its lines. -/
theorem exists_point_of_coversInside_rectangle (columns : u < u') (rows : v < v')
    (inside : (layout.rectangle u u' v v').CoversInside point) :
    ∃ a b, (u < a ∧ a < u') ∧ (v < b ∧ b < v') ∧ layout.point a b = point := by
  obtain ⟨weights, positive, total, rfl⟩ := inside
  refine ⟨_, _, (strictly_between_iff columns).mpr ?_, (strictly_between_iff rows).mpr ?_,
    (mean_rectangle total).symm⟩
  all_goals
    rw [Quad.sum_toList] at total
    simp only [Quad.toList, List.forall_mem_cons] at positive
    obtain ⟨first, second, third, fourth, -⟩ := positive
    constructor <;> linarith

/-- How a cell is wound: the product of its first edge and its first diagonal points along the
product of the directions that the face spans in, or against it if the cell is turned over. -/
theorem cross_wind_rectangle (layout : FaceLayout Rat) (u u' v v' : Rat) :
    let q := layout.wind (layout.rectangle u u' v v')
    (q.second - q.first).cross (q.third - q.first)
      = (layout.uDirection.cross layout.vDirection).scale
        (if layout.windsOutward then -((u' - u) * (v' - v)) else (u' - u) * (v' - v)) := by
  have sub (a b : Vec3 Rat) : a - b = ⟨a.x - b.x, a.y - b.y, a.z - b.z⟩ := rfl
  have add (a b : Vec3 Rat) : a + b = ⟨a.x + b.x, a.y + b.y, a.z + b.z⟩ := rfl
  intro q
  simp only [q, wind]
  split <;>
    simp only [rectangle, Quad.reverse, point, sub, add, Vec3.cross, Vec3.scale, Vec3.mk.injEq] <;>
    exact ⟨by ring, by ring, by ring⟩

/-- The directions of a face are turned against the room exactly if its cells are turned over. -/
theorem cross_directions_ofFace (face : Face) (origin size : Vec3 Rat) :
    let layout := ofFace face origin size
    layout.uDirection.cross layout.vDirection
      = face.inward.scale (if layout.windsOutward then -1 else 1) := by
  cases face <;>
    simp [ofFace, windsOutward, Coordinate.lt_iff, Vec3.cross, Vec3.dot, Vec3.scale, Face.inward,
      Vec3.east, Vec3.north, Vec3.down, Vec3.neg_mk, Coordinate.one_eq, Coordinate.zero_eq]

/-- The cells of a face are wound as seen from the room. -/
theorem cross_wind_rectangle_ofFace (face : Face) (origin size : Vec3 Rat) (u u' v v' : Rat) :
    let layout := ofFace face origin size
    let q := layout.wind (layout.rectangle u u' v v')
    (q.second - q.first).cross (q.third - q.first)
      = face.inward.scale ((u' - u) * (v' - v)) := by
  have scale_scale (a : Vec3 Rat) (s t : Rat) : (a.scale s).scale t = a.scale (s * t) := by
    simp only [Vec3.scale, mul_assoc]
  intro layout q
  rw [cross_wind_rectangle, cross_directions_ofFace, scale_scale]
  congr 1
  split <;> ring

end FaceLayout

end RoomLayout
