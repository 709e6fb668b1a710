import Mathlib.Algebra.Order.Ring.Abs
import RoomLayout.Proofs.Geometry.Exact
import RoomLayout.Proofs.Tiling.FlushFaces

/-!
# How deep points lie in a box

A box lies behind each of its six sides, and how far behind a side a point lies is its depth
there. In exact arithmetic a point is in a widened box if its depth falls nowhere below
minus the tolerance, and a face of a room stands where the depth behind its own side is zero
and behind the opposite side is the whole extent. All other faces run along the depth, and each
of their tiles has an edge that does, so it reaches deeper than a tolerance that all edges exceed.
-/

namespace RoomLayout

namespace Face

/-- The axis that a face stands across. -/
def axis : Face → Axis
  | .floor | .ceiling => .y
  | .wallNorth | .wallSouth => .z
  | .wallEast | .wallWest => .x

@[simp] theorem opposite_opposite (face : Face) : face.opposite.opposite = face := by
  cases face <;> rfl

@[simp] theorem axis_opposite (face : Face) : face.opposite.axis = face.axis := by
  cases face <;> rfl

/-- Two faces stand across each axis, opposite to each other. -/
theorem eq_or_eq_opposite {face other : Face} (across : other.axis = face.axis) :
    other = face ∨ other = face.opposite := by
  revert across
  cases face <;> cases other <;> decide

/-- Columns and rows of a face are counted along the axes that it does not stand across. -/
theorem eq_columnAxis_or_eq_rowAxis {face : Face} {along : Axis} (spanned : along ≠ face.axis) :
    along = face.columnAxis ∨ along = face.rowAxis := by
  revert spanned
  cases face <;> cases along <;> decide

theorem columnAxis_ne_axis (face : Face) : face.columnAxis ≠ face.axis := by
  cases face <;> decide

theorem rowAxis_ne_axis (face : Face) : face.rowAxis ≠ face.axis := by
  cases face <;> decide

/-- The side of the box that a face starts at on an axis: its own side on the axis that it
stands across, and west, floor and south on the axes that it spans. -/
def startSide (face : Face) (axis : Axis) : Face :=
  if axis = face.axis then face
  else match axis with
    | .x => .wallWest
    | .y => .floor
    | .z => .wallSouth

theorem axis_startSide (face : Face) (axis : Axis) : (face.startSide axis).axis = axis := by
  cases face <;> cases axis <;> rfl

theorem startSide_axis (face : Face) : face.startSide face.axis = face := if_pos rfl

theorem startSide_opposite {face : Face} {axis : Axis} (spanned : axis ≠ face.axis) :
    face.opposite.startSide axis = face.startSide axis := by
  unfold startSide
  rw [axis_opposite, if_neg spanned, if_neg spanned]

end Face

/-- Where a side of a box stands on the axis that it stands across. -/
def Box.side {α : Type} (box : Box α) : Face → α
  | .floor => box.high.y
  | .ceiling => box.low.y
  | .wallNorth => box.high.z
  | .wallSouth => box.low.z
  | .wallEast => box.high.x
  | .wallWest => box.low.x

/-- How far a point lies behind a side of a box; negative for a point outside of that side. -/
def Box.depth (box : Box Rat) (p : Vec3 Rat) (face : Face) : Rat :=
  match face with
  | .floor | .wallNorth | .wallEast => box.side face - p.along face.axis
  | .ceiling | .wallSouth | .wallWest => p.along face.axis - box.side face

namespace Box

variable {box : Box Rat} {p : Vec3 Rat} {tolerance : Rat}

/-- A point is in the widened box if it is nowhere further outside than the tolerance. -/
theorem contains_iff_depth :
    box.contains p tolerance = true ↔ ∀ face, -tolerance ≤ box.depth p face := by
  rw [contains_iff_le]
  constructor
  · intro inside face
    obtain ⟨low, high⟩ := inside face.axis
    cases face <;> simp only [depth, side, Face.axis, Vec3.along] at * <;> linarith
  · intro inside axis
    cases axis with
    | x =>
      have west : -tolerance ≤ p.x - box.low.x := inside .wallWest
      have east : -tolerance ≤ box.high.x - p.x := inside .wallEast
      simp only [Vec3.along]
      constructor <;> linarith
    | y =>
      have ceiling : -tolerance ≤ p.y - box.low.y := inside .ceiling
      have floor : -tolerance ≤ box.high.y - p.y := inside .floor
      simp only [Vec3.along]
      constructor <;> linarith
    | z =>
      have south : -tolerance ≤ p.z - box.low.z := inside .wallSouth
      have north : -tolerance ≤ box.high.z - p.z := inside .wallNorth
      simp only [Vec3.along]
      constructor <;> linarith

/-- Between two points the depth changes by as much as the coordinate does. -/
theorem sq_depth_sub (p q : Vec3 Rat) (face : Face) :
    (box.depth q face - box.depth p face) ^ 2 = (q.along face.axis - p.along face.axis) ^ 2 := by
  cases face <;> simp only [depth] <;> ring

/-- Sides at one place face apart: what is deep behind the one is outside of the other. -/
theorem depth_opposite_eq_neg {a b : Box Rat} {face : Face}
    (meet : a.side face = b.side face.opposite) (p : Vec3 Rat) :
    b.depth p face.opposite = -a.depth p face := by
  cases face <;> simp only [depth, Face.opposite, Face.axis] at meet ⊢ <;> rw [meet] <;> ring

theorem depth_congr {a b : Box Rat} {face : Face} (same : a.side face = b.side face)
    (p : Vec3 Rat) : a.depth p face = b.depth p face := by
  cases face <;> simp only [depth, same]

end Box

namespace FaceLayout

/-- The point of a face at the given distances from its start. -/
def point {α : Type} [Coordinate α] (layout : FaceLayout α) (u v : α) : Vec3 α :=
  layout.start + layout.uDirection.scale u + layout.vDirection.scale v

variable {origin size : Vec3 Rat}

/-- Where the points of a face are: columns go east or north, and rows go north on floor and
ceiling and up on walls. -/
theorem point_ofFace (face : Face) (u v : Rat) :
    (ofFace face origin size).point u v =
      match face with
      | .floor => ⟨origin.x - size.x / 2 + u, origin.y, origin.z - size.z / 2 + v⟩
      | .ceiling => ⟨origin.x - size.x / 2 + u, origin.y - size.y, origin.z - size.z / 2 + v⟩
      | .wallNorth => ⟨origin.x - size.x / 2 + u, origin.y - v, origin.z + size.z / 2⟩
      | .wallSouth => ⟨origin.x - size.x / 2 + u, origin.y - v, origin.z - size.z / 2⟩
      | .wallEast => ⟨origin.x + size.x / 2, origin.y - v, origin.z - size.z / 2 + u⟩
      | .wallWest => ⟨origin.x - size.x / 2, origin.y - v, origin.z - size.z / 2 + u⟩ := by
  cases face <;>
    simp only [point, ofFace, Coordinate.half_eq, Vec3.east, Vec3.north, Vec3.down, Vec3.scale,
      Coordinate.one_eq, Coordinate.zero_eq, Vec3.neg_mk, Vec3.mk_add_mk, Vec3.mk.injEq] <;>
    exact ⟨by ring, by ring, by ring⟩

/-- Moving along the columns changes the place on one axis only. -/
theorem along_point_of_ne_columnAxis {face : Face} {axis : Axis} (fixed : axis ≠ face.columnAxis)
    (u u' v : Rat) :
    ((ofFace face origin size).point u v).along axis
      = ((ofFace face origin size).point u' v).along axis := by
  rw [point_ofFace, point_ofFace]
  cases face <;> cases axis <;> first | rfl | exact absurd rfl fixed

/-- Moving along the rows changes the place on one axis only. -/
theorem along_point_of_ne_rowAxis {face : Face} {axis : Axis} (fixed : axis ≠ face.rowAxis)
    (u v v' : Rat) :
    ((ofFace face origin size).point u v).along axis
      = ((ofFace face origin size).point u v').along axis := by
  rw [point_ofFace, point_ofFace]
  cases face <;> cases axis <;> first | rfl | exact absurd rfl fixed

variable (positive : ∀ axis, 0 < size.along axis)
include positive

/-- The sides of the box of a room decide where its faces start. -/
theorem along_start_ofFace (face : Face) (axis : Axis) :
    (ofFace face origin size).start.along axis
      = (Room.boxAt origin size).side (face.startSide axis) := by
  rw [Room.boxAt_of_positive positive]
  cases face <;> cases axis <;> rfl

/-- A room extends from side to side. -/
theorem depth_add_depth_opposite (p : Vec3 Rat) (face : Face) :
    (Room.boxAt origin size).depth p face + (Room.boxAt origin size).depth p face.opposite
      = size.along face.axis := by
  rw [Room.boxAt_of_positive positive]
  cases face <;> simp only [Box.depth, Box.side, Face.opposite, Face.axis, Vec3.along] <;> ring

/-- A point that is not beyond a side is at most as deep behind the opposite one as the room
extends. -/
theorem depth_le_size {p : Vec3 Rat} {face : Face}
    (notBeyond : 0 ≤ (Room.boxAt origin size).depth p face.opposite) :
    (Room.boxAt origin size).depth p face ≤ size.along face.axis := by
  rw [← depth_add_depth_opposite positive p face]
  exact le_add_of_nonneg_right notBeyond

/-- A face stands on its own side of the box. -/
theorem depth_point_self (face : Face) (u v : Rat) :
    (Room.boxAt origin size).depth ((ofFace face origin size).point u v) face = 0 := by
  rw [Room.boxAt_of_positive positive, point_ofFace]
  cases face <;> exact sub_self _

/-- Behind the opposite side, a face is as deep as the room extends. -/
theorem depth_point_opposite (face : Face) (u v : Rat) :
    (Room.boxAt origin size).depth ((ofFace face origin size).point u v) face.opposite
      = size.along face.axis := by
  rw [← depth_add_depth_opposite positive ((ofFace face origin size).point u v) face,
    depth_point_self positive, zero_add]

/-- A face stays in the box. -/
theorem depth_point_nonneg (face : Face) {u v : Rat}
    (columns : 0 ≤ u ∧ u ≤ size.along face.columnAxis)
    (rows : 0 ≤ v ∧ v ≤ size.along face.rowAxis) (other : Face) :
    0 ≤ (Room.boxAt origin size).depth ((ofFace face origin size).point u v) other := by
  obtain ⟨x, y, z⟩ := Axis.forall_iff.mp positive
  rw [Room.boxAt_of_positive positive, point_ofFace]
  cases face <;> cases other <;>
    simp only [Box.depth, Box.side, Face.axis, Face.columnAxis, Face.rowAxis, Vec3.along] at * <;>
    linarith

end FaceLayout

/-- The grid lines of a length stand on it. -/
theorem gridLine_mem {extent : Rat} (nonneg : 0 ≤ extent) {count index : Nat}
    (within : index ≤ count) :
    0 ≤ gridLine extent count index ∧ gridLine extent count index ≤ extent := by
  have ratio : (index : Rat) ≤ count := Nat.cast_le.mpr within
  constructor
  · exact div_nonneg (mul_nonneg nonneg index.cast_nonneg) count.cast_nonneg
  · exact div_le_of_le_mul₀ count.cast_nonneg nonneg (mul_le_mul_of_nonneg_left ratio nonneg)

/-- Whether every edge of a polygon is longer than a length; lengths are compared by their
squares. -/
def Polygon.EdgesExceed (p : Polygon Rat) (length : Rat) : Prop :=
  ∀ edge ∈ p.positions.edges, length ^ 2 < (edge.2 - edge.1).dot (edge.2 - edge.1)

instance (p : Polygon Rat) (length : Rat) : Decidable (p.EdgesExceed length) :=
  inferInstanceAs (Decidable (∀ edge ∈ p.positions.edges, _))

/-- An edge along an axis is as long as its ends are apart on that axis. -/
theorem Vec3.dot_sub_of_parallel {p q : Vec3 Rat} {axis : Axis}
    (parallel : ∀ other, other ≠ axis → p.along other = q.along other) :
    (q - p).dot (q - p) = (q.along axis - p.along axis) ^ 2 := by
  have difference : (q - p).dot (q - p)
      = (q.x - p.x) ^ 2 + (q.y - p.y) ^ 2 + (q.z - p.z) ^ 2 := by
    change (q.x - p.x) * (q.x - p.x) + (q.y - p.y) * (q.y - p.y) + (q.z - p.z) * (q.z - p.z) = _
    ring
  rw [difference]
  cases axis with
  | x =>
    have y : p.y = q.y := parallel .y (by decide)
    have z : p.z = q.z := parallel .z (by decide)
    simp [y, z, Vec3.along]
  | y =>
    have x : p.x = q.x := parallel .x (by decide)
    have z : p.z = q.z := parallel .z (by decide)
    simp [x, z, Vec3.along]
  | z =>
    have x : p.x = q.x := parallel .x (by decide)
    have y : p.y = q.y := parallel .y (by decide)
    simp [x, y, Vec3.along]

namespace RoomPlan

/-- The box of the room of a plan. -/
def box {α : Type} [Coordinate α] (plan : RoomPlan α) : Box α := Room.boxAt plan.origin plan.size

variable {plan : RoomPlan Rat} {tileSize tolerance : Rat} {face : Face} {p : Polygon Rat}

/-- A tile has edges along both axes that its face spans. -/
theorem exists_edge_along (member : p ∈ plan.tiles tileSize face) {axis : Axis}
    (spanned : axis ≠ face.axis) :
    ∃ edge ∈ p.positions.edges,
      ∀ other, other ≠ axis → edge.1.along other = edge.2.along other := by
  obtain ⟨i, j, -, -, same⟩ :=
    FaceLayout.exists_cell_of_mem_faceTiles (mem_faceTiles_of_mem_tiles member).2
  have parallel : ∃ a b, (a, b) ∈ (FaceLayout.gridCell tileSize (plan.layout face) i j).edges
      ∧ ∀ other, other ≠ axis → a.along other = b.along other := by
    rcases Face.eq_columnAxis_or_eq_rowAxis spanned with rfl | rfl
    · exact ⟨_, _, List.mem_cons_self,
        fun other fixed => FaceLayout.along_point_of_ne_columnAxis fixed _ _ _⟩
    · exact ⟨_, _, List.mem_cons_of_mem _ List.mem_cons_self,
        fun other fixed => FaceLayout.along_point_of_ne_rowAxis fixed _ _ _⟩
  obtain ⟨a, b, edge, agree⟩ := parallel
  rcases same.mem_edges edge with kept | turned
  · exact ⟨_, kept, agree⟩
  · exact ⟨_, turned, fun other fixed => (agree other fixed).symm⟩

/-- A tile that runs along the depth behind a face has two corners that are further apart in
depth than its edges exceed. -/
theorem exists_depth_gap {other : Face} (member : p ∈ plan.tiles tileSize other)
    (spanned : face.axis ≠ other.axis) (long : p.EdgesExceed tolerance) :
    ∃ near ∈ p.positions.toList, ∃ far ∈ p.positions.toList,
      tolerance < plan.box.depth far face - plan.box.depth near face := by
  obtain ⟨edge, isEdge, parallel⟩ := exists_edge_along member spanned
  obtain ⟨isFirst, isSecond⟩ := Quad.mem_toList_of_mem_edges isEdge
  have exceeds : tolerance ^ 2
      < (plan.box.depth edge.2 face - plan.box.depth edge.1 face) ^ 2 := by
    rw [Box.sq_depth_sub, ← Vec3.dot_sub_of_parallel parallel]
    exact long edge isEdge
  rw [sq_lt_sq] at exceeds
  rcases lt_abs.mp ((le_abs_self tolerance).trans_lt exceeds) with inward | outward
  · exact ⟨edge.1, isFirst, edge.2, isSecond, inward⟩
  · exact ⟨edge.2, isSecond, edge.1, isFirst, by rwa [neg_sub] at outward⟩

variable (positive : ∀ axis, 0 < plan.size.along axis)
include positive

theorem width_layout_pos (face : Face) : 0 < (plan.layout face).width := by
  rw [layout, FaceLayout.width_ofFace]
  exact positive _

theorem height_layout_pos (face : Face) : 0 < (plan.layout face).height := by
  rw [layout, FaceLayout.height_ofFace]
  exact positive _

/-- Every corner of a tile is a point of its face. -/
theorem exists_point_of_mem_tiles (member : p ∈ plan.tiles tileSize face) {corner : Vec3 Rat}
    (isCorner : corner ∈ p.positions.toList) :
    ∃ u v, corner = (plan.layout face).point u v
      ∧ (0 ≤ u ∧ u ≤ plan.size.along face.columnAxis)
      ∧ (0 ≤ v ∧ v ≤ plan.size.along face.rowAxis) := by
  obtain ⟨i, j, column, row, same⟩ :=
    FaceLayout.exists_cell_of_mem_faceTiles (mem_faceTiles_of_mem_tiles member).2
  obtain ⟨i', j', inColumn, inRow, rfl⟩ :=
    FaceLayout.exists_gridPoint_of_mem_gridCell (same.mem_toList_iff.mp isCorner)
  refine ⟨_, _, rfl, ?_, ?_⟩
  · rw [← FaceLayout.width_ofFace face plan.origin plan.size]
    exact gridLine_mem (width_layout_pos positive face).le (by omega)
  · rw [← FaceLayout.height_ofFace face plan.origin plan.size]
    exact gridLine_mem (height_layout_pos positive face).le (by omega)

/-- The corners of a tile are in the box of its room. -/
theorem depth_nonneg_of_mem_tiles (member : p ∈ plan.tiles tileSize face) {corner : Vec3 Rat}
    (isCorner : corner ∈ p.positions.toList) (other : Face) : 0 ≤ plan.box.depth corner other := by
  obtain ⟨u, v, rfl, columns, rows⟩ := exists_point_of_mem_tiles positive member isCorner
  exact FaceLayout.depth_point_nonneg positive face columns rows other

theorem depth_le_of_mem_tiles (member : p ∈ plan.tiles tileSize face) {corner : Vec3 Rat}
    (isCorner : corner ∈ p.positions.toList) (other : Face) :
    plan.box.depth corner other ≤ plan.size.along other.axis :=
  FaceLayout.depth_le_size positive
    (depth_nonneg_of_mem_tiles positive member isCorner other.opposite)

/-- Every tile of another face has a corner deeper behind a face than the tolerance: an end of
an edge along the depth, or any corner if the other face is the opposite one. -/
theorem exists_deep_corner {other : Face} (member : p ∈ plan.tiles tileSize other)
    (different : other ≠ face) (long : p.EdgesExceed tolerance)
    (extensive : tolerance < plan.size.along face.axis) :
    ∃ corner ∈ p.positions.toList, tolerance < plan.box.depth corner face := by
  by_cases across : other.axis = face.axis
  case pos =>
    obtain rfl : other = face.opposite := (Face.eq_or_eq_opposite across).resolve_left different
    have isCorner : p.positions.first ∈ p.positions.toList := List.mem_cons_self
    obtain ⟨u, v, place, -, -⟩ := exists_point_of_mem_tiles positive member isCorner
    have depth : plan.box.depth p.positions.first face.opposite.opposite
        = plan.size.along face.opposite.axis :=
      place ▸ FaceLayout.depth_point_opposite positive face.opposite u v
    rw [Face.opposite_opposite, Face.axis_opposite] at depth
    exact ⟨_, isCorner, depth ▸ extensive⟩
  case neg =>
    obtain ⟨near, isNear, far, isFar, gap⟩ := exists_depth_gap member (Ne.symm across) long
    have nearDepth := depth_nonneg_of_mem_tiles positive member isNear face
    exact ⟨far, isFar, by linarith⟩

/-- A room is longer than the edges that run along it. -/
theorem lt_size_along_of_hasFace {other : Face} (present : plan.HasFace other)
    (spanned : face.axis ≠ other.axis)
    (long : ∀ p ∈ plan.tiles tileSize other, p.EdgesExceed tolerance) :
    tolerance < plan.size.along face.axis := by
  obtain ⟨p, member⟩ : ∃ p, p ∈ plan.tiles tileSize other := by
    rw [tiles_of_hasFace present]
    exact List.exists_mem_of_ne_nil _ (FaceLayout.faceTiles_ne_nil _ _ _)
  obtain ⟨near, isNear, far, isFar, gap⟩ := exists_depth_gap member spanned (long p member)
  have nearDepth := depth_nonneg_of_mem_tiles positive member isNear face
  have farDepth := depth_le_of_mem_tiles positive member isFar face
  linarith

end RoomPlan

end RoomLayout
