import RoomLayout.Proofs.Tiling.ExactCover
import RoomLayout.Proofs.Tiling.Mesh

/-!
# Faces close the box

In exact arithmetic the faces of a room are the sides of its box. The tiles of a face cover its
side and nothing else, without overlapping; they are wound as seen from the room, which their
normal points into; and their texture coordinates are distances from where the face starts.

These distances are depths behind the sides that the face starts at. A corner of a tile has them
as its coordinates on the face, divided by the length over which the texture repeats.
-/

namespace RoomLayout

/-- A fitted texture repeats once over an extent, and others do with every tile. -/
theorem repeatLength_of_positive {tileSize : Rat} (tiling : 0 < tileSize) (isFitted : Bool)
    (extent : Rat) :
    repeatLength tileSize isFitted extent = if isFitted then extent else tileSize := by
  have positive : Coordinate.le tileSize Coordinate.zero = false :=
    decide_eq_false (by rw [Coordinate.zero_eq]; exact not_le.mpr tiling)
  rw [repeatLength, positive, Bool.or_false]

namespace FaceLayout

/-- The corner of a face at the given distances from its start. -/
def cornerAt (tileSize : Rat) (layout : FaceLayout Rat) (fit : Fit) (u v : Rat) : Corner Rat :=
  ⟨layout.point u v, u / repeatLength tileSize fit.x layout.width,
    v / repeatLength tileSize fit.y layout.height⟩

theorem vertices_eq_cornerAt (tileSize : Rat) (layout : FaceLayout Rat) (fit : Fit)
    (i : Fin (tileCount tileSize layout.width + 1))
    (j : Fin (tileCount tileSize layout.height + 1)) :
    vertices tileSize layout fit i j
      = layout.cornerAt tileSize fit (tileLine tileSize layout.width i.val)
        (tileLine tileSize layout.height j.val) :=
  rfl

end FaceLayout

namespace RoomPlan

/-- On one axis of a face, texture coordinates are distances from where the face starts: parts of
the extent of the face if the texture is fitted there, and tile lengths otherwise. So a fitted
texture runs from `0` to `1` over the face. -/
structure IsTexturedAlong (plan : RoomPlan Rat) (tileSize : Rat) (face : Face) (axis : Axis)
    (coordinate : Corner Rat → Rat) (isFitted : Bool) : Prop where
  distance : ∀ tile ∈ plan.tiles tileSize face, ∀ corner ∈ tile.corners.toList,
    coordinate corner = |corner.position.along axis - (plan.layout face).start.along axis|
      / if isFitted then plan.size.along axis else tileSize
  within : isFitted = true → ∀ tile ∈ plan.tiles tileSize face, ∀ corner ∈ tile.corners.toList,
    0 ≤ coordinate corner ∧ coordinate corner ≤ 1
  first : isFitted = true → ∃ tile ∈ plan.tiles tileSize face, ∃ corner ∈ tile.corners.toList,
    coordinate corner = 0
  last : isFitted = true → ∃ tile ∈ plan.tiles tileSize face, ∃ corner ∈ tile.corners.toList,
    coordinate corner = 1

/-- The tiles of a face are a tiling of a side of the box, as seen from the room. -/
structure IsTiledExactly (plan : RoomPlan Rat) (tileSize : Rat) (face : Face) : Prop where
  /-- The tiles cover the side, and nothing else. -/
  covers : ∀ point, (∃ tile ∈ plan.tiles tileSize face, tile.positions.Covers point)
    ↔ plan.box.OnSide face point
  apart : (plan.tiles tileSize face).Pairwise fun p q => p.positions.Apart q.positions
  /-- The tiles are wound around their normal. -/
  winding : ∀ tile ∈ plan.tiles tileSize face, ∃ area > 0,
    (tile.positions.second - tile.positions.first).cross
      (tile.positions.third - tile.positions.first) = tile.normal.scale area
  /-- From the side, the room is where the normal points to. -/
  inward : ∀ tile ∈ plan.tiles tileSize face, ∀ point, plan.box.OnSide face point →
    ∀ t, plan.box.contains (point + tile.normal.scale t) 0 = true
      ↔ 0 ≤ t ∧ t ≤ plan.size.along face.axis
  columns : plan.IsTexturedAlong tileSize face face.columnAxis Corner.u
    (plan.surfaces.face face).fit.x
  rows : plan.IsTexturedAlong tileSize face face.rowAxis Corner.v (plan.surfaces.face face).fit.y

section

variable {plan : RoomPlan Rat} {tileSize : Rat} {face : Face}
  (positive : ∀ axis, 0 < plan.size.along axis)
include positive

/-- Every tile is wound around its normal. -/
theorem winding_of_mem_tiles {tile : Polygon Rat} (member : tile ∈ plan.tiles tileSize face) :
    ∃ area > 0, (tile.positions.second - tile.positions.first).cross
      (tile.positions.third - tile.positions.first) = tile.normal.scale area := by
  obtain ⟨i, j, -, -, rfl⟩ := FaceLayout.mem_faceTiles.mp (mem_faceTiles_of_mem_tiles member).2
  rw [normal_of_mem_tiles member, FaceLayout.positions_faceTile]
  refine ⟨_, ?_, FaceLayout.cross_wind_rectangle_ofFace face plan.origin plan.size _ _ _ _⟩
  exact mul_pos (sub_pos.mpr (tileLine_lt_succ (width_layout_pos positive face) i))
    (sub_pos.mpr (tileLine_lt_succ (height_layout_pos positive face) j))

/-- The corners of a tile are corners at coordinates within the extents of its face. -/
theorem exists_cornerAt_of_mem_tiles {tile : Polygon Rat}
    (member : tile ∈ plan.tiles tileSize face) {corner : Corner Rat}
    (isCorner : corner ∈ tile.corners.toList) :
    ∃ u v, (0 ≤ u ∧ u ≤ plan.size.along face.columnAxis)
      ∧ (0 ≤ v ∧ v ≤ plan.size.along face.rowAxis)
      ∧ (plan.layout face).cornerAt tileSize (plan.surfaces.face face).fit u v = corner := by
  obtain ⟨i, j, rfl⟩ := FaceLayout.exists_tile_corner_iff.mp
    ⟨tile, (mem_faceTiles_of_mem_tiles member).2, isCorner⟩
  rw [← FaceLayout.width_ofFace face plan.origin plan.size,
    ← FaceLayout.height_ofFace face plan.origin plan.size]
  exact ⟨_, _, gridLine_mem (width_layout_pos positive face).le (Nat.le_of_lt_succ i.isLt),
    gridLine_mem (height_layout_pos positive face).le (Nat.le_of_lt_succ j.isLt), rfl⟩

omit positive in
/-- There is a corner where the face starts, and one across the face from there. -/
theorem exists_tile_cornerAt_ends (present : plan.HasFace face) (tileSize : Rat) :
    let cornerAt := (plan.layout face).cornerAt tileSize (plan.surfaces.face face).fit
    (∃ tile ∈ plan.tiles tileSize face, cornerAt 0 0 ∈ tile.corners.toList)
      ∧ ∃ tile ∈ plan.tiles tileSize face,
        cornerAt (plan.size.along face.columnAxis) (plan.size.along face.rowAxis)
          ∈ tile.corners.toList := by
  simp only [tiles_of_hasFace present, FaceLayout.exists_tile_corner_iff]
  constructor
  · refine ⟨0, 0, ?_⟩
    rw [FaceLayout.vertices_eq_cornerAt, Fin.val_zero, Fin.val_zero, tileLine_zero, tileLine_zero]
  · refine ⟨Fin.last _, Fin.last _, ?_⟩
    rw [FaceLayout.vertices_eq_cornerAt, Fin.val_last, Fin.val_last, tileLine_last, tileLine_last,
      layout, FaceLayout.width_ofFace, FaceLayout.height_ofFace]

/-- Texture coordinates are depths behind the side that the face starts at. -/
theorem isTexturedAlong_of_depth (present : plan.HasFace face) (tiling : 0 < tileSize)
    {axis : Axis} (spanned : axis ≠ face.axis) {coordinate : Corner Rat → Rat} {isFitted : Bool}
    (value : ∀ u v,
      coordinate ((plan.layout face).cornerAt tileSize (plan.surfaces.face face).fit u v)
        = plan.box.depth ((plan.layout face).point u v) (face.startSide axis)
          / repeatLength tileSize isFitted (plan.size.along axis)) :
    plan.IsTexturedAlong tileSize face axis coordinate isFitted := by
  simp only [repeatLength_of_positive tiling] at value
  obtain ⟨⟨_, startTile, startCorner⟩, _, endTile, endCorner⟩ :=
    exists_tile_cornerAt_ends present tileSize
  have mem {u v : Rat} (columns : 0 ≤ u ∧ u ≤ plan.size.along face.columnAxis)
      (rows : 0 ≤ v ∧ v ≤ plan.size.along face.rowAxis) :
      0 ≤ plan.box.depth ((plan.layout face).point u v) (face.startSide axis)
        ∧ plan.box.depth ((plan.layout face).point u v) (face.startSide axis)
          ≤ plan.size.along axis :=
    FaceLayout.depth_startSide_mem positive
      (FaceLayout.depth_point_nonneg positive face columns rows) face axis
  constructor
  case distance =>
    intro tile member corner isCorner
    obtain ⟨u, v, columns, rows, rfl⟩ := exists_cornerAt_of_mem_tiles positive member isCorner
    rw [value, layout, FaceLayout.abs_sub_start positive]
    exact congrArg (· / _) (abs_of_nonneg (mem columns rows).1).symm
  case within =>
    rintro rfl tile member corner isCorner
    obtain ⟨u, v, columns, rows, rfl⟩ := exists_cornerAt_of_mem_tiles positive member isCorner
    rw [value, if_pos rfl, div_le_one₀ (positive axis)]
    exact ⟨div_nonneg (mem columns rows).1 (positive axis).le, (mem columns rows).2⟩
  case first =>
    rintro rfl
    refine ⟨_, startTile, _, startCorner, ?_⟩
    rw [value, box, layout, FaceLayout.depth_point_start positive spanned, zero_div]
  case last =>
    rintro rfl
    refine ⟨_, endTile, _, endCorner, ?_⟩
    rw [value, box, layout, FaceLayout.depth_point_end positive spanned, if_pos rfl,
      div_self (positive axis).ne']

theorem isTexturedAlong_columnAxis (present : plan.HasFace face) (tiling : 0 < tileSize) :
    plan.IsTexturedAlong tileSize face face.columnAxis Corner.u
      (plan.surfaces.face face).fit.x := by
  refine isTexturedAlong_of_depth positive present tiling face.columnAxis_ne_axis fun u v => ?_
  rw [box, layout, FaceLayout.depth_point_columnAxis positive, FaceLayout.cornerAt,
    FaceLayout.width_ofFace]

theorem isTexturedAlong_rowAxis (present : plan.HasFace face) (tiling : 0 < tileSize) :
    plan.IsTexturedAlong tileSize face face.rowAxis Corner.v (plan.surfaces.face face).fit.y := by
  refine isTexturedAlong_of_depth positive present tiling face.rowAxis_ne_axis fun u v => ?_
  rw [box, layout, FaceLayout.depth_point_rowAxis positive, FaceLayout.cornerAt,
    FaceLayout.height_ofFace]

theorem isTiledExactly (present : plan.HasFace face) (tiling : 0 < tileSize) :
    plan.IsTiledExactly tileSize face where
  covers := covers_tiles_iff positive present
  apart := apart_tiles positive face
  winding _ member := winding_of_mem_tiles positive member
  inward tile member point onSide t := by
    rw [normal_of_mem_tiles member]
    exact FaceLayout.contains_add_inward_iff positive onSide t
  columns := isTexturedAlong_columnAxis positive present tiling
  rows := isTexturedAlong_rowAxis positive present tiling

end

/-- In exact arithmetic the faces of a room close its box. The tiles of every face that is built
are a tiling of its side of the box: they cover the side and nothing else, and no two of them
overlap. They are wound around their normal, which points into the room. Their texture coordinates
are distances from where the face starts, as parts of the extent of the face if the texture is
fitted, and otherwise in tile lengths. So the polygons of the room together are the sides of its
box without those of the faces that are removed. -/
theorem faces_close_box (plan : RoomPlan Rat) (positive : ∀ axis, 0 < plan.size.along axis)
    {tileSize : Rat} (tiling : 0 < tileSize) :
    (∀ face, plan.HasFace face → plan.IsTiledExactly tileSize face)
      ∧ ∀ point, (∃ tile ∈ (plan.room tileSize).polygons, tile.positions.Covers point)
        ↔ ∃ face, plan.HasFace face ∧ plan.box.OnSide face point := by
  have tiled : ∀ face, plan.HasFace face → plan.IsTiledExactly tileSize face :=
    fun face present => isTiledExactly positive present tiling
  refine ⟨tiled, fun point => ?_⟩
  constructor
  · rintro ⟨tile, member, covers⟩
    obtain ⟨face, ofFace⟩ := exists_face_of_mem_room member
    obtain ⟨present, -⟩ := mem_faceTiles_of_mem_tiles ofFace
    exact ⟨face, present, ((tiled face present).covers point).mp ⟨tile, ofFace, covers⟩⟩
  · rintro ⟨face, present, onSide⟩
    obtain ⟨tile, ofFace, covers⟩ := ((tiled face present).covers point).mpr onSide
    exact ⟨tile, mem_polygons_room ofFace, covers⟩

/-- Without its north wall, a room is closed at the middle of the south wall and open opposite
to it. The ceiling shows its whole texture once. -/
theorem faces_close_box_open_north :
    let plan : RoomPlan Rat := ⟨⟨0, 0, 0⟩, ⟨200, 150, 100⟩,
      { wallNorth := .removed, ceiling := { fit := ⟨true, true⟩ } }⟩
    (∃ tile ∈ (plan.room 100).polygons, tile.positions.Covers ⟨0, -75, -50⟩)
      ∧ (¬∃ tile ∈ (plan.room 100).polygons, tile.positions.Covers ⟨0, -75, 50⟩)
      ∧ ∃ tile ∈ plan.tiles 100 .ceiling, ∃ corner ∈ tile.corners.toList, corner.u = 1 := by
  intro plan
  have positive : ∀ axis, 0 < plan.size.along axis := by
    intro axis
    cases axis <;> decide
  have tiling : (0 : Rat) < 100 := by decide
  obtain ⟨tiled, closed⟩ := plan.faces_close_box positive tiling
  have onSouth : plan.box.OnSide .wallSouth ⟨0, -75, -50⟩ := by
    constructor <;> decide +kernel
  refine ⟨(closed _).mpr ⟨.wallSouth, rfl, onSouth⟩, fun covered => ?_,
    (tiled .ceiling rfl).columns.last rfl⟩
  obtain ⟨face, present, -, onPlane⟩ := (closed _).mp covered
  cases face
  case wallNorth => exact Bool.noConfusion present
  all_goals exact absurd onPlane (by decide +kernel)

end RoomPlan

end RoomLayout
