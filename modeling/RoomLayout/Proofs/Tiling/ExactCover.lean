import RoomLayout.Proofs.Tiling.Areas
import RoomLayout.Proofs.Tiling.Sides

/-!
# Exact cover

In exact arithmetic the tiles of a face cover its side of the box and nothing else, and no two of
them overlap. The lines of the grid cut the two extents of the face into steps. So every point of
the side is in some cell, and a point inside of a cell is in no other one.
-/

namespace RoomLayout

/-- A walk from one place to another passes every place between them in some step. -/
theorem exists_step_around {walk : Nat → Rat} {count : Nat} {a : Rat} (start : walk 0 ≤ a)
    (stop : a ≤ walk count) (moves : 0 < count) :
    ∃ i < count, walk i ≤ a ∧ a ≤ walk (i + 1) := by
  -- The last step that starts before the place is found first, from the far end.
  induction count with
  | zero => exact absurd moves (Nat.lt_irrefl 0)
  | succ count inductionHypothesis =>
    by_cases passed : walk count ≤ a
    · exact ⟨count, Nat.lt_succ_self count, passed, stop⟩
    · have moved : 0 < count := Nat.pos_of_ne_zero fun none => passed (none ▸ start)
      obtain ⟨i, before, around⟩ := inductionHypothesis (not_le.mp passed).le moved
      exact ⟨i, Nat.lt_succ_of_lt before, around⟩

/-- A line of the grid along an extent, by its distance from the start. -/
def tileLine (tileSize extent : Rat) (index : Nat) : Rat :=
  gridLine extent (tileCount tileSize extent) index

section Lines

variable {tileSize extent : Rat}

theorem tileLine_zero : tileLine tileSize extent 0 = 0 := by
  have zero : (Coordinate.ofNat 0 : Rat) = 0 := rfl
  rw [tileLine, gridLine, zero, mul_zero, zero_div]

theorem tileLine_last : tileLine tileSize extent (tileCount tileSize extent) = extent :=
  mul_div_cancel_right₀ extent
    (Nat.cast_ne_zero.mpr (Nat.one_le_iff_ne_zero.mp (one_le_tileCount tileSize extent)))

/-- A place on an extent is in some step between two lines. -/
theorem exists_tileLines_around (tileSize : Rat) {a : Rat} (within : 0 ≤ a ∧ a ≤ extent) :
    ∃ i < tileCount tileSize extent,
      tileLine tileSize extent i ≤ a ∧ a ≤ tileLine tileSize extent (i + 1) :=
  exists_step_around (tileLine_zero.trans_le within.1) (within.2.trans tileLine_last.ge)
    (one_le_tileCount tileSize extent)

variable (positive : 0 < extent)
include positive

/-- Later lines are further away. -/
theorem tileLine_lt_iff {i j : Nat} :
    tileLine tileSize extent i < tileLine tileSize extent j ↔ i < j := by
  have counted : (0 : Rat) < (tileCount tileSize extent : Nat) :=
    Nat.cast_pos.mpr (one_le_tileCount tileSize extent)
  change extent * (i : Rat) / (tileCount tileSize extent : Nat)
    < extent * (j : Rat) / (tileCount tileSize extent : Nat) ↔ i < j
  rw [div_lt_div_iff_of_pos_right counted, mul_lt_mul_iff_right₀ positive, Nat.cast_lt]

theorem tileLine_lt_succ (i : Nat) :
    tileLine tileSize extent i < tileLine tileSize extent (i + 1) :=
  (tileLine_lt_iff positive).mpr (Nat.lt_succ_self i)

/-- A place strictly between two neighbouring lines is between no others. -/
theorem eq_of_between_tileLines {i j : Nat} {a : Rat}
    (first : tileLine tileSize extent i < a ∧ a < tileLine tileSize extent (i + 1))
    (second : tileLine tileSize extent j < a ∧ a < tileLine tileSize extent (j + 1)) : i = j := by
  have notBefore := (tileLine_lt_iff positive).mp (first.1.trans second.2)
  have notBehind := (tileLine_lt_iff positive).mp (second.1.trans first.2)
  omega

/-- What is in a step between two lines is on the extent. -/
theorem mem_of_between_tileLines {i : Nat} {a : Rat} (inGrid : i < tileCount tileSize extent)
    (around : tileLine tileSize extent i ≤ a ∧ a ≤ tileLine tileSize extent (i + 1)) :
    0 ≤ a ∧ a ≤ extent :=
  ⟨(gridLine_mem positive.le inGrid.le).1.trans around.1,
    around.2.trans (gridLine_mem positive.le inGrid).2⟩

end Lines

namespace FaceLayout

variable {tileSize : Rat} {layout : FaceLayout Rat} {covering : Covering} {p : Vec3 Rat}
  (width : 0 < layout.width) (height : 0 < layout.height)
include width height

/-- A tile covers what lies between the lines around it. -/
theorem covers_faceTile_iff {i j : Nat} :
    (faceTile tileSize layout covering i j).positions.Covers p
      ↔ ∃ a b,
        (tileLine tileSize layout.width i ≤ a ∧ a ≤ tileLine tileSize layout.width (i + 1))
        ∧ (tileLine tileSize layout.height j ≤ b ∧ b ≤ tileLine tileSize layout.height (j + 1))
        ∧ layout.point a b = p := by
  rw [positions_faceTile, Quad.Covers, (sameUpToWinding_wind layout _).hasMean_iff]
  exact covers_rectangle_iff (tileLine_lt_succ width i) (tileLine_lt_succ height j)

theorem exists_point_of_coversInside_faceTile {i j : Nat}
    (inside : (faceTile tileSize layout covering i j).positions.CoversInside p) :
    ∃ a b,
      (tileLine tileSize layout.width i < a ∧ a < tileLine tileSize layout.width (i + 1))
      ∧ (tileLine tileSize layout.height j < b ∧ b < tileLine tileSize layout.height (j + 1))
      ∧ layout.point a b = p := by
  rw [positions_faceTile, Quad.CoversInside, (sameUpToWinding_wind layout _).hasMean_iff] at inside
  exact exists_point_of_coversInside_rectangle (tileLine_lt_succ width i)
    (tileLine_lt_succ height j) inside

/-- The tiles of a face together cover what lies within its extents. -/
theorem exists_tile_covers_iff :
    (∃ tile ∈ faceTiles tileSize layout covering, tile.positions.Covers p)
      ↔ ∃ a b, (0 ≤ a ∧ a ≤ layout.width) ∧ (0 ≤ b ∧ b ≤ layout.height)
        ∧ layout.point a b = p := by
  constructor
  · rintro ⟨tile, member, covers⟩
    obtain ⟨i, j, column, row, rfl⟩ := mem_faceTiles.mp member
    obtain ⟨a, b, aroundColumn, aroundRow, rfl⟩ := (covers_faceTile_iff width height).mp covers
    exact ⟨a, b, mem_of_between_tileLines width column aroundColumn,
      mem_of_between_tileLines height row aroundRow, rfl⟩
  · rintro ⟨a, b, onWidth, onHeight, rfl⟩
    obtain ⟨i, column, aroundColumn⟩ := exists_tileLines_around tileSize onWidth
    obtain ⟨j, row, aroundRow⟩ := exists_tileLines_around tileSize onHeight
    exact ⟨_, mem_faceTiles.mpr ⟨i, j, column, row, rfl⟩,
      (covers_faceTile_iff width height).mpr ⟨a, b, aroundColumn, aroundRow, rfl⟩⟩

/-- Tiles in different columns or rows have no inside in common, if places on the face have one
pair of coordinates. -/
theorem eq_of_coversInside_faceTiles
    (injective : ∀ {u v u' v'}, layout.point u v = layout.point u' v' → u = u' ∧ v = v')
    {i j i' j' : Nat}
    (first : (faceTile tileSize layout covering i j).positions.CoversInside p)
    (second : (faceTile tileSize layout covering i' j').positions.CoversInside p) :
    i = i' ∧ j = j' := by
  obtain ⟨a, b, column, row, rfl⟩ := exists_point_of_coversInside_faceTile width height first
  obtain ⟨a', b', column', row', same⟩ :=
    exists_point_of_coversInside_faceTile width height second
  obtain ⟨rfl, rfl⟩ := injective same
  exact ⟨eq_of_between_tileLines width column column', eq_of_between_tileLines height row row'⟩

/-- The tiles of a face do not overlap, if places on it have one pair of coordinates. -/
theorem pairwise_apart_faceTiles
    (injective : ∀ {u v u' v'}, layout.point u v = layout.point u' v' → u = u' ∧ v = v') :
    (faceTiles tileSize layout covering).Pairwise fun p q => p.positions.Apart q.positions := by
  rw [faceTiles, List.pairwise_flatMap]
  -- Tiles of one column differ in their rows, and those of two columns in their columns.
  constructor
  · intro i _
    rw [List.pairwise_map]
    refine List.pairwise_lt_range.imp fun before point first second => ?_
    exact before.ne (eq_of_coversInside_faceTiles width height injective first second).2
  · refine List.pairwise_lt_range.imp fun before p inFirst q inSecond point first second => ?_
    obtain ⟨j, -, rfl⟩ := List.mem_map.mp inFirst
    obtain ⟨j', -, rfl⟩ := List.mem_map.mp inSecond
    exact before.ne (eq_of_coversInside_faceTiles width height injective first second).1

end FaceLayout

namespace RoomPlan

variable {plan : RoomPlan Rat} {tileSize : Rat} {face : Face}
  (positive : ∀ axis, 0 < plan.size.along axis)
include positive

/-- The tiles of a face cover a side of the box. -/
theorem covers_tiles_iff (present : plan.HasFace face) (point : Vec3 Rat) :
    (∃ tile ∈ plan.tiles tileSize face, tile.positions.Covers point)
      ↔ plan.box.OnSide face point := by
  rw [tiles_of_hasFace present, FaceLayout.exists_tile_covers_iff (width_layout_pos positive face)
    (height_layout_pos positive face), box, FaceLayout.onSide_iff_point positive, layout,
    FaceLayout.width_ofFace, FaceLayout.height_ofFace]

theorem apart_tiles (face : Face) :
    (plan.tiles tileSize face).Pairwise fun p q => p.positions.Apart q.positions := by
  rw [tiles, facePolygons]
  split
  · exact .nil
  · exact FaceLayout.pairwise_apart_faceTiles (width_layout_pos positive face)
      (height_layout_pos positive face) (FaceLayout.point_injective positive)

end RoomPlan

end RoomLayout
