import Mathlib.Data.List.Forall2
import RoomLayout.Proofs.Geometry.Axes
import RoomLayout.Room.Tiling

/-!
# Grids of faces

A face is cut along a grid. The grid depends on where the face starts, how it spans
and how far, and not on which way it faces or what covers it: these decide the winding
of a tile, its normal and its texture. So two faces with one grid have the same tiles
up to winding, and opposite faces span alike.
-/

namespace RoomLayout

/-- The same four values in the same or the reverse order. -/
def Quad.SameUpToWinding {β : Type} (q r : Quad β) : Prop := r = q ∨ r = q.reverse

namespace Quad

variable {β : Type}

@[simp] theorem reverse_reverse (q : Quad β) : q.reverse.reverse = q := rfl

theorem all_eq_true_iff {q : Quad β} {test : β → Bool} :
    q.all test = true ↔ ∀ value ∈ q.toList, test value = true := by
  simp [all, toList, and_assoc]

theorem any_eq_true_iff {q : Quad β} {test : β → Bool} :
    q.any test = true ↔ ∃ value ∈ q.toList, test value = true := by
  simp [any, toList, or_assoc]

/-- The values that follow each other around a quad, in pairs. -/
def edges (q : Quad β) : List (β × β) :=
  [(q.first, q.second), (q.second, q.third), (q.third, q.fourth), (q.fourth, q.first)]

theorem mem_toList_of_mem_edges {q : Quad β} {a b : β} (edge : (a, b) ∈ q.edges) :
    a ∈ q.toList ∧ b ∈ q.toList := by
  simp only [edges, toList, List.mem_cons, List.not_mem_nil, Prod.mk.injEq, or_false] at *
  rcases edge with ⟨rfl, rfl⟩ | ⟨rfl, rfl⟩ | ⟨rfl, rfl⟩ | ⟨rfl, rfl⟩ <;> simp

theorem swap_mem_edges_reverse {q : Quad β} {a b : β} (edge : (a, b) ∈ q.edges) :
    (b, a) ∈ q.reverse.edges := by
  simp only [edges, reverse, List.mem_cons, List.not_mem_nil, Prod.mk.injEq, or_false] at *
  rcases edge with ⟨rfl, rfl⟩ | ⟨rfl, rfl⟩ | ⟨rfl, rfl⟩ | ⟨rfl, rfl⟩ <;> simp

theorem toList_reverse (q : Quad β) : q.reverse.toList = q.toList.reverse := rfl

/-- Winding does not change which values there are. -/
theorem SameUpToWinding.mem_toList_iff {q r : Quad β} (same : q.SameUpToWinding r) {value : β} :
    value ∈ r.toList ↔ value ∈ q.toList := by
  rcases same with rfl | rfl
  · exact Iff.rfl
  · rw [toList_reverse, List.mem_reverse]

/-- Winding decides which way an edge is run along. -/
theorem SameUpToWinding.mem_edges {q r : Quad β} (same : q.SameUpToWinding r) {a b : β}
    (edge : (a, b) ∈ q.edges) : (a, b) ∈ r.edges ∨ (b, a) ∈ r.edges := by
  rcases same with rfl | rfl
  · exact .inl edge
  · exact .inr (swap_mem_edges_reverse edge)

end Quad

namespace Face

/-- The face across the room, which another room turns to this one when it is flush with
it. -/
def opposite : Face → Face
  | .floor => .ceiling
  | .ceiling => .floor
  | .wallNorth => .wallSouth
  | .wallSouth => .wallNorth
  | .wallEast => .wallWest
  | .wallWest => .wallEast

theorem mem_all (face : Face) : face ∈ Face.all := by
  cases face <;> simp [Face.all]

/-- The axis along which the columns of a face are counted. -/
def columnAxis : Face → Axis
  | .floor | .ceiling | .wallNorth | .wallSouth => .x
  | .wallEast | .wallWest => .z

/-- The axis along which the rows of a face are counted. -/
def rowAxis : Face → Axis
  | .floor | .ceiling => .z
  | .wallNorth | .wallSouth | .wallEast | .wallWest => .y

theorem columnAxis_opposite (face : Face) : face.opposite.columnAxis = face.columnAxis := by
  cases face <;> rfl

theorem rowAxis_opposite (face : Face) : face.opposite.rowAxis = face.rowAxis := by
  cases face <;> rfl

end Face

variable {α : Type} [Coordinate α]

/-- The direction from a face into the room. -/
def Face.inward : Face → Vec3 α
  | .floor => -.down
  | .ceiling => .down
  | .wallNorth => -.north
  | .wallEast => -.east
  | .wallSouth => .north
  | .wallWest => .east

/-- There is a tile along every length. -/
theorem one_le_tileCount (tileSize length : α) : 1 ≤ tileCount tileSize length := by
  rw [tileCount]
  split
  · exact Nat.le_refl 1
  · exact Nat.le_max_right _ _

namespace FaceLayout

theorem width_ofFace (face : Face) (origin size : Vec3 α) :
    (ofFace face origin size).width = size.along face.columnAxis := by
  cases face <;> rfl

theorem height_ofFace (face : Face) (origin size : Vec3 α) :
    (ofFace face origin size).height = size.along face.rowAxis := by
  cases face <;> rfl

theorem normal_ofFace (face : Face) (origin size : Vec3 α) :
    (ofFace face origin size).normal = face.inward := by
  cases face <;> rfl

/-- Two faces that start at one point and span the same rectangle from there. Which way
they face is left open. -/
structure SameGrid (f g : FaceLayout α) : Prop where
  start : f.start = g.start
  uDirection : f.uDirection = g.uDirection
  vDirection : f.vDirection = g.vDirection
  width : f.width = g.width
  height : f.height = g.height

/-- Opposite faces span in the same directions, so start, width and height decide
whether they have one grid. -/
theorem sameGrid_opposite {face : Face} {origin size origin' size' : Vec3 α}
    (start : (ofFace face origin size).start = (ofFace face.opposite origin' size').start)
    (width : (ofFace face origin size).width = (ofFace face.opposite origin' size').width)
    (height : (ofFace face origin size).height = (ofFace face.opposite origin' size').height) :
    (ofFace face origin size).SameGrid (ofFace face.opposite origin' size') where
  start := start
  uDirection := by cases face <;> rfl
  vDirection := by cases face <;> rfl
  width := width
  height := height

/-- The crossing of grid lines `i` and `j` of a face. -/
def gridPoint (tileSize : α) (layout : FaceLayout α) (i j : Nat) : Vec3 α :=
  layout.start
    + layout.uDirection.scale (gridLine layout.width (tileCount tileSize layout.width) i)
    + layout.vDirection.scale (gridLine layout.height (tileCount tileSize layout.height) j)

/-- The cell of the grid in column `i` and row `j`, wound along `u` first. -/
def gridCell (tileSize : α) (layout : FaceLayout α) (i j : Nat) : Quad (Vec3 α) :=
  ⟨gridPoint tileSize layout i j, gridPoint tileSize layout (i + 1) j,
    gridPoint tileSize layout (i + 1) (j + 1), gridPoint tileSize layout i (j + 1)⟩

theorem exists_gridPoint_of_mem_gridCell {tileSize : α} {layout : FaceLayout α} {i j : Nat}
    {corner : Vec3 α} (isCorner : corner ∈ (gridCell tileSize layout i j).toList) :
    ∃ i' j', i' ≤ i + 1 ∧ j' ≤ j + 1 ∧ corner = gridPoint tileSize layout i' j' := by
  simp only [gridCell, Quad.toList, List.mem_cons, List.not_mem_nil, or_false] at isCorner
  rcases isCorner with rfl | rfl | rfl | rfl
  · exact ⟨i, j, by omega, by omega, rfl⟩
  · exact ⟨i + 1, j, by omega, by omega, rfl⟩
  · exact ⟨i + 1, j + 1, by omega, by omega, rfl⟩
  · exact ⟨i, j + 1, by omega, by omega, rfl⟩

/-- The cells of the grid of a face, column by column. -/
def gridCells (tileSize : α) (layout : FaceLayout α) : List (Quad (Vec3 α)) :=
  (List.range (tileCount tileSize layout.width)).flatMap fun i =>
    (List.range (tileCount tileSize layout.height)).map fun j => gridCell tileSize layout i j

/-- The winding of the tiles of a face: a cell is turned over if it would show the outer
side. -/
def wind (layout : FaceLayout α) (cell : Quad (Vec3 α)) : Quad (Vec3 α) :=
  if layout.windsOutward then cell.reverse else cell

theorem wind_sameUpToWinding (f g : FaceLayout α) (cell : Quad (Vec3 α)) :
    (f.wind cell).SameUpToWinding (g.wind cell) := by
  unfold wind
  split <;> split
  · exact .inl rfl
  · exact .inr cell.reverse_reverse.symm
  · exact .inr rfl
  · exact .inl rfl

theorem sameUpToWinding_wind (layout : FaceLayout α) (cell : Quad (Vec3 α)) :
    cell.SameUpToWinding (layout.wind cell) := by
  unfold wind
  split
  · exact .inr rfl
  · exact .inl rfl

/-- A tile stands at the corners of its cell. -/
theorem positions_faceTile (tileSize : α) (layout : FaceLayout α) (covering : Covering)
    (i j : Nat) :
    (faceTile tileSize layout covering i j).positions
      = layout.wind (gridCell tileSize layout i j) := by
  unfold wind faceTile
  split <;> rfl

/-- The tiles of a face stand at the cells of its grid, whatever covers the face. -/
theorem map_positions_faceTiles (tileSize : α) (layout : FaceLayout α) (covering : Covering) :
    (faceTiles tileSize layout covering).map Polygon.positions
      = (gridCells tileSize layout).map layout.wind := by
  simp only [faceTiles, gridCells, List.map_flatMap, List.map_map, Function.comp_def,
    positions_faceTile]

theorem mem_faceTiles {tileSize : α} {layout : FaceLayout α} {covering : Covering} {p : Polygon α} :
    p ∈ faceTiles tileSize layout covering
      ↔ ∃ i j, i < tileCount tileSize layout.width ∧ j < tileCount tileSize layout.height
        ∧ faceTile tileSize layout covering i j = p := by
  simp only [faceTiles, List.mem_flatMap, List.mem_map, List.mem_range]
  constructor
  · rintro ⟨i, column, j, row, same⟩
    exact ⟨i, j, column, row, same⟩
  · rintro ⟨i, j, column, row, same⟩
    exact ⟨i, column, j, row, same⟩

theorem faceTiles_ne_nil (tileSize : α) (layout : FaceLayout α) (covering : Covering) :
    faceTiles tileSize layout covering ≠ [] :=
  List.ne_nil_of_mem (mem_faceTiles.mpr
    ⟨0, 0, one_le_tileCount _ _, one_le_tileCount _ _, rfl⟩)

/-- Every tile of a face stands at the corners of some cell. -/
theorem exists_cell_of_mem_faceTiles {tileSize : α} {layout : FaceLayout α}
    {covering : Covering} {p : Polygon α} (member : p ∈ faceTiles tileSize layout covering) :
    ∃ i j, i < tileCount tileSize layout.width ∧ j < tileCount tileSize layout.height
      ∧ (gridCell tileSize layout i j).SameUpToWinding p.positions := by
  obtain ⟨i, j, column, row, rfl⟩ := mem_faceTiles.mp member
  rw [positions_faceTile]
  exact ⟨i, j, column, row, sameUpToWinding_wind _ _⟩

namespace SameGrid

variable {f g : FaceLayout α}

theorem gridPoint_eq (same : f.SameGrid g) (tileSize : α) (i j : Nat) :
    gridPoint tileSize f i j = gridPoint tileSize g i j := by
  simp only [gridPoint, same.start, same.uDirection, same.vDirection, same.width, same.height]

theorem gridCells_eq (same : f.SameGrid g) (tileSize : α) :
    gridCells tileSize f = gridCells tileSize g := by
  simp only [gridCells, gridCell, same.gridPoint_eq, same.width, same.height]

/-- Faces with one grid have the same tiles up to winding, one by one. -/
theorem faceTiles_sameUpToWinding (same : f.SameGrid g) (tileSize : α) (first second : Covering) :
    List.Forall₂ (fun p q => p.positions.SameUpToWinding q.positions)
      (faceTiles tileSize f first) (faceTiles tileSize g second) := by
  have positions : List.Forall₂ Quad.SameUpToWinding
      ((faceTiles tileSize f first).map Polygon.positions)
      ((faceTiles tileSize g second).map Polygon.positions) := by
    rw [map_positions_faceTiles, map_positions_faceTiles, same.gridCells_eq,
      List.forall₂_map_left_iff, List.forall₂_map_right_iff, List.forall₂_same]
    exact fun cell _ => wind_sameUpToWinding f g cell
  rwa [List.forall₂_map_left_iff, List.forall₂_map_right_iff] at positions

end SameGrid

end FaceLayout

theorem length_faceTiles (tileSize : α) (layout : FaceLayout α) (covering : Covering) :
    (faceTiles tileSize layout covering).length
      = tileCount tileSize layout.width * tileCount tileSize layout.height := by
  simp [faceTiles, List.length_flatMap]

/-- A face has as many tiles as the counts of its two axes make, or none if it is removed. -/
theorem length_facePolygons (tileSize : α) (origin size : Vec3 α) (surfaces : Surfaces)
    (face : Face) :
    (facePolygons tileSize origin size surfaces face).length =
      if (surfaces.face face).isRemoved then 0
      else tileCount tileSize (size.along face.columnAxis)
        * tileCount tileSize (size.along face.rowAxis) := by
  rw [facePolygons]
  split
  · rfl
  · rw [length_faceTiles, FaceLayout.width_ofFace, FaceLayout.height_ofFace]

end RoomLayout
