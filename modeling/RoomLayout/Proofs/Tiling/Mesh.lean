import RoomLayout.Proofs.Tiling.FlushFaces

/-!
# Faces as meshes

Every tile computes its own corners. Yet they are the vertices of one grid, with their places and
texture coordinates: where a tile ends, the next one starts, by the same expression. So the tiles
of a face leave no cracks between them, whatever the arithmetic rounds; and they are all wound
alike, so that neighbours run along their common edge in opposite directions.
-/

namespace RoomLayout

variable {β γ : Type}

/-- Vertices at the crossings of `columns + 1` lines with `rows + 1` lines. -/
abbrev VertexGrid (β : Type) (columns rows : Nat) : Type :=
  Fin (columns + 1) → Fin (rows + 1) → β

namespace Quad

/-- A quad, wound the other way if it is to be turned over. -/
def turned (isTurned : Bool) (q : Quad β) : Quad β := if isTurned then q.reverse else q

/-- Two quads have the edge between two corners in common and run along it in opposite
directions. -/
def MeetsAt (q r : Quad β) (a b : β) : Prop :=
  ((a, b) ∈ q.edges ∧ (b, a) ∈ r.edges) ∨ ((b, a) ∈ q.edges ∧ (a, b) ∈ r.edges)

theorem mem_toList_turned_iff {q : Quad β} {isTurned : Bool} {value : β} :
    value ∈ (q.turned isTurned).toList ↔ value ∈ q.toList := by
  cases isTurned with
  | false => exact Iff.rfl
  | true =>
    change value ∈ q.reverse.toList ↔ value ∈ q.toList
    rw [toList_reverse, List.mem_reverse]

/-- Quads that are turned over together still meet. -/
theorem MeetsAt.turned {q r : Quad β} {a b : β} (meet : q.MeetsAt r a b) (isTurned : Bool) :
    (q.turned isTurned).MeetsAt (r.turned isTurned) a b := by
  cases isTurned with
  | false => exact meet
  | true =>
    rcases meet with ⟨first, second⟩ | ⟨first, second⟩
    · exact .inr ⟨swap_mem_edges_reverse first, swap_mem_edges_reverse second⟩
    · exact .inl ⟨swap_mem_edges_reverse first, swap_mem_edges_reverse second⟩

end Quad

namespace VertexGrid

variable {columns rows : Nat}

/-- The cell of a grid in column `i` and row `j`, wound along the columns first. -/
def cell (grid : VertexGrid β columns rows) (i : Fin columns) (j : Fin rows) : Quad β :=
  ⟨grid i.castSucc j.castSucc, grid i.succ j.castSucc, grid i.succ j.succ, grid i.castSucc j.succ⟩

/-- A cell has the vertices of the lines around it. -/
theorem mem_cell_iff {grid : VertexGrid β columns rows} {i : Fin columns} {j : Fin rows}
    {vertex : β} :
    vertex ∈ (grid.cell i j).toList
      ↔ ∃ i' j', (i' = i.castSucc ∨ i' = i.succ) ∧ (j' = j.castSucc ∨ j' = j.succ)
        ∧ grid i' j' = vertex := by
  simp only [cell, Quad.toList, List.mem_cons, List.not_mem_nil, or_false]
  constructor
  · rintro (rfl | rfl | rfl | rfl)
    · exact ⟨_, _, .inl rfl, .inl rfl, rfl⟩
    · exact ⟨_, _, .inr rfl, .inl rfl, rfl⟩
    · exact ⟨_, _, .inr rfl, .inr rfl, rfl⟩
    · exact ⟨_, _, .inl rfl, .inr rfl, rfl⟩
  · rintro ⟨i', j', rfl | rfl, rfl | rfl, rfl⟩ <;> simp

/-- Every line is beside some cell. -/
theorem exists_beside {count : Nat} (line : Fin (count + 1)) (nonempty : 0 < count) :
    ∃ i : Fin count, line = i.castSucc ∨ line = i.succ := by
  obtain ⟨count, rfl⟩ := Nat.exists_eq_add_one.mpr nonempty
  induction line using Fin.lastCases with
  | last => exact ⟨Fin.last count, .inr (Fin.succ_last count).symm⟩
  | cast i => exact ⟨i, .inl rfl⟩

/-- Cells of neighbouring columns meet at the line between the columns. -/
theorem cell_meetsAt_of_column (grid : VertexGrid β columns rows) (i : Nat)
    (next : i + 1 < columns) (j : Fin rows) :
    let line : Fin (columns + 1) := ⟨i + 1, Nat.lt_succ_of_lt next⟩
    (grid.cell ⟨i, Nat.lt_of_succ_lt next⟩ j).MeetsAt (grid.cell ⟨i + 1, next⟩ j)
      (grid line j.castSucc) (grid line j.succ) := by
  refine .inl ⟨?_, ?_⟩
  · exact List.mem_cons_of_mem _ List.mem_cons_self
  · exact List.mem_cons_of_mem _ (List.mem_cons_of_mem _ (List.mem_cons_of_mem _
      List.mem_cons_self))

/-- Cells of neighbouring rows meet at the line between the rows. -/
theorem cell_meetsAt_of_row (grid : VertexGrid β columns rows) (i : Fin columns) (j : Nat)
    (next : j + 1 < rows) :
    let line : Fin (rows + 1) := ⟨j + 1, Nat.lt_succ_of_lt next⟩
    (grid.cell i ⟨j, Nat.lt_of_succ_lt next⟩).MeetsAt (grid.cell i ⟨j + 1, next⟩)
      (grid i.castSucc line) (grid i.succ line) := by
  refine .inr ⟨?_, ?_⟩
  · exact List.mem_cons_of_mem _ (List.mem_cons_of_mem _ List.mem_cons_self)
  · exact List.mem_cons_self

end VertexGrid

/-- Quads that are the cells of a grid, column by column and all wound alike: along the columns
first, or all the other way. -/
structure IsMesh {columns rows : Nat} (grid : VertexGrid β columns rows) (isTurned : Bool)
    (quads : List (Quad β)) : Prop where
  length : quads.length = columns * rows
  cell : ∀ (i : Fin columns) (j : Fin rows),
    quads[i.val * rows + j.val]? = some ((grid.cell i j).turned isTurned)

namespace IsMesh

variable {columns rows : Nat} {grid : VertexGrid β columns rows} {isTurned : Bool}
  {quads : List (Quad β)}

theorem mem_iff (mesh : IsMesh grid isTurned quads) {quad : Quad β} :
    quad ∈ quads ↔ ∃ i j, (grid.cell i j).turned isTurned = quad := by
  constructor
  · intro member
    -- A place in the list is a column and a row, by division with remainder.
    obtain ⟨k, inBounds, rfl⟩ := List.getElem_of_mem member
    have inMesh : k < rows * columns := by rwa [Nat.mul_comm, ← mesh.length]
    have someRow : 0 < rows := Nat.pos_of_mul_pos_right (Nat.zero_lt_of_lt inMesh)
    have isCell :=
      mesh.cell ⟨k / rows, Nat.div_lt_of_lt_mul inMesh⟩ ⟨k % rows, Nat.mod_lt k someRow⟩
    rw [Nat.div_add_mod', List.getElem?_eq_getElem inBounds, Option.some.injEq] at isCell
    exact ⟨_, _, isCell.symm⟩
  · rintro ⟨i, j, rfl⟩
    exact List.mem_of_getElem? (mesh.cell i j)

/-- The corners of the quads are just the vertices. -/
theorem exists_corner_iff (mesh : IsMesh grid isTurned quads) (someColumn : 0 < columns)
    (someRow : 0 < rows) {vertex : β} :
    (∃ quad ∈ quads, vertex ∈ quad.toList) ↔ ∃ i j, grid i j = vertex := by
  simp only [mesh.mem_iff]
  constructor
  · rintro ⟨_, ⟨i, j, rfl⟩, isCorner⟩
    rw [Quad.mem_toList_turned_iff] at isCorner
    obtain ⟨i', j', -, -, same⟩ := VertexGrid.mem_cell_iff.mp isCorner
    exact ⟨i', j', same⟩
  · rintro ⟨i', j', same⟩
    obtain ⟨i, column⟩ := VertexGrid.exists_beside i' someColumn
    obtain ⟨j, row⟩ := VertexGrid.exists_beside j' someRow
    refine ⟨_, ⟨i, j, rfl⟩, ?_⟩
    rw [Quad.mem_toList_turned_iff]
    exact VertexGrid.mem_cell_iff.mpr ⟨i', j', column, row, same⟩

/-- Neighbouring quads of a row have the two vertices between them in common. -/
theorem columns_meet (mesh : IsMesh grid isTurned quads) (i : Nat) (next : i + 1 < columns)
    (j : Fin rows) :
    let line : Fin (columns + 1) := ⟨i + 1, Nat.lt_succ_of_lt next⟩
    ∃ q r, quads[i * rows + j.val]? = some q ∧ quads[(i + 1) * rows + j.val]? = some r
      ∧ q.MeetsAt r (grid line j.castSucc) (grid line j.succ) :=
  ⟨_, _, mesh.cell ⟨i, Nat.lt_of_succ_lt next⟩ j, mesh.cell ⟨i + 1, next⟩ j,
    (grid.cell_meetsAt_of_column i next j).turned isTurned⟩

/-- Neighbouring quads of a column have the two vertices between them in common. -/
theorem rows_meet (mesh : IsMesh grid isTurned quads) (i : Fin columns) (j : Nat)
    (next : j + 1 < rows) :
    let line : Fin (rows + 1) := ⟨j + 1, Nat.lt_succ_of_lt next⟩
    ∃ q r, quads[i.val * rows + j]? = some q ∧ quads[i.val * rows + (j + 1)]? = some r
      ∧ q.MeetsAt r (grid i.castSucc line) (grid i.succ line) :=
  ⟨_, _, mesh.cell i ⟨j, Nat.lt_of_succ_lt next⟩, mesh.cell i ⟨j + 1, next⟩,
    (grid.cell_meetsAt_of_row i j next).turned isTurned⟩

end IsMesh

/-- Pieces of one length, joined: where an element of a piece is found. -/
theorem getElem?_flatMap_of_length {pieces : γ → List β} {length : Nat}
    (sameLength : ∀ piece, (pieces piece).length = length) (list : List γ) {i j : Nat}
    (inPiece : j < length) :
    (list.flatMap pieces)[i * length + j]? = list[i]?.bind fun piece => (pieces piece)[j]? := by
  induction list generalizing i with
  | nil => rfl
  | cons piece rest inductionHypothesis =>
    rw [List.flatMap_cons]
    cases i with
    | zero =>
      rw [Nat.zero_mul, Nat.zero_add, List.getElem?_append_left (by rwa [sameLength])]
      rfl
    | succ i =>
      have behind : (i + 1) * length + j = (pieces piece).length + (i * length + j) := by
        rw [sameLength, Nat.succ_mul]
        omega
      rw [behind, List.getElem?_append_right (Nat.le_add_right _ _), Nat.add_sub_cancel_left,
        inductionHypothesis, List.getElem?_cons_succ]

variable {α : Type} [Coordinate α]

namespace FaceLayout

variable {tileSize : α} {layout : FaceLayout α}

/-- The tile in a column and a row, by its place in the list. -/
theorem getElem?_faceTiles {covering : Covering} {i j : Nat}
    (column : i < tileCount tileSize layout.width) (row : j < tileCount tileSize layout.height) :
    (faceTiles tileSize layout covering)[i * tileCount tileSize layout.height + j]?
      = some (faceTile tileSize layout covering i j) := by
  have sameLength : ∀ i, ((List.range (tileCount tileSize layout.height)).map fun j =>
      faceTile tileSize layout covering i j).length = tileCount tileSize layout.height := by
    intro i
    rw [List.length_map, List.length_range]
  rw [faceTiles, getElem?_flatMap_of_length sameLength _ row, List.getElem?_range column,
    Option.bind_some, List.getElem?_map, List.getElem?_range row, Option.map_some]

/-- The vertices of a face: where its grid lines cross, and what the texture shows there. -/
def vertices (tileSize : α) (layout : FaceLayout α) (fit : Fit) :
    VertexGrid (Corner α) (tileCount tileSize layout.width) (tileCount tileSize layout.height) :=
  fun i j => gridCorner tileSize layout fit i.val j.val

/-- The tiles of a face are a mesh on its vertices. -/
theorem isMesh_faceTiles (covering : Covering) :
    IsMesh (vertices tileSize layout covering.fit) layout.windsOutward
      ((faceTiles tileSize layout covering).map Polygon.corners) where
  length := by rw [List.length_map, length_faceTiles]
  cell i j := by
    rw [List.getElem?_map, getElem?_faceTiles i.isLt j.isLt]
    rfl

/-- The corners of the tiles of a face are just its vertices. -/
theorem exists_tile_corner_iff {covering : Covering} {corner : Corner α} :
    (∃ tile ∈ faceTiles tileSize layout covering, corner ∈ tile.corners.toList)
      ↔ ∃ i j, vertices tileSize layout covering.fit i j = corner := by
  have mesh : IsMesh (vertices tileSize layout covering.fit) layout.windsOutward
      ((faceTiles tileSize layout covering).map Polygon.corners) := isMesh_faceTiles covering
  rw [← mesh.exists_corner_iff (one_le_tileCount _ _) (one_le_tileCount _ _)]
  simp only [List.mem_map, exists_exists_and_eq_and]

end FaceLayout

namespace RoomPlan

/-- A face has no cracks, whatever rounding does. There is one grid of vertices, each with its
place and its texture coordinates, such that the tile in each column and row has just the four
vertices of its cell as corners, and the tiles are all wound alike. So tiles of neighbouring
columns and tiles of neighbouring rows have the two vertices between them in common, and run
along the edge there in opposite directions. -/
theorem face_is_mesh (plan : RoomPlan α) (tileSize : α) {face : Face}
    (present : plan.HasFace face) :
    let columns := tileCount tileSize (plan.layout face).width
    let rows := tileCount tileSize (plan.layout face).height
    let quads := (plan.tiles tileSize face).map Polygon.corners
    ∃ (grid : VertexGrid (Corner α) columns rows) (isTurned : Bool),
      IsMesh grid isTurned quads
        ∧ (∀ i (next : i + 1 < columns) (j : Fin rows),
          let line : Fin (columns + 1) := ⟨i + 1, Nat.lt_succ_of_lt next⟩
          ∃ q r, quads[i * rows + j.val]? = some q ∧ quads[(i + 1) * rows + j.val]? = some r
            ∧ q.MeetsAt r (grid line j.castSucc) (grid line j.succ))
        ∧ ∀ (i : Fin columns) j (next : j + 1 < rows),
          let line : Fin (rows + 1) := ⟨j + 1, Nat.lt_succ_of_lt next⟩
          ∃ q r, quads[i.val * rows + j]? = some q ∧ quads[i.val * rows + (j + 1)]? = some r
            ∧ q.MeetsAt r (grid i.castSucc line) (grid i.succ line) := by
  intro columns rows quads
  have mesh : IsMesh
      (FaceLayout.vertices tileSize (plan.layout face) (plan.surfaces.face face).fit)
      (plan.layout face).windsOutward quads := by
    simp only [quads, tiles_of_hasFace present]
    exact FaceLayout.isMesh_faceTiles _
  exact ⟨_, _, mesh, mesh.columns_meet, mesh.rows_meet⟩

/-- The south wall of a room is two tiles wide and two tiles high. Its first tile has one edge in
common with the first tile of the next column, and one with the second tile of its own column. -/
theorem face_is_mesh_south_wall :
    let plan : RoomPlan Float := ⟨⟨0, 0, 0⟩, ⟨200, 150, 100⟩, {}⟩
    let quads := (plan.tiles 100 .wallSouth).map Polygon.corners
    let rows := tileCount 100 (plan.layout .wallSouth).height
    plan.HasFace .wallSouth ∧ rows = 2 ∧ quads.length = 4
      ∧ (∃ q r, quads[0 * rows + 0]? = some q ∧ quads[(0 + 1) * rows + 0]? = some r
        ∧ ∃ a b, q.MeetsAt r a b)
      ∧ ∃ q r, quads[0 * rows + 0]? = some q ∧ quads[0 * rows + (0 + 1)]? = some r
        ∧ ∃ a b, q.MeetsAt r a b := by
  intro plan quads rows
  have twoColumns : tileCount 100 (plan.layout .wallSouth).width = 2 := by decide +kernel
  have twoRows : tileCount 100 (plan.layout .wallSouth).height = 2 := by decide +kernel
  have present : plan.HasFace .wallSouth := rfl
  obtain ⟨grid, isTurned, mesh, columnsMeet, rowsMeet⟩ := plan.face_is_mesh 100 present
  have length : quads.length = 4 := by rw [mesh.length, twoColumns, twoRows]
  obtain ⟨q, r, first, second, meet⟩ :=
    columnsMeet 0 (by rw [twoColumns]; decide) ⟨0, one_le_tileCount _ _⟩
  obtain ⟨q', r', first', second', meet'⟩ :=
    rowsMeet ⟨0, one_le_tileCount _ _⟩ 0 (by rw [twoRows]; decide)
  exact ⟨present, twoRows, length, ⟨q, r, first, second, _, _, meet⟩,
    q', r', first', second', _, _, meet'⟩

end RoomPlan

end RoomLayout
