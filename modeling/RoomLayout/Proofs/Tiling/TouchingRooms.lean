import RoomLayout.Proofs.Tiling.Depth

/-!
# Rooms that touch

Two rooms stand against each other: a face of the one and the opposite face of the other
cover one rectangle. In exact arithmetic stitching them opens the passage and does nothing
else. Every other tile of either room reaches deeper behind the meeting faces than the
tolerance, so it is outside of the other room's widened box; and the tiles of the meeting
faces have their counterparts, if both faces are built.
-/

namespace RoomLayout.RoomPlan

section Plans

variable {α : Type} [Coordinate α]

/-- The plan with one face left open. -/
def without (plan : RoomPlan α) (face : Face) : RoomPlan α :=
  { plan with surfaces := plan.surfaces.set face .removed }

theorem tiles_without (plan : RoomPlan α) (face : Face) (tileSize : α) (other : Face) :
    (plan.without face).tiles tileSize other
      = if other = face then [] else plan.tiles tileSize other := by
  simp only [tiles, without, facePolygons, Surfaces.face_set]
  split <;> rfl

section Keep

variable {plan : RoomPlan α} {face : Face} {tileSize : α} {drop : Polygon α → Bool}
  (dropsFace : ∀ other, ∀ p ∈ plan.tiles tileSize other, drop p = decide (other = face))
include dropsFace

/-- Dropping the tiles of one face is leaving the face open. -/
theorem keep_room :
    (plan.room tileSize).keep (fun p => !drop p) = (plan.without face).room tileSize := by
  have polygons : (plan.room tileSize).polygons.filter (fun p => !drop p)
      = ((plan.without face).room tileSize).polygons := by
    change (Face.all.flatMap (plan.tiles tileSize)).filter _
      = Face.all.flatMap ((plan.without face).tiles tileSize)
    rw [List.filter_flatMap]
    congr 1
    funext other
    rw [tiles_without]
    split
    case isTrue same =>
      rw [List.filter_eq_nil_iff]
      intro p member
      simp [dropsFace other p member, same]
    case isFalse different =>
      rw [List.filter_eq_self]
      intro p member
      simp [dropsFace other p member, different]
  rw [Room.keep, polygons]
  rfl

/-- As many tiles are dropped as the face has. -/
theorem countP_room :
    (plan.room tileSize).polygons.countP drop = (plan.tiles tileSize face).length := by
  change (Face.all.flatMap (plan.tiles tileSize)).countP drop = _
  have perFace : ∀ other, (plan.tiles tileSize other).countP drop
      = if other = face then (plan.tiles tileSize face).length else 0 := by
    intro other
    split
    case isTrue same =>
      subst same
      rw [List.countP_eq_length]
      intro p member
      simp [dropsFace other p member]
    case isFalse different =>
      rw [List.countP_eq_zero]
      intro p member
      simp [dropsFace other p member, different]
  rw [List.countP_flatMap]
  simp only [Function.comp_def, perFace, Face.all]
  cases face <;> simp

end Keep

end Plans

/-- Room `b` stands against a face of room `a`: the face and the opposite face of `b` meet, and
the boxes have their other four sides in common. -/
structure Touches (a b : RoomPlan Rat) (face : Face) : Prop where
  first_positive : ∀ axis, 0 < a.size.along axis
  second_positive : ∀ axis, 0 < b.size.along axis
  meet : a.box.side face = b.box.side face.opposite
  aligned : ∀ other, other ≠ face → other ≠ face.opposite → a.box.side other = b.box.side other

instance (a b : RoomPlan Rat) (face : Face) : Decidable (a.Touches b face) :=
  decidable_of_iff
    ((0 < a.size.x ∧ 0 < a.size.y ∧ 0 < a.size.z) ∧ (0 < b.size.x ∧ 0 < b.size.y ∧ 0 < b.size.z)
      ∧ a.box.side face = b.box.side face.opposite
      ∧ ∀ other ∈ Face.all, other ≠ face → other ≠ face.opposite →
        a.box.side other = b.box.side other)
    ⟨fun ⟨first, second, meet, aligned⟩ => ⟨Axis.forall_iff.mpr first, Axis.forall_iff.mpr second,
        meet, fun other => aligned other other.mem_all⟩,
      fun touches => ⟨Axis.forall_iff.mp touches.first_positive,
        Axis.forall_iff.mp touches.second_positive, touches.meet,
        fun other _ => touches.aligned other⟩⟩

/-- A tolerance under which the far side of a room is out of reach from a face: every edge of
the room is longer, and so is the room itself in case that none of its edges runs along it. -/
structure IsFine (plan : RoomPlan Rat) (face : Face) (tileSize tolerance : Rat) : Prop where
  edges : ∀ p ∈ (plan.room tileSize).polygons, p.EdgesExceed tolerance
  extent : (∀ other, plan.HasFace other → other.axis = face.axis) →
    tolerance < plan.size.along face.axis

variable {a b : RoomPlan Rat} {face : Face} {tileSize tolerance : Rat}

theorem IsFine.opposite (fine : a.IsFine face tileSize tolerance) :
    a.IsFine face.opposite tileSize tolerance where
  edges := fine.edges
  extent := by
    rw [face.axis_opposite]
    exact fine.extent

/-- No room is as thin as the tolerance. -/
theorem IsFine.lt_size (fine : a.IsFine face tileSize tolerance)
    (positive : ∀ axis, 0 < a.size.along axis) : tolerance < a.size.along face.axis := by
  by_cases across : ∀ other, a.HasFace other → other.axis = face.axis
  case pos => exact fine.extent across
  case neg =>
    push Not at across
    obtain ⟨other, present, spanned⟩ := across
    exact lt_size_along_of_hasFace positive present spanned.symm
      fun p member => fine.edges p (mem_polygons_room member)

namespace Touches

theorem symm (touches : a.Touches b face) : b.Touches a face.opposite where
  first_positive := touches.second_positive
  second_positive := touches.first_positive
  meet := by
    rw [face.opposite_opposite]
    exact touches.meet.symm
  aligned other different differentToo := by
    rw [face.opposite_opposite] at differentToo
    exact (touches.aligned other differentToo different).symm

/-- The boxes have the sides in common that stand across another axis. -/
theorem side_eq (touches : a.Touches b face) {other : Face} (spanned : other.axis ≠ face.axis) :
    a.box.side other = b.box.side other := by
  refine touches.aligned other ?_ ?_
  · rintro rfl
    exact spanned rfl
  · rintro rfl
    exact spanned face.axis_opposite

/-- Touching rooms extend alike on the axes that the meeting faces span. -/
theorem size_along_eq (touches : a.Touches b face) {axis : Axis} (spanned : axis ≠ face.axis) :
    a.size.along axis = b.size.along axis := by
  have across := face.axis_startSide axis
  have side : a.box.side (face.startSide axis) = b.box.side (face.startSide axis) :=
    touches.side_eq (by rwa [across])
  have sideOpposite :
      a.box.side (face.startSide axis).opposite = b.box.side (face.startSide axis).opposite :=
    touches.side_eq (by rwa [Face.axis_opposite, across])
  have extents : a.size.along (face.startSide axis).axis
      = b.size.along (face.startSide axis).axis := by
    rw [← FaceLayout.depth_add_depth_opposite touches.first_positive a.origin,
      ← FaceLayout.depth_add_depth_opposite touches.second_positive a.origin]
    exact congrArg₂ _ (Box.depth_congr side _) (Box.depth_congr sideOpposite _)
  rwa [across] at extents

/-- Meeting faces that are built are flush. -/
theorem flush (touches : a.Touches b face) (first : a.HasFace face)
    (second : b.HasFace face.opposite) : a.Flush b face where
  first_present := first
  second_present := second
  start := by
    refine Vec3.ext_along fun axis => ?_
    rw [layout, layout, FaceLayout.along_start_ofFace touches.first_positive,
      FaceLayout.along_start_ofFace touches.second_positive]
    by_cases spanned : axis = face.axis
    case pos =>
      have own : face.startSide axis = face := spanned ▸ face.startSide_axis
      have ownOpposite : face.opposite.startSide axis = face.opposite := by
        rw [spanned, ← face.axis_opposite, Face.startSide_axis]
      rw [own, ownOpposite]
      exact touches.meet
    case neg =>
      rw [Face.startSide_opposite spanned]
      exact touches.side_eq (by rwa [Face.axis_startSide])
  width := by
    rw [layout, layout, FaceLayout.width_ofFace, FaceLayout.width_ofFace, Face.columnAxis_opposite]
    exact touches.size_along_eq face.columnAxis_ne_axis
  height := by
    rw [layout, layout, FaceLayout.height_ofFace, FaceLayout.height_ofFace, Face.rowAxis_opposite]
    exact touches.size_along_eq face.rowAxis_ne_axis

/-- What is within reach of the other room is not deep. -/
theorem depth_le (touches : a.Touches b face) {corner : Vec3 Rat}
    (inside : b.box.contains corner tolerance = true) : a.box.depth corner face ≤ tolerance := by
  have outside := Box.contains_iff_depth.mp inside face.opposite
  rw [Box.depth_opposite_eq_neg touches.meet] at outside
  exact neg_le_neg_iff.mp outside

variable (touches : a.Touches b face)
include touches

/-- A tile of the first room within reach of the second one belongs to the meeting face. -/
theorem eq_of_isWithin (fine : a.IsFine face tileSize tolerance) {other : Face} {p : Polygon Rat}
    (member : p ∈ a.tiles tileSize other)
    (inside : p.isWithin b.box tolerance = true) : other = face := by
  by_contra different
  have long := fine.edges p (mem_polygons_room member)
  have extensive := fine.lt_size touches.first_positive
  obtain ⟨corner, isCorner, deep⟩ :=
    exists_deep_corner touches.first_positive member different long extensive
  have shallow := touches.depth_le (Polygon.isWithin_eq_true_iff.mp inside corner isCorner)
  exact absurd deep (not_lt.mpr shallow)

/-- The corners of the meeting faces are in both boxes. -/
theorem contains_of_mem_tiles (flush : a.Flush b face) {p : Polygon Rat}
    (member : p ∈ a.tiles tileSize face) {corner : Vec3 Rat}
    (isCorner : corner ∈ p.positions.toList) (nonneg : 0 ≤ tolerance) :
    a.box.contains corner tolerance = true ∧ b.box.contains corner tolerance = true := by
  obtain ⟨q, inSecond, same⟩ := (flush.exists_counterpart tileSize).1 p member
  have isCornerToo : corner ∈ q.positions.toList := same.mem_toList_iff.mpr isCorner
  rw [Box.contains_iff_depth, Box.contains_iff_depth]
  constructor
  · intro other
    have depth := depth_nonneg_of_mem_tiles touches.first_positive member isCorner other
    exact (neg_nonpos.mpr nonneg).trans depth
  · intro other
    have depth := depth_nonneg_of_mem_tiles touches.second_positive inSecond isCornerToo other
    exact (neg_nonpos.mpr nonneg).trans depth

/-- A tile of the one meeting face is shared with every tile of the other one at its place. -/
theorem shared_of_flush (flush : a.Flush b face) (nonneg : 0 ≤ tolerance) {p q : Polygon Rat}
    (member : p ∈ a.tiles tileSize face) (same : p.positions.SameUpToWinding q.positions) :
    Shared (a.room tileSize) (b.room tileSize) tolerance p q := by
  have pass : a.CornersPass b face tileSize tolerance := by
    refine ⟨?_, ?_, ?_⟩
    · intro p member corner isCorner
      exact (touches.contains_of_mem_tiles flush member isCorner nonneg).1
    · intro p member corner isCorner
      exact (touches.contains_of_mem_tiles flush member isCorner nonneg).2
    · intro p _ corner _
      rw [Vec3.near_iff]
      intro axis
      rw [Coordinate.distance_self, Coordinate.le_iff]
      exact nonneg
  have touching : a.box.intersects b.box tolerance = true := by
    have isCorner : p.positions.first ∈ p.positions.toList := List.mem_cons_self
    obtain ⟨inFirst, inSecond⟩ := touches.contains_of_mem_tiles flush member isCorner le_rfl
    exact Box.intersects_of_contains nonneg inFirst inSecond
  exact pass.shared touching member same

variable (firstFine : a.IsFine face tileSize tolerance)
  (secondFine : b.IsFine face tileSize tolerance)
include firstFine secondFine

/-- Only tiles of the meeting faces are shared. -/
theorem faces_of_shared {first second : Face} {p q : Polygon Rat}
    (inFirst : p ∈ a.tiles tileSize first) (inSecond : q ∈ b.tiles tileSize second)
    (shared : Shared (a.room tileSize) (b.room tileSize) tolerance p q) :
    first = face ∧ second = face.opposite :=
  ⟨touches.eq_of_isWithin firstFine inFirst shared.first_inside,
    touches.symm.eq_of_isWithin secondFine.opposite inSecond shared.second_inside⟩

theorem isLostByFirst_eq (flush : a.Flush b face) (nonneg : 0 ≤ tolerance) {other : Face}
    {p : Polygon Rat} (member : p ∈ a.tiles tileSize other) :
    isLostByFirst (a.room tileSize) (b.room tileSize) tolerance p = decide (other = face) := by
  rw [Bool.eq_iff_iff, isLostByFirst_iff, decide_eq_true_iff]
  constructor
  · rintro ⟨q, inSecond, shared⟩
    obtain ⟨second, inFace⟩ := exists_face_of_mem_room inSecond
    exact (touches.faces_of_shared firstFine secondFine member inFace shared).1
  · rintro rfl
    obtain ⟨q, counterpart, same⟩ := (flush.exists_counterpart tileSize).1 p member
    exact ⟨q, mem_polygons_room counterpart,
      touches.shared_of_flush flush nonneg member same⟩

theorem isLostBySecond_eq (flush : a.Flush b face) (nonneg : 0 ≤ tolerance) {other : Face}
    {q : Polygon Rat} (member : q ∈ b.tiles tileSize other) :
    isLostBySecond (a.room tileSize) (b.room tileSize) tolerance q
      = decide (other = face.opposite) := by
  rw [Bool.eq_iff_iff, isLostBySecond_iff, decide_eq_true_iff]
  constructor
  · rintro ⟨p, inFirst, shared⟩
    obtain ⟨first, inFace⟩ := exists_face_of_mem_room inFirst
    exact (touches.faces_of_shared firstFine secondFine inFace member shared).2
  · rintro rfl
    obtain ⟨p, counterpart, same⟩ := (flush.exists_counterpart tileSize).2 q member
    exact ⟨p, mem_polygons_room counterpart,
      touches.shared_of_flush flush nonneg counterpart same⟩

/-- Nothing is shared where one of the meeting faces is left open. -/
theorem not_shared (absent : ¬ (a.HasFace face ∧ b.HasFace face.opposite)) {p q : Polygon Rat}
    (inFirst : p ∈ (a.room tileSize).polygons) (inSecond : q ∈ (b.room tileSize).polygons) :
    ¬ Shared (a.room tileSize) (b.room tileSize) tolerance p q := by
  intro shared
  obtain ⟨first, ofFirst⟩ := exists_face_of_mem_room inFirst
  obtain ⟨second, ofSecond⟩ := exists_face_of_mem_room inSecond
  obtain ⟨rfl, rfl⟩ := touches.faces_of_shared firstFine secondFine ofFirst ofSecond shared
  exact absent ⟨(mem_faceTiles_of_mem_tiles ofFirst).1, (mem_faceTiles_of_mem_tiles ofSecond).1⟩

end Touches

/-- Stitching two rooms that touch opens the passage between them and does nothing else, in
exact arithmetic and under a tolerance that tells their tiles apart. If both meeting faces are
built, either room is left as if it had been built with its meeting face open, and all tiles of
the two faces are counted. If one of them is open already, both rooms are left as they are. -/
theorem Touches.stitchPair_opens_only (touches : a.Touches b face)
    (nonneg : 0 ≤ tolerance) (firstFine : a.IsFine face tileSize tolerance)
    (secondFine : b.IsFine face tileSize tolerance) :
    (a.HasFace face → b.HasFace face.opposite →
        stitchPair (a.room tileSize) (b.room tileSize) tolerance
          = ((a.without face).room tileSize, (b.without face.opposite).room tileSize,
            (a.tiles tileSize face).length + (b.tiles tileSize face.opposite).length))
      ∧ (¬ (a.HasFace face ∧ b.HasFace face.opposite) →
        stitchPair (a.room tileSize) (b.room tileSize) tolerance
          = (a.room tileSize, b.room tileSize, 0)) := by
  rw [stitchPair_eq]
  constructor
  · intro first second
    have flush := touches.flush first second
    have lostByFirst : ∀ other, ∀ p ∈ a.tiles tileSize other,
        isLostByFirst (a.room tileSize) (b.room tileSize) tolerance p = decide (other = face) :=
      fun _ _ member => touches.isLostByFirst_eq firstFine secondFine flush nonneg member
    have lostBySecond : ∀ other, ∀ q ∈ b.tiles tileSize other,
        isLostBySecond (a.room tileSize) (b.room tileSize) tolerance q
          = decide (other = face.opposite) :=
      fun _ _ member => touches.isLostBySecond_eq firstFine secondFine flush nonneg member
    rw [keep_room lostByFirst, keep_room lostBySecond, countP_room lostByFirst,
      countP_room lostBySecond]
  · intro absent
    have keptByFirst : ∀ p ∈ (a.room tileSize).polygons,
        isLostByFirst (a.room tileSize) (b.room tileSize) tolerance p = false :=
      fun p inFirst => decide_eq_false fun ⟨q, inSecond, shared⟩ =>
        touches.not_shared firstFine secondFine absent inFirst inSecond shared
    have keptBySecond : ∀ q ∈ (b.room tileSize).polygons,
        isLostBySecond (a.room tileSize) (b.room tileSize) tolerance q = false :=
      fun q inSecond => decide_eq_false fun ⟨p, inFirst, shared⟩ =>
        touches.not_shared firstFine secondFine absent inFirst inSecond shared
    rw [Room.keep_of_forall (by simpa using keptByFirst),
      Room.keep_of_forall (by simpa using keptBySecond),
      List.countP_eq_zero.mpr (by simpa using keptByFirst),
      List.countP_eq_zero.mpr (by simpa using keptBySecond)]

/-- The second room stands north of the first one. Four tiles go from either side of the wall
between them, and twelve stay in each room; where the first room has no north wall, all stay. -/
theorem stitchPair_opens_only_north_wall :
    let south : RoomPlan Rat := ⟨⟨0, 0, 0⟩, ⟨200, 150, 100⟩, {}⟩
    let north : RoomPlan Rat := ⟨⟨0, 0, 100⟩, ⟨200, 150, 100⟩, {}⟩
    let porch : RoomPlan Rat := south.without .wallNorth
    (south.Touches north .wallNorth ∧ south.IsFine .wallNorth 100 (1 / 10000)
        ∧ north.IsFine .wallNorth 100 (1 / 10000)
        ∧ stitchPair (south.room 100) (north.room 100) (1 / 10000)
          = (porch.room 100, (north.without .wallSouth).room 100, 4 + 4)
        ∧ (porch.room 100).polygons.length = 12)
      ∧ porch.Touches north .wallNorth ∧ porch.IsFine .wallNorth 100 (1 / 10000)
        ∧ stitchPair (porch.room 100) (north.room 100) (1 / 10000)
          = (porch.room 100, north.room 100, 0) := by
  intro south north porch
  have touches : south.Touches north .wallNorth := by decide +kernel
  have porchTouches : porch.Touches north .wallNorth := by decide +kernel
  have southFine : south.IsFine .wallNorth 100 (1 / 10000) :=
    ⟨by decide +kernel, fun _ => by decide +kernel⟩
  have northFine : north.IsFine .wallNorth 100 (1 / 10000) :=
    ⟨by decide +kernel, fun _ => by decide +kernel⟩
  have porchFine : porch.IsFine .wallNorth 100 (1 / 10000) :=
    ⟨by decide +kernel, fun _ => by decide +kernel⟩
  have nonneg : (0 : Rat) ≤ 1 / 10000 := by decide +kernel
  have opened := (touches.stitchPair_opens_only nonneg southFine northFine).1 rfl rfl
  have left := (porchTouches.stitchPair_opens_only nonneg porchFine northFine).2
    fun both => Bool.noConfusion both.1
  have southTiles : (south.tiles 100 .wallNorth).length = 4 := by decide +kernel
  have northTiles : (north.tiles 100 (Face.opposite .wallNorth)).length = 4 := by decide +kernel
  refine ⟨⟨touches, southFine, northFine, ?_, by decide +kernel⟩, porchTouches, porchFine, left⟩
  rw [opened, southTiles, northTiles]
  rfl

/-- Edges alone do not bound the tolerance. Rooms that consist of two end walls, ten units wide
and high, have no edge along the two units between them. Under a tolerance of five the far walls
are within reach, and stitching deletes them together with the meeting ones. -/
theorem thin_rooms_lose_far_walls :
    let ends : Surfaces :=
      Surfaces.setAll {} [.floor, .ceiling, .wallNorth, .wallSouth] .removed
    let west : RoomPlan Rat := ⟨⟨0, 0, 0⟩, ⟨2, 10, 10⟩, ends⟩
    let east : RoomPlan Rat := ⟨⟨2, 0, 0⟩, ⟨2, 10, 10⟩, ends⟩
    west.Touches east .wallEast ∧ west.HasFace .wallEast ∧ east.HasFace .wallWest
      ∧ (∀ p ∈ (west.room 10).polygons ++ (east.room 10).polygons, p.EdgesExceed 5)
      ∧ ((west.without .wallEast).room 10).polygons.length = 1
      ∧ ((east.without .wallWest).room 10).polygons.length = 1
      ∧ (stitchPair (west.room 10) (east.room 10) 5).1.polygons = []
      ∧ (stitchPair (west.room 10) (east.room 10) 5).2.1.polygons = [] := by
  intro ends west east
  exact ⟨by decide +kernel, rfl, rfl, by decide +kernel, by decide +kernel, by decide +kernel,
    by decide +kernel, by decide +kernel⟩

end RoomLayout.RoomPlan
