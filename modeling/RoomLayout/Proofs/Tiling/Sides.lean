import RoomLayout.Proofs.Tiling.Depth

/-!
# Sides of the box

A side of a box consists of the points of the box that have no depth behind it. In exact
arithmetic a face lies on its side: depths behind the sides that it starts at are coordinates on
the face, the points at coordinates within its extents are the points of the side, and its normal
points from there into the room.
-/

namespace RoomLayout

/-- Whether a point lies on a side of a box. -/
def Box.OnSide (box : Box Rat) (face : Face) (point : Vec3 Rat) : Prop :=
  box.contains point 0 = true ∧ point.along face.axis = box.side face

namespace Box

variable {box : Box Rat} {p q : Vec3 Rat} {face : Face}

theorem depth_eq_zero_iff : box.depth p face = 0 ↔ p.along face.axis = box.side face := by
  cases face <;> rw [depth, sub_eq_zero]
  all_goals exact eq_comm

/-- A side consists of the points of the box without depth behind it. -/
theorem onSide_iff_depth :
    box.OnSide face p ↔ (∀ other, 0 ≤ box.depth p other) ∧ box.depth p face = 0 := by
  rw [OnSide, contains_iff_depth, depth_eq_zero_iff, neg_zero]

theorem abs_sub_side (p : Vec3 Rat) (face : Face) :
    |p.along face.axis - box.side face| = |box.depth p face| := by
  cases face <;> first | rfl | exact abs_sub_comm _ _

/-- The depths behind the sides that a face starts at are coordinates of a point. -/
theorem eq_of_depth_startSide (box : Box Rat) (face : Face)
    (same : ∀ axis, box.depth p (face.startSide axis) = box.depth q (face.startSide axis)) :
    p = q := by
  have across : ∀ side : Face, box.depth p side = box.depth q side →
      p.along side.axis = q.along side.axis := by
    intro side equal
    cases side <;> simp only [depth] at equal <;> linarith
  refine Vec3.ext_along fun axis => ?_
  have equal := across _ (same axis)
  rwa [Face.axis_startSide] at equal

/-- A step goes as much deeper behind a side as it goes inward. -/
theorem depth_add (p step : Vec3 Rat) (face : Face) :
    box.depth (p + step) face = box.depth p face + face.inward.dot step := by
  obtain ⟨x, y, z⟩ := p
  obtain ⟨x', y', z'⟩ := step
  cases face <;>
    simp only [Vec3.mk_add_mk, depth, Face.axis, Vec3.along, Face.inward, Vec3.dot, Vec3.east,
      Vec3.north, Vec3.down, Vec3.neg_mk, Coordinate.one_eq, Coordinate.zero_eq] <;>
    ring

end Box

/-- Going inward from a face changes the depth behind it and behind the opposite one. -/
theorem Face.inward_dot_inward (face other : Face) (t : Rat) :
    other.inward.dot (face.inward.scale t)
      = if other = face then t else if other = face.opposite then -t else 0 := by
  cases face <;> cases other <;>
    simp [Face.inward, Vec3.dot, Vec3.scale, Vec3.east, Vec3.north, Vec3.down, Vec3.neg_mk,
      Coordinate.one_eq, Coordinate.zero_eq, Face.opposite]

theorem Face.opposite_ne (face : Face) : face.opposite ≠ face := by
  cases face <;> decide

namespace FaceLayout

variable {origin size : Vec3 Rat} (positive : ∀ axis, 0 < size.along axis)
include positive

/-! ### Coordinates on a face -/

theorem depth_point_columnAxis (face : Face) (u v : Rat) :
    (Room.boxAt origin size).depth ((ofFace face origin size).point u v)
      (face.startSide face.columnAxis) = u := by
  rw [Room.boxAt_of_positive positive, point_ofFace]
  cases face <;> simp [Box.depth, Box.side, Face.startSide, Face.axis, Face.columnAxis, Vec3.along]

theorem depth_point_rowAxis (face : Face) (u v : Rat) :
    (Room.boxAt origin size).depth ((ofFace face origin size).point u v)
      (face.startSide face.rowAxis) = v := by
  rw [Room.boxAt_of_positive positive, point_ofFace]
  cases face <;> simp [Box.depth, Box.side, Face.startSide, Face.axis, Face.rowAxis, Vec3.along]

/-- A face starts at the sides of the box. -/
theorem depth_point_start {face : Face} {axis : Axis} (spanned : axis ≠ face.axis) :
    (Room.boxAt origin size).depth ((ofFace face origin size).point 0 0) (face.startSide axis)
      = 0 := by
  rcases Face.eq_columnAxis_or_eq_rowAxis spanned with rfl | rfl
  · exact depth_point_columnAxis positive face 0 0
  · exact depth_point_rowAxis positive face 0 0

/-- A face ends at the opposite sides. -/
theorem depth_point_end {face : Face} {axis : Axis} (spanned : axis ≠ face.axis) :
    (Room.boxAt origin size).depth
        ((ofFace face origin size).point (size.along face.columnAxis) (size.along face.rowAxis))
        (face.startSide axis)
      = size.along axis := by
  rcases Face.eq_columnAxis_or_eq_rowAxis spanned with rfl | rfl
  · exact depth_point_columnAxis positive face _ _
  · exact depth_point_rowAxis positive face _ _

/-- A place on a face has one pair of coordinates. -/
theorem point_injective {face : Face} {u v u' v' : Rat}
    (same : (ofFace face origin size).point u v = (ofFace face origin size).point u' v') :
    u = u' ∧ v = v' := by
  constructor
  · rw [← depth_point_columnAxis positive face u v, same, depth_point_columnAxis positive]
  · rw [← depth_point_rowAxis positive face u v, same, depth_point_rowAxis positive]

/-- The coordinates of a point of the box are within the extents of the room. -/
theorem depth_startSide_mem {p : Vec3 Rat}
    (inside : ∀ other, 0 ≤ (Room.boxAt origin size).depth p other) (face : Face) (axis : Axis) :
    0 ≤ (Room.boxAt origin size).depth p (face.startSide axis)
      ∧ (Room.boxAt origin size).depth p (face.startSide axis) ≤ size.along axis := by
  have notBeyond := depth_le_size positive (inside (face.startSide axis).opposite)
  rw [Face.axis_startSide] at notBeyond
  exact ⟨inside _, notBeyond⟩

/-- A side of the box consists of the points of the face at coordinates within its extents. -/
theorem onSide_iff_point {face : Face} {p : Vec3 Rat} :
    (Room.boxAt origin size).OnSide face p
      ↔ ∃ u v, (0 ≤ u ∧ u ≤ size.along face.columnAxis) ∧ (0 ≤ v ∧ v ≤ size.along face.rowAxis)
        ∧ (ofFace face origin size).point u v = p := by
  rw [Box.onSide_iff_depth]
  constructor
  · rintro ⟨inside, onPlane⟩
    refine ⟨_, _, depth_startSide_mem positive inside face face.columnAxis,
      depth_startSide_mem positive inside face face.rowAxis, ?_⟩
    refine (Room.boxAt origin size).eq_of_depth_startSide face fun axis => ?_
    by_cases spanned : axis = face.axis
    · rw [spanned, Face.startSide_axis, depth_point_self positive, onPlane]
    · rcases Face.eq_columnAxis_or_eq_rowAxis spanned with rfl | rfl
      · rw [depth_point_columnAxis positive]
      · rw [depth_point_rowAxis positive]
  · rintro ⟨u, v, columns, rows, rfl⟩
    exact ⟨depth_point_nonneg positive face columns rows, depth_point_self positive face u v⟩

/-- From a side of the box the normal points into the room, to the opposite side. -/
theorem contains_add_inward_iff {face : Face} {p : Vec3 Rat}
    (onSide : (Room.boxAt origin size).OnSide face p) (t : Rat) :
    (Room.boxAt origin size).contains (p + face.inward.scale t) 0 = true
      ↔ 0 ≤ t ∧ t ≤ size.along face.axis := by
  obtain ⟨inside, onPlane⟩ := Box.onSide_iff_depth.mp onSide
  have across : (Room.boxAt origin size).depth p face
      + (Room.boxAt origin size).depth p face.opposite = size.along face.axis :=
    depth_add_depth_opposite positive p face
  simp only [Box.contains_iff_depth, neg_zero, Box.depth_add, Face.inward_dot_inward]
  constructor
  · intro within
    have behind := within face
    have ahead := within face.opposite
    rw [if_pos rfl] at behind
    rw [if_neg face.opposite_ne, if_pos rfl] at ahead
    constructor <;> linarith
  · rintro ⟨nonneg, notBeyond⟩ other
    have inBox := inside other
    split
    · linarith
    · split
      · next isOpposite =>
        subst isOpposite
        linarith
      · linarith

/-- How far a point is from where a face starts, as a depth. -/
theorem abs_sub_start (face : Face) (axis : Axis) (p : Vec3 Rat) :
    |p.along axis - (ofFace face origin size).start.along axis|
      = |(Room.boxAt origin size).depth p (face.startSide axis)| := by
  have measured := (Room.boxAt origin size).abs_sub_side p (face.startSide axis)
  rw [Face.axis_startSide] at measured
  rw [along_start_ofFace positive, measured]

end FaceLayout

end RoomLayout
