import RoomLayout.Proofs.Texturing.Outlines
import RoomLayout.Proofs.Tiling.FlushFaces

/-!
# Rooms face by face

A room is built in six blocks of tiles, one for each face. What covers a face decides its own
block and no other one, and of the block only whether it is there, its texture and its texture
coordinates. The size of a block is known before it is built: it is the product of the tile
counts of the room along the two axes that the face spans.
-/

namespace RoomLayout

variable {α : Type} [Coordinate α]

theorem along_tileCounts (tileSize : α) (size : Vec3 α) (axis : Axis) :
    (tileCounts tileSize size).along axis = tileCount tileSize (size.along axis) := by
  cases axis <;> rfl

namespace RoomPlan

/-- The plan with one face covered in another way. -/
def withCovering (plan : RoomPlan α) (face : Face) (covering : Covering) : RoomPlan α :=
  { plan with surfaces := plan.surfaces.set face covering }

variable {plan : RoomPlan α} {tileSize : α} {face other : Face} {covering : Covering}

theorem tiles_of_not_hasFace (absent : ¬ plan.HasFace face) : plan.tiles tileSize face = [] := by
  rw [tiles, facePolygons]
  exact if_pos (by simpa [HasFace] using absent)

theorem length_tiles (present : plan.HasFace face) :
    (plan.tiles tileSize face).length
      = (tileCounts tileSize plan.size).along face.columnAxis
        * (tileCounts tileSize plan.size).along face.rowAxis := by
  rw [tiles_of_hasFace present, length_faceTiles, along_tileCounts, along_tileCounts, layout,
    FaceLayout.width_ofFace, FaceLayout.height_ofFace]

/-- A block depends on what covers its own face. -/
theorem tiles_withCovering_of_ne (different : other ≠ face) :
    (plan.withCovering face covering).tiles tileSize other = plan.tiles tileSize other := by
  have same : (plan.withCovering face covering).surfaces.face other = plan.surfaces.face other := by
    rw [withCovering, Surfaces.face_set, if_neg different]
  simp only [tiles, facePolygons, same]
  rfl

/-- A face that is covered in another way keeps the outlines of its tiles, as long as it is
built or not built as before. -/
theorem tiles_withCovering_sameOutline
    (sameRemoval : covering.isRemoved = (plan.surfaces.face face).isRemoved) :
    List.Forall₂ Polygon.SameOutline ((plan.withCovering face covering).tiles tileSize face)
      (plan.tiles tileSize face) := by
  have sameFaces : (plan.withCovering face covering).surfaces.SameFaces plan.surfaces := by
    intro other
    rw [withCovering, Surfaces.face_set]
    split
    · next same => rw [same, sameRemoval]
    · rfl
  exact facePolygons_sameOutline sameFaces tileSize plan.origin plan.size face

/-- A room that is built face by face. Its polygons are six blocks, one for each face, in the
order of the faces. A removed face has an empty block. The block of another face has as many
tiles as the tile counts of the room make along the two axes that the face spans, and at least
one; all of them face into the room and have the texture of the face. Another covering of one
face leaves the blocks of the others as they are, and if it differs in texture and fit only,
then also the places and the normals in the block of that face. -/
structure IsBuiltFaceByFace (plan : RoomPlan α) (tileSize : α) : Prop where
  in_order : (plan.room tileSize).polygons
    = plan.tiles tileSize .floor ++ plan.tiles tileSize .ceiling
      ++ plan.tiles tileSize .wallNorth ++ plan.tiles tileSize .wallEast
      ++ plan.tiles tileSize .wallSouth ++ plan.tiles tileSize .wallWest
  removed : ∀ face, ¬ plan.HasFace face → plan.tiles tileSize face = []
  counted : ∀ face, plan.HasFace face →
    (plan.tiles tileSize face).length
        = (tileCounts tileSize plan.size).along face.columnAxis
          * (tileCounts tileSize plan.size).along face.rowAxis
      ∧ 1 ≤ (plan.tiles tileSize face).length
  uniform : ∀ face, ∀ tile ∈ plan.tiles tileSize face,
    tile.normal = face.inward ∧ tile.texture = (plan.surfaces.face face).texture
  others_kept : ∀ face covering other, other ≠ face →
    (plan.withCovering face covering).tiles tileSize other = plan.tiles tileSize other
  outlines_kept : ∀ face covering, covering.isRemoved = (plan.surfaces.face face).isRemoved →
    List.Forall₂ Polygon.SameOutline ((plan.withCovering face covering).tiles tileSize face)
      (plan.tiles tileSize face)

/-- Faces are built independently of each other, with any tile size and any extents. -/
theorem built_face_by_face (plan : RoomPlan α) (tileSize : α) :
    plan.IsBuiltFaceByFace tileSize where
  in_order := by
    simp only [room, Room.build, Face.all, List.flatMap_cons, List.flatMap_nil, List.append_nil,
      List.append_assoc]
    rfl
  removed _ absent := tiles_of_not_hasFace absent
  counted face present := by
    refine ⟨length_tiles present, ?_⟩
    rw [length_tiles present, along_tileCounts, along_tileCounts]
    exact Nat.mul_pos (one_le_tileCount _ _) (one_le_tileCount _ _)
  uniform face tile member := by
    refine ⟨normal_of_mem_tiles member, ?_⟩
    obtain ⟨i, j, -, -, rfl⟩ :=
      FaceLayout.mem_faceTiles.mp (mem_faceTiles_of_mem_tiles member).2
    rfl
  others_kept _ _ _ different := tiles_withCovering_of_ne different
  outlines_kept _ _ sameRemoval := tiles_withCovering_sameOutline sameRemoval

/-- Half of the walls of a room are open, and its floor is fitted. -/
example :
    let surfaces : Surfaces := Surfaces.setAll {} [.wallNorth, .wallWest] .removed
    let plan : RoomPlan Float := ⟨⟨0, 0, 0⟩, ⟨200, 150, 100⟩, surfaces⟩
    Face.all.map (fun face => (plan.tiles 100 face).length) = [2, 2, 0, 2, 4, 0] := by
  decide +kernel

end RoomPlan

end RoomLayout
