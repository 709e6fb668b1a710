import RoomLayout.Proofs.Stitching.PairStep
import RoomLayout.Proofs.Tiling.Grid

/-!
# Flush faces

Two rooms meet at a pair of opposite faces that cover one rectangle. The faces are cut
alike, each tile of one has its counterpart in the other, and the stitching step deletes
both faces as a whole. No law of arithmetic enters: the two sides compute their corners
by the same expressions from the same values.
-/

namespace RoomLayout

variable {α : Type} [Coordinate α]

namespace Polygon

theorem isWithin_eq_true_iff {p : Polygon α} {box : Box α} {tolerance : α} :
    p.isWithin box tolerance = true
      ↔ ∀ corner ∈ p.positions.toList, box.contains corner tolerance = true :=
  Quad.all_eq_true_iff

/-- Polygons with the same corners coincide as soon as the corners are near themselves. -/
theorem coincides_of_sameUpToWinding {p q : Polygon α} {tolerance : α}
    (same : p.positions.SameUpToWinding q.positions)
    (nearSelf : ∀ corner ∈ p.positions.toList, corner.near corner tolerance = true) :
    p.coincides q tolerance = true := by
  rw [coincides, Bool.and_eq_true]
  simp only [Quad.all_eq_true_iff, Quad.any_eq_true_iff]
  constructor
  · intro corner member
    exact ⟨corner, same.mem_toList_iff.mpr member, nearSelf corner member⟩
  · intro corner member
    have shared := same.mem_toList_iff.mp member
    exact ⟨corner, shared, nearSelf corner shared⟩

end Polygon

/-- What a room is built from. -/
structure RoomPlan (α : Type) where
  /-- The center of the floor. -/
  origin : Vec3 α
  size : Vec3 α
  surfaces : Surfaces

namespace RoomPlan

/-- The room of a plan. -/
def room (plan : RoomPlan α) (tileSize : α) : Room α :=
  .build tileSize plan.origin plan.size plan.surfaces

/-- How a face of a plan is laid out. -/
def layout (plan : RoomPlan α) (face : Face) : FaceLayout α :=
  .ofFace face plan.origin plan.size

/-- The polygons that a face of a plan contributes to the room. -/
def tiles (plan : RoomPlan α) (tileSize : α) (face : Face) : List (Polygon α) :=
  facePolygons tileSize plan.origin plan.size plan.surfaces face

/-- Whether a face is built. -/
def HasFace (plan : RoomPlan α) (face : Face) : Prop :=
  (plan.surfaces.face face).isRemoved = false

theorem tiles_of_hasFace {plan : RoomPlan α} {face : Face} (present : plan.HasFace face)
    (tileSize : α) :
    plan.tiles tileSize face
      = faceTiles tileSize (plan.layout face) (plan.surfaces.face face) := by
  rw [tiles, facePolygons, present]
  rfl

/-- Tiles belong to a face that is built. -/
theorem mem_faceTiles_of_mem_tiles {plan : RoomPlan α} {tileSize : α} {face : Face}
    {p : Polygon α} (member : p ∈ plan.tiles tileSize face) :
    plan.HasFace face
      ∧ p ∈ faceTiles tileSize (plan.layout face) (plan.surfaces.face face) := by
  rw [tiles, facePolygons] at member
  split at member
  · exact absurd member List.not_mem_nil
  · next present => exact ⟨Bool.eq_false_iff.mpr present, member⟩

/-- Tiles face the way that their face does: into the room. -/
theorem normal_of_mem_tiles {plan : RoomPlan α} {tileSize : α} {face : Face} {p : Polygon α}
    (member : p ∈ plan.tiles tileSize face) : p.normal = face.inward := by
  obtain ⟨i, j, -, -, rfl⟩ := FaceLayout.mem_faceTiles.mp (mem_faceTiles_of_mem_tiles member).2
  exact FaceLayout.normal_ofFace face plan.origin plan.size

theorem mem_polygons_room {plan : RoomPlan α} {tileSize : α} {face : Face} {p : Polygon α}
    (member : p ∈ plan.tiles tileSize face) : p ∈ (plan.room tileSize).polygons :=
  List.mem_flatMap.mpr ⟨face, face.mem_all, member⟩

theorem exists_face_of_mem_room {plan : RoomPlan α} {tileSize : α} {p : Polygon α}
    (member : p ∈ (plan.room tileSize).polygons) : ∃ face, p ∈ plan.tiles tileSize face := by
  obtain ⟨face, -, inFace⟩ := List.mem_flatMap.mp member
  exact ⟨face, inFace⟩

/-- A face of `a` is flush with the opposite face of `b`: both are built, and they cover
one rectangle from one corner. -/
structure Flush (a b : RoomPlan α) (face : Face) : Prop where
  first_present : a.HasFace face
  second_present : b.HasFace face.opposite
  start : (a.layout face).start = (b.layout face.opposite).start
  width : (a.layout face).width = (b.layout face.opposite).width
  height : (a.layout face).height = (b.layout face.opposite).height

namespace Flush

variable {a b : RoomPlan α} {face : Face}

/-- Flush faces are cut into the same tiles up to winding, one by one. -/
theorem tiles_sameUpToWinding (flush : a.Flush b face) (tileSize : α) :
    List.Forall₂ (fun p q => p.positions.SameUpToWinding q.positions)
      (a.tiles tileSize face) (b.tiles tileSize face.opposite) := by
  rw [tiles_of_hasFace flush.first_present, tiles_of_hasFace flush.second_present]
  have same : (a.layout face).SameGrid (b.layout face.opposite) :=
    FaceLayout.sameGrid_opposite flush.start flush.width flush.height
  exact same.faceTiles_sameUpToWinding tileSize _ _

/-- Every tile of the one face has its counterpart among the tiles of the other, and
the other way round. -/
theorem exists_counterpart (flush : a.Flush b face) (tileSize : α) :
    (∀ p ∈ a.tiles tileSize face, ∃ q ∈ b.tiles tileSize face.opposite,
        p.positions.SameUpToWinding q.positions)
      ∧ ∀ q ∈ b.tiles tileSize face.opposite, ∃ p ∈ a.tiles tileSize face,
        p.positions.SameUpToWinding q.positions := by
  obtain ⟨sameCount, same⟩ := List.forall₂_iff_get.mp (flush.tiles_sameUpToWinding tileSize)
  constructor
  · intro p member
    obtain ⟨k, inBounds, rfl⟩ := List.getElem_of_mem member
    exact ⟨_, List.getElem_mem (sameCount ▸ inBounds), same k inBounds (sameCount ▸ inBounds)⟩
  · intro q member
    obtain ⟨k, inBounds, rfl⟩ := List.getElem_of_mem member
    exact ⟨_, List.getElem_mem (sameCount ▸ inBounds), same k (sameCount ▸ inBounds) inBounds⟩

end Flush

/-- The tests of the stitching step pass at every corner of a face: it lies in both
boxes, and it is near itself. Rounding can fail them for a face that two rooms share,
and so can a negative tolerance. -/
structure CornersPass (a b : RoomPlan α) (face : Face) (tileSize tolerance : α) : Prop where
  in_first : ∀ p ∈ a.tiles tileSize face, ∀ corner ∈ p.positions.toList,
    (a.room tileSize).bounds.contains corner tolerance = true
  in_second : ∀ p ∈ a.tiles tileSize face, ∀ corner ∈ p.positions.toList,
    (b.room tileSize).bounds.contains corner tolerance = true
  near_itself : ∀ p ∈ a.tiles tileSize face, ∀ corner ∈ p.positions.toList,
    corner.near corner tolerance = true

/-- Tiles of flush faces at the same corners are deleted on account of each other. -/
theorem CornersPass.shared {a b : RoomPlan α} {face : Face} {tileSize tolerance : α}
    (pass : a.CornersPass b face tileSize tolerance)
    (touching : (a.room tileSize).bounds.intersects (b.room tileSize).bounds tolerance = true)
    {p q : Polygon α} (member : p ∈ a.tiles tileSize face)
    (same : p.positions.SameUpToWinding q.positions) :
    Shared (a.room tileSize) (b.room tileSize) tolerance p q where
  touching := touching
  first_inside := Polygon.isWithin_eq_true_iff.mpr (pass.in_second p member)
  second_inside := by
    rw [Polygon.isWithin_eq_true_iff]
    intro corner isCorner
    exact pass.in_first p member corner (same.mem_toList_iff.mp isCorner)
  coincident := Polygon.coincides_of_sameUpToWinding same (pass.near_itself p member)

/-- Flush faces of equal size are stitched completely. They are cut into the same tiles
up to winding, one by one; and if the boxes touch and every corner passes the tests of
the step, then stitching the two rooms deletes both faces. -/
theorem Flush.stitchPair_opens {a b : RoomPlan α} {face : Face} (flush : a.Flush b face)
    (tileSize tolerance : α) :
    List.Forall₂ (fun p q => p.positions.SameUpToWinding q.positions)
        (a.tiles tileSize face) (b.tiles tileSize face.opposite)
      ∧ ((a.room tileSize).bounds.intersects (b.room tileSize).bounds tolerance = true →
        a.CornersPass b face tileSize tolerance →
        (∀ p ∈ a.tiles tileSize face, p ∈ (a.room tileSize).polygons
            ∧ p ∉ (stitchPair (a.room tileSize) (b.room tileSize) tolerance).1.polygons)
          ∧ ∀ q ∈ b.tiles tileSize face.opposite, q ∈ (b.room tileSize).polygons
            ∧ q ∉ (stitchPair (a.room tileSize) (b.room tileSize) tolerance).2.1.polygons) := by
  refine ⟨flush.tiles_sameUpToWinding tileSize, fun touching pass => ?_⟩
  obtain ⟨ofFirst, ofSecond⟩ := flush.exists_counterpart tileSize
  rw [stitchPair_eq]
  constructor
  · intro p member
    obtain ⟨q, counterpart, same⟩ := ofFirst p member
    have isLost : isLostByFirst (a.room tileSize) (b.room tileSize) tolerance p = true :=
      isLostByFirst_iff.mpr
        ⟨q, mem_polygons_room counterpart, pass.shared touching member same⟩
    exact ⟨mem_polygons_room member, Room.not_mem_polygons_keep (by rw [isLost]; rfl)⟩
  · intro q member
    obtain ⟨p, counterpart, same⟩ := ofSecond q member
    have isLost : isLostBySecond (a.room tileSize) (b.room tileSize) tolerance q = true :=
      isLostBySecond_iff.mpr
        ⟨p, mem_polygons_room counterpart, pass.shared touching counterpart same⟩
    exact ⟨mem_polygons_room member, Room.not_mem_polygons_keep (by rw [isLost]; rfl)⟩

/-- The second room stands north of the first one, and four tiles go from either side of
the wall between them. -/
theorem stitchPair_opens_north_wall :
    let south : RoomPlan Float := ⟨⟨0, 0, 0⟩, ⟨200, 150, 100⟩, {}⟩
    let north : RoomPlan Float := ⟨⟨0, 0, 100⟩, ⟨200, 150, 100⟩, {}⟩
    (south.tiles 100 .wallNorth).length = 4
      ∧ (∀ p ∈ south.tiles 100 .wallNorth,
        p ∉ (stitchPair (south.room 100) (north.room 100) 0.0001).1.polygons)
      ∧ ∀ q ∈ north.tiles 100 .wallSouth,
        q ∉ (stitchPair (south.room 100) (north.room 100) 0.0001).2.1.polygons := by
  intro south north
  have flush : south.Flush north .wallNorth :=
    ⟨rfl, rfl, by decide +kernel, by decide +kernel, by decide +kernel⟩
  have touching : (south.room 100).bounds.intersects (north.room 100).bounds 0.0001 = true := by
    decide +kernel
  have pass : south.CornersPass north .wallNorth 100 0.0001 :=
    ⟨by decide +kernel, by decide +kernel, by decide +kernel⟩
  obtain ⟨-, deleted⟩ := flush.stitchPair_opens 100 0.0001
  obtain ⟨fromSouth, fromNorth⟩ := deleted touching pass
  exact ⟨by decide +kernel, fun p member => (fromSouth p member).2,
    fun q member => (fromNorth q member).2⟩

end RoomPlan

end RoomLayout
