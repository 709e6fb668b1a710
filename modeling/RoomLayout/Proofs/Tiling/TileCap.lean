import Mathlib.Algebra.Order.BigOperators.Group.List
import RoomLayout.Proofs.Construction.Rejection
import RoomLayout.Proofs.Construction.Tracing
import RoomLayout.Proofs.Stitching.Settings
import RoomLayout.Proofs.Tiling.Grid

/-!
# No room has too many tiles

Tiles are counted twice. A size is judged by the tiles along each axis before anything is
built, and every face counts along its own width and height when it is cut. Both counts are
one: the width and the height of a face are the extents on the two axes that it spans. So
what the judgement allows bounds what is built, for any tile size, and finishing a level
only takes tiles away.
-/

namespace RoomLayout

section Counts

variable {α : Type} [Coordinate α]

/-- A room that is tiled as its surfaces ask, within the cap: along every axis there is at
least one tile and at most as many as allowed, and the polygons are, face by face, as many
as the two axes of the face make, or none. -/
structure Room.TiledWithinCap (tileSize : α) (surfaces : Surfaces) (room : Room α) : Prop where
  atLeastOne : ∀ axis, 1 ≤ tileCount tileSize (room.size.along axis)
  atMost : ∀ axis, tileCount tileSize (room.size.along axis) ≤ maxTilesPerAxis
  polygons : room.polygons
    = Face.all.flatMap (facePolygons tileSize room.origin room.size surfaces)
  counts : ∀ face, (facePolygons tileSize room.origin room.size surfaces face).length =
    if (surfaces.face face).isRemoved then 0
    else tileCount tileSize (room.size.along face.columnAxis)
      * tileCount tileSize (room.size.along face.rowAxis)

namespace Room.TiledWithinCap

variable {tileSize : α} {surfaces : Surfaces} {room : Room α}

theorem of_build {origin size : Vec3 α}
    (few : ∀ axis, tileCount tileSize (size.along axis) ≤ maxTilesPerAxis) :
    (Room.build tileSize origin size surfaces).TiledWithinCap tileSize surfaces where
  atLeastOne _ := one_le_tileCount tileSize _
  atMost := few
  polygons := rfl
  counts face := length_facePolygons tileSize _ _ surfaces face

/-- Lights are no matter. -/
theorem of_unlit {same : Room α} (tiled : room.TiledWithinCap tileSize surfaces)
    (unlit : same.unlit = room.unlit) : same.TiledWithinCap tileSize surfaces := by
  have size : same.size = room.size := congrArg (·.size) unlit
  have origin : same.origin = room.origin := congrArg (·.origin) unlit
  have polygons : same.polygons = room.polygons := congrArg (·.polygons) unlit
  refine ⟨?_, ?_, ?_, ?_⟩
  · rw [size]
    exact tiled.atLeastOne
  · rw [size]
    exact tiled.atMost
  · rw [polygons, origin, size]
    exact tiled.polygons
  · rw [origin, size]
    exact tiled.counts

theorem length_face_le (tiled : room.TiledWithinCap tileSize surfaces) (face : Face) :
    (facePolygons tileSize room.origin room.size surfaces face).length
      ≤ maxTilesPerAxis * maxTilesPerAxis := by
  rw [tiled.counts face]
  split
  · exact Nat.zero_le _
  · exact Nat.mul_le_mul (tiled.atMost _) (tiled.atMost _)

/-- Six faces under the cap bound the whole room. -/
theorem length_polygons_le (tiled : room.TiledWithinCap tileSize surfaces) :
    room.polygons.length ≤ 6 * (maxTilesPerAxis * maxTilesPerAxis) := by
  rw [tiled.polygons, List.length_flatMap]
  have bounded := List.sum_le_card_nsmul
    (Face.all.map fun face => (facePolygons tileSize room.origin room.size surfaces face).length)
    (maxTilesPerAxis * maxTilesPerAxis) fun count member => by
      obtain ⟨face, _, rfl⟩ := List.mem_map.mp member
      exact tiled.length_face_le face
  simpa [Face.all] using bounded

end Room.TiledWithinCap

end Counts

variable {session : Session} {statements : List Statement}

/-- Every room that was built is tiled as its definition asks, within the cap. -/
theorem Construction.exists_tiledWithinCap {index : Nat} {room : Room Float}
    (found : ((start session).performAll statements).level[index]? = some room) :
    ∃ earlier size definition alignments,
      (Action.addRoom size definition alignments).StandsAfter earlier statements
        ∧ ((start session).performAll earlier).level.length = index
        ∧ room.TiledWithinCap session.config.tileSize
            (((start session).performAll earlier).definitions.named definition) := by
  obtain ⟨earlier, size, definition, alignments, extent, stands, last, accepted, unlit⟩ :=
    exists_statement_of_room found
  have few := (resolveSize_eq_ok_iff.mp accepted).2
  have config : ((start session).performAll earlier).session.config = session.config :=
    (keepsConfig session.config).performAll rfl earlier
  simp only [tilesAlong, config] at few
  have tiled : (((start session).performAll earlier).nextRoom extent definition
      alignments).TiledWithinCap session.config.tileSize
        (((start session).performAll earlier).definitions.named definition) := by
    rw [nextRoom, config]
    exact .of_build few
  exact ⟨earlier, size, definition, alignments, stands, last, tiled.of_unlit unlit⟩

/-- The cap protects every compile, whatever the settings are, also those that make a tile
size of no use. Each room that a script builds is placed by some statement of it and tiled as
the definition used there asks: along each axis it has between one and 256 tiles, each face
has as many tiles as its two axes make and a removed face has none. So no room that a
compile comes to has more polygons than six full faces. -/
theorem tile_cap_protects_compile (session : Session) (statements : List Statement) :
    (∀ index room,
      ((Construction.start session).performAll statements).level[index]? = some room →
        ∃ earlier size definition alignments,
          (Action.addRoom size definition alignments).StandsAfter earlier statements
            ∧ ((Construction.start session).performAll earlier).level.length = index
            ∧ room.TiledWithinCap session.config.tileSize
                (((Construction.start session).performAll earlier).definitions.named definition))
      ∧ ∀ room ∈ (compileStatements session statements).level,
          room.polygons.length ≤ 6 * 256 * 256 := by
  refine ⟨fun index room => Construction.exists_tiledWithinCap, fun left member => ?_⟩
  obtain ⟨index, found⟩ := List.getElem?_of_mem member
  obtain ⟨built, inBuilt, part⟩ := exists_getElem?_of_forall₂
    (forall₂_isLeftOf_finishRooms session.config
      ((Construction.start session).performAll statements).level) found
  obtain ⟨_, _, definition, _, _, _, tiled⟩ := Construction.exists_tiledWithinCap inBuilt
  exact part.sublist.length_le.trans tiled.length_polygons_le

/-- A tile size of one cuts a room of three by two by one into cells; more than 256 of them
along an axis are too many, so the second room is not built. -/
theorem tile_cap_protects_compile_unit_tiles :
    let session : Session :=
      { config := { tileSize := 1 }, textures := fun _ => ⟨fun _ => none, fun _ _ => none⟩ }
    let room (width : Int) : Statement :=
      ⟨1, .addRoom ⟨.literal width, .literal 2, .literal 1⟩ "default" []⟩
    let built := ((Construction.start session).performAll [room 3, room 257]).level
    built.map (·.polygons.length) = [2 * (3 * 2 + 3 * 1 + 2 * 1)]
      ∧ ∃ room, built[0]? = some room ∧ ∃ surfaces, room.TiledWithinCap 1 surfaces := by
  intro session room built
  have counts : built.map (·.polygons.length) = [2 * (3 * 2 + 3 * 1 + 2 * 1)] := by decide +kernel
  obtain ⟨first, others, isBuilt, -⟩ := List.map_eq_cons_iff.mp counts
  have found : built[0]? = some first := by rw [isBuilt]; rfl
  obtain ⟨earlier, size, definition, alignments, -, -, tiled⟩ :=
    (tile_cap_protects_compile session [room 3, room 257]).1 0 first found
  exact ⟨counts, first, found, _, tiled⟩

end RoomLayout
