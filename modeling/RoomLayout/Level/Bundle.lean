import RoomLayout.Catalogue
import RoomLayout.Room.Basic

/-!
# Level bundles

A flat snapshot of the rooms, independent of any engine: positions, texture
coordinates, normals and texture names per polygon, lights, and the names of
all textures that occur.
-/

namespace RoomLayout

/-- A polygon of a bundle. -/
structure PolygonRecord where
  positions : Quad (Vec3 Float)
  /-- The texture coordinates of the corners. -/
  uvs : Quad (Float × Float)
  normal : Vec3 Float
  texture : String
  deriving BEq

/-- A room of a bundle. -/
structure RoomRecord where
  /-- The center of the floor. -/
  origin : Vec3 Float
  size : Vec3 Float
  polygons : List PolygonRecord
  lights : List (Light Float)
  deriving BEq

/-- Everything that one compile produced. -/
structure Bundle where
  rooms : List RoomRecord
  /-- The distinct texture names of the polygons, ascending. -/
  textures : List String
  deriving BEq

/-- The record of a polygon. -/
def PolygonRecord.ofPolygon (polygon : Polygon Float) : PolygonRecord where
  positions := polygon.positions
  uvs := polygon.corners.map fun corner => (corner.u, corner.v)
  normal := polygon.normal
  texture := polygon.texture.display

/-- The record of a room. -/
def RoomRecord.ofRoom (room : Room Float) : RoomRecord where
  origin := room.origin
  size := room.size
  polygons := room.polygons.map .ofPolygon
  lights := room.lights

namespace Bundle

/-- The bundle of some rooms. Its texture names are those on their polygons. -/
def ofRooms (rooms : List RoomRecord) : Bundle where
  rooms := rooms
  textures := Catalogue.ofList (fun a b => decide (a < b))
    (rooms.flatMap fun room => room.polygons.map (·.texture))

/-- The bundle of a level. -/
def ofLevel (level : Level Float) : Bundle := ofRooms (level.map .ofRoom)

/-- The number of polygons in a bundle. -/
def polygonCount (bundle : Bundle) : Nat :=
  bundle.rooms.foldr (fun room count => room.polygons.length + count) 0

end Bundle

end RoomLayout
