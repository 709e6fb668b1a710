import RoomLayout.Room.Basic
import RoomLayout.Room.Face

/-!
# Tiling

Turns an extent and its surfaces into a closed box of quads. Every face is cut
into equal tiles no larger than the tile size, laid out from the face's own
corner on one grid, so neighbouring tiles share their corners and two flush
faces of equal size are cut alike.
-/

namespace RoomLayout

/-- Most tiles a face may have along one direction. A room that needs more is
rejected before any geometry is built. -/
def maxTilesPerAxis : Nat := 256

/-- Where a face starts, which way it spans, how far, and which way it faces. -/
structure FaceLayout (α : Type) where
  start : Vec3 α
  uDirection : Vec3 α
  vDirection : Vec3 α
  width : α
  height : α
  normal : Vec3 α

variable {α : Type} [Coordinate α]

open Coordinate

/-- The unit vector pointing east. -/
def Vec3.east : Vec3 α := ⟨one, Coordinate.zero, Coordinate.zero⟩

/-- The unit vector pointing down. -/
def Vec3.down : Vec3 α := ⟨Coordinate.zero, one, Coordinate.zero⟩

/-- The unit vector pointing north. -/
def Vec3.north : Vec3 α := ⟨Coordinate.zero, Coordinate.zero, one⟩

namespace FaceLayout

/-- The layout of a face of the room with the given floor center and extent.
Normals point into the room. -/
@[specialize] def ofFace (face : Face) (origin size : Vec3 α) : FaceLayout α :=
  let west := origin.x - half size.x
  let east := origin.x + half size.x
  let south := origin.z - half size.z
  let north := origin.z + half size.z
  let floor := origin.y
  let ceiling := origin.y - size.y
  match face with
  | .floor => ⟨⟨west, floor, south⟩, .east, .north, size.x, size.z, -.down⟩
  | .ceiling => ⟨⟨west, ceiling, south⟩, .east, .north, size.x, size.z, .down⟩
  | .wallNorth => ⟨⟨west, floor, north⟩, .east, -.down, size.x, size.y, -.north⟩
  | .wallSouth => ⟨⟨west, floor, south⟩, .east, -.down, size.x, size.y, .north⟩
  | .wallEast => ⟨⟨east, floor, south⟩, .north, -.down, size.z, size.y, -.east⟩
  | .wallWest => ⟨⟨west, floor, south⟩, .north, -.down, size.z, size.y, .east⟩

/-- Whether winding the corners along `u` and then `v` would show the face's
outer side. -/
@[specialize] def windsOutward (layout : FaceLayout α) : Bool :=
  lt ((layout.uDirection.cross layout.vDirection).dot layout.normal) zero

end FaceLayout

/-- How far a length may exceed a whole number of tiles before another tile is
used, as a fraction of a tile. -/
def tileSlack : α := one / ofNat 1000000000

/-- The number of equal tiles along a length so that none exceeds the tile size.
A tile size that is not a positive number asks for a single tile. -/
@[specialize] def tileCount (tileSize length : α) : Nat :=
  if le tileSize zero || !isFinite tileSize || le length zero then 1
  else max (ceilNat (length / tileSize - tileSlack)) 1

/-- The tiles along each axis of a room of the given extent. -/
@[specialize] def tileCounts (tileSize : α) (size : Vec3 α) : Vec3 Nat :=
  size.map (tileCount tileSize)

/-- The length over which a texture repeats: the whole extent of a fitted axis,
else the tile size. -/
@[specialize] def repeatLength (tileSize : α) (isFitted : Bool) (extent : α) : α :=
  if isFitted || le tileSize zero then extent else tileSize

/-- The distance from the start of a face to the `index`-th grid line of `count`. -/
@[specialize] def gridLine (extent : α) (count index : Nat) : α :=
  extent * ofNat index / ofNat count

/-- The corner of a face at the crossing of grid lines `i` and `j`. -/
@[specialize] def gridCorner (tileSize : α) (layout : FaceLayout α) (fit : Fit) (i j : Nat) :
    Corner α :=
  let u := gridLine layout.width (tileCount tileSize layout.width) i
  let v := gridLine layout.height (tileCount tileSize layout.height) j
  { position := layout.start + layout.uDirection.scale u + layout.vDirection.scale v
    u := u / repeatLength tileSize fit.x layout.width
    v := v / repeatLength tileSize fit.y layout.height }

/-- The tile of a face in column `i` and row `j`. -/
@[specialize] def faceTile (tileSize : α) (layout : FaceLayout α) (covering : Covering)
    (i j : Nat) : Polygon α :=
  let corner := gridCorner tileSize layout covering.fit
  let corners : Quad (Corner α) :=
    ⟨corner i j, corner (i + 1) j, corner (i + 1) (j + 1), corner i (j + 1)⟩
  { corners := if layout.windsOutward then corners.reverse else corners
    normal := layout.normal
    texture := covering.texture }

/-- The tiles of a face, column by column. -/
@[specialize] def faceTiles (tileSize : α) (layout : FaceLayout α) (covering : Covering) :
    List (Polygon α) :=
  (List.range (tileCount tileSize layout.width)).flatMap fun i =>
    (List.range (tileCount tileSize layout.height)).map fun j =>
      faceTile tileSize layout covering i j

/-- The polygons that one face contributes to a room; a removed face has none. -/
@[specialize] def facePolygons (tileSize : α) (origin size : Vec3 α) (surfaces : Surfaces)
    (face : Face) : List (Polygon α) :=
  let covering := surfaces.face face
  if covering.isRemoved then [] else faceTiles tileSize (.ofFace face origin size) covering

/-- Build a room of extent `size` whose floor center is at `origin`. -/
@[specialize] def Room.build (tileSize : α) (origin size : Vec3 α) (surfaces : Surfaces) :
    Room α where
  origin := origin
  size := size
  polygons := Face.all.flatMap (facePolygons tileSize origin size surfaces)

end RoomLayout
