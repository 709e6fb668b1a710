/-!
# Configuration

The settings of a compile. Every setting has a default.
-/

namespace RoomLayout

/-- The tolerance of stitching when none is set, about 1.2e-4.

Flush faces of two rooms are computed from different floor centers, so their
corners can differ by a few units in the last place; a thousand single
precision units absorb that far from the origin too. -/
def defaultTolerance : Float := 1000 / 8388608

/-- The settings of a compile. -/
structure Config where
  /-- The largest edge of a tile, and the length over which textures repeat. -/
  tileSize : Float := 100
  /-- The tolerance of stitching. -/
  tolerance : Float := defaultTolerance
  /-- Whether touching rooms are stitched. -/
  stitchRooms : Bool := true
  /-- The intensity of a plain light. -/
  lightIntensity : Float := 1
  /-- The factor of a dim light. -/
  dimFactor : Float := 0.5
  /-- The radius of a light as a multiple of its room's larger horizontal extent. -/
  lightRadiusScale : Float := 1
  /-- The folder in which image files are looked up, if not next to the script. -/
  textureRoot : Option String := none
  /-- Whether image files have to exist. -/
  checkTextures : Bool := true
  deriving BEq

end RoomLayout
