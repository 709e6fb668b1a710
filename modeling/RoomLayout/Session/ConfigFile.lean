import RoomLayout.Files.Access
import RoomLayout.Session.Config
import RoomLayout.Yaml.Document
import RoomLayout.Yaml.Fields
import RoomLayout.Yaml.Layout
import RoomLayout.Yaml.Style

/-!
# Configuration files

Settings as a YAML record. A file may leave out any setting, which then has its
default, and may hold fields that are none; a missing file has all defaults.
-/

namespace RoomLayout

namespace Config

open Yaml (Node Fields)

/-- The record of settings. -/
def toNode (config : Config) : Node :=
  .record
    [("tile_size", .number config.tileSize),
     ("union_epsilon", .number config.tolerance),
     ("stitch_rooms", .truth config.stitchRooms),
     ("light_intensity", .number config.lightIntensity),
     ("dim_factor", .number config.dimFactor),
     ("light_radius_scale", .number config.lightRadiusScale),
     ("texture_root", .optionalText config.textureRoot),
     ("check_textures", .truth config.checkTextures)]

/-- The settings in the fields of a record. -/
def ofFields? (fields : Fields) : Option Config := do
  let base : Config := {}
  return {
    tileSize := ← fields.optional "tile_size" base.tileSize Node.number?
    tolerance := ← fields.optional "union_epsilon" base.tolerance Node.number?
    stitchRooms := ← fields.optional "stitch_rooms" base.stitchRooms Node.truth?
    lightIntensity := ← fields.optional "light_intensity" base.lightIntensity Node.number?
    dimFactor := ← fields.optional "dim_factor" base.dimFactor Node.number?
    lightRadiusScale := ← fields.optional "light_radius_scale" base.lightRadiusScale Node.number?
    textureRoot := ← fields.optional "texture_root" base.textureRoot Node.optionalText?
    checkTextures := ← fields.optional "check_textures" base.checkTextures Node.truth? }

/-- The settings of a record. -/
def ofNode? (node : Node) : Option Config := do ofFields? (← node.fields?)

/-- The text of a configuration file. -/
def toText (config : Config) : String := config.toNode.toText

/-- The settings in the text of a configuration file. -/
def ofText? (text : String) : Option Config := do ofNode? (← Node.ofText? text)

end Config

variable {m : Type → Type} [Monad m] [FileAccess m]

/-- Read a configuration file. Without a file there are defaults. -/
def loadConfig (path : String) : m (Except FileError Config) := do
  if ← FileAccess.leadsSomewhere path then
    match ← FileAccess.readText path with
    | .error error => return .error error
    | .ok text =>
      match Config.ofText? text with
      | none => return .error .malformed
      | some config => return .ok config
  else return .ok {}

/-- Write a configuration file, making the directories above it. -/
def saveConfig (path : String) (config : Config) : m (Except FileError Unit) := do
  let made ← match Path.parent? path with
    | none => pure (.ok ())
    | some parent => FileAccess.createDirectories parent
  match made with
  | .error error => return .error error
  | .ok () => FileAccess.writeText path config.toText

end RoomLayout
