import RoomLayout.Files.Access
import RoomLayout.Level.Bundle
import RoomLayout.Yaml.Document
import RoomLayout.Yaml.Fields
import RoomLayout.Yaml.Layout
import RoomLayout.Yaml.Style

/-!
# Bundle files

Level bundles as YAML records. Reading needs all fields but the lights of a
room, which may be missing, and lists of fixed length must have that length.
-/

namespace RoomLayout

open Yaml (Node Fields)

/-! ## Numbers in lists -/

/-- The list of three coordinates. -/
def Vec3.toNode (v : Vec3 Float) : Node := .sequence (v.toList.map Node.number)

/-- The vector in a list of three coordinates. -/
def Vec3.ofNode? (node : Node) : Option (Vec3 Float) := do
  match ← node.list? Node.number? with
  | [x, y, z] => return ⟨x, y, z⟩
  | _ => none

/-- The list of two texture coordinates. -/
def uvToNode (uv : Float × Float) : Node := .sequence [.number uv.1, .number uv.2]

/-- The texture coordinates in a list of two. -/
def uvOfNode? (node : Node) : Option (Float × Float) := do
  match ← node.list? Node.number? with
  | [u, v] => return (u, v)
  | _ => none

/-- The list of what four corners have. -/
def Quad.toNode {α : Type} (write : α → Node) (quad : Quad α) : Node :=
  .sequence (quad.toList.map write)

/-- What four corners have, in a list of four. -/
def Quad.ofNode? {α : Type} (read : Node → Option α) (node : Node) : Option (Quad α) := do
  match ← node.list? read with
  | [a, b, c, d] => return ⟨a, b, c, d⟩
  | _ => none

/-! ## Lights -/

/-- The record of a light. Its position has named coordinates. -/
def Light.toNode (light : Light Float) : Node :=
  .record
    [("position", .record
      [("x", .number light.position.x), ("y", .number light.position.y),
       ("z", .number light.position.z)]),
     ("radius", .number light.radius),
     ("intensity", .number light.intensity)]

/-- The position in a record of named coordinates. -/
def positionOfNode? (node : Node) : Option (Vec3 Float) := do
  let fields ← node.fields?
  return {
    x := ← fields.required "x" Node.number?
    y := ← fields.required "y" Node.number?
    z := ← fields.required "z" Node.number? }

/-- The light of a record. -/
def Light.ofNode? (node : Node) : Option (Light Float) := do
  let fields ← node.fields?
  return {
    position := ← fields.required "position" positionOfNode?
    radius := ← fields.required "radius" Node.number?
    intensity := ← fields.required "intensity" Node.number? }

/-! ## Polygons, rooms and bundles -/

namespace PolygonRecord

/-- The record of a polygon. -/
def toNode (polygon : PolygonRecord) : Node :=
  .record
    [("positions", polygon.positions.toNode Vec3.toNode),
     ("uvs", polygon.uvs.toNode uvToNode),
     ("normal", polygon.normal.toNode),
     ("texture", .text polygon.texture)]

/-- The polygon of a record. -/
def ofNode? (node : Node) : Option PolygonRecord := do
  let fields ← node.fields?
  return {
    positions := ← fields.required "positions" (Quad.ofNode? Vec3.ofNode?)
    uvs := ← fields.required "uvs" (Quad.ofNode? uvOfNode?)
    normal := ← fields.required "normal" Vec3.ofNode?
    texture := ← fields.required "texture" Node.text? }

end PolygonRecord

namespace RoomRecord

/-- The record of a room. -/
def toNode (room : RoomRecord) : Node :=
  .record
    [("origin", room.origin.toNode),
     ("size", room.size.toNode),
     ("polygons", .sequence (room.polygons.map PolygonRecord.toNode)),
     ("lights", .sequence (room.lights.map Light.toNode))]

/-- The room of a record. -/
def ofNode? (node : Node) : Option RoomRecord := do
  let fields ← node.fields?
  return {
    origin := ← fields.required "origin" Vec3.ofNode?
    size := ← fields.required "size" Vec3.ofNode?
    polygons := ← fields.required "polygons" (Node.list? PolygonRecord.ofNode?)
    lights := ← fields.optional "lights" [] (Node.list? Light.ofNode?) }

end RoomRecord

namespace Bundle

/-- The record of a bundle. -/
def toNode (bundle : Bundle) : Node :=
  .record
    [("rooms", .sequence (bundle.rooms.map RoomRecord.toNode)),
     ("textures", .sequence (bundle.textures.map Node.text))]

/-- The bundle of a record. -/
def ofNode? (node : Node) : Option Bundle := do
  let fields ← node.fields?
  return {
    rooms := ← fields.required "rooms" (Node.list? RoomRecord.ofNode?)
    textures := ← fields.required "textures" (Node.list? Node.text?) }

/-- The text of a bundle file. -/
def toText (bundle : Bundle) : String := bundle.toNode.toText

/-- The bundle in the text of a bundle file. -/
def ofText? (text : String) : Option Bundle := do ofNode? (← Node.ofText? text)

end Bundle

/-! ## Files -/

variable {m : Type → Type} [Monad m] [FileAccess m]

/-- Write a bundle file, making the directories above it. -/
def saveBundle (path : String) (bundle : Bundle) : m (Except FileError Unit) := do
  let parent := (Path.parent? path).getD ""
  let made ← if parent = "" then pure (.ok ()) else FileAccess.createDirectories parent
  match made with
  | .error error => return .error error
  | .ok () => FileAccess.writeText path bundle.toText

/-- Read a bundle file. -/
def loadBundle (path : String) : m (Except FileError Bundle) := do
  match ← FileAccess.readText path with
  | .error error => return .error error
  | .ok text =>
    match Bundle.ofText? text with
    | none => return .error .malformed
    | some bundle => return .ok bundle

end RoomLayout
