import RoomLayout.Level.BundleFile
import RoomLayout.Proofs.Export.Descriptions
import RoomLayout.Proofs.Yaml.Documents
import RoomLayout.Proofs.Yaml.Values

/-!
# Bundles are read back

The text that is written for a level is read as a bundle that describes the level: the same
rooms, polygons, lights and texture names, in their order. Of single values this needs to know
only that each number of the level is what its own text stands for (`ReadsBack`). Rooms without
lights may leave out the field for them (`Bundle.IsWrittenAs`).
-/

namespace RoomLayout

open Yaml (Node Fields)

/-- The text of a number stands for that number. -/
def ReadsBack (x : Float) : Prop :=
  Yaml.number? (Yaml.numberFormat.writeFloat x) = some x

/-- For a given number this can be tried. -/
instance (x : Float) : Decidable (ReadsBack x) := inferInstanceAs (Decidable (_ = _))

/-! ## The numbers of a bundle -/

/-- The numbers of a light. -/
def Light.numbers (light : Light Float) : List Float :=
  light.position.toList ++ [light.radius, light.intensity]

/-- The numbers of a polygon. -/
def PolygonRecord.numbers (polygon : PolygonRecord) : List Float :=
  polygon.positions.toList.flatMap Vec3.toList
    ++ polygon.uvs.toList.flatMap (fun uv => [uv.1, uv.2])
    ++ polygon.normal.toList

/-- The numbers of a room. -/
def RoomRecord.numbers (room : RoomRecord) : List Float :=
  room.origin.toList ++ room.size.toList ++ room.polygons.flatMap PolygonRecord.numbers
    ++ room.lights.flatMap Light.numbers

/-- The numbers of a bundle. -/
def Bundle.numbers (bundle : Bundle) : List Float := bundle.rooms.flatMap RoomRecord.numbers

/-! ## The numbers of a level -/

/-- The numbers of a polygon: where its corners are, on the level and on the image, and where it
faces. -/
def Polygon.numbers (polygon : Polygon Float) : List Float :=
  polygon.corners.toList.flatMap (fun corner => corner.position.toList ++ [corner.u, corner.v])
    ++ polygon.normal.toList

/-- The numbers of a room. -/
def Room.numbers (room : Room Float) : List Float :=
  room.origin.toList ++ room.size.toList ++ room.polygons.flatMap Polygon.numbers
    ++ room.lights.flatMap Light.numbers

/-- The numbers of a level. -/
def Level.numbers (level : Level Float) : List Float := level.flatMap Room.numbers

theorem PolygonRecord.numbers_ofPolygon_subset (polygon : Polygon Float) :
    (ofPolygon polygon).numbers ⊆ polygon.numbers := by
  intro x member
  simp only [numbers, ofPolygon, Polygon.positions, Quad.map, Quad.toList, List.mem_append,
    List.flatMap_cons, List.flatMap_nil, List.not_mem_nil, or_false] at member
  simp only [Polygon.numbers, Quad.toList, List.mem_append, List.flatMap_cons, List.flatMap_nil,
    List.not_mem_nil, or_false]
  tauto

theorem RoomRecord.numbers_ofRoom_subset (room : Room Float) :
    (ofRoom room).numbers ⊆ room.numbers := by
  intro x member
  simp only [numbers, ofRoom, List.flatMap_map, List.mem_append, List.mem_flatMap] at member
  simp only [Room.numbers, List.mem_append, List.mem_flatMap]
  rcases member with (ofBox | ⟨polygon, inRoom, inRecord⟩) | ofLight
  · exact .inl (.inl ofBox)
  · exact .inl (.inr ⟨polygon, inRoom, PolygonRecord.numbers_ofPolygon_subset polygon inRecord⟩)
  · exact .inr ofLight

/-- The numbers of the bundle of a level are among those of the level. -/
theorem Bundle.numbers_ofLevel_subset (level : Level Float) :
    (ofLevel level).numbers ⊆ level.numbers := by
  intro x member
  simp only [numbers, ofLevel, ofRooms, List.flatMap_map, List.mem_flatMap] at member
  obtain ⟨room, inLevel, inRecord⟩ := member
  exact List.mem_flatMap.mpr ⟨room, inLevel, RoomRecord.numbers_ofRoom_subset room inRecord⟩

/-! ## Records -/

theorem number?_number {x : Float} (readsBack : ReadsBack x) : (Node.number x).number? = some x :=
  readsBack

theorem Vec3.ofNode?_toNode {v : Vec3 Float} (readsBack : ∀ x ∈ v.toList, ReadsBack x) :
    Vec3.ofNode? v.toNode = some v := by
  rw [Vec3.ofNode?, Vec3.toNode,
    Yaml.list?_sequence_map fun x member => number?_number (readsBack x member)]
  rfl

theorem uvOfNode?_uvToNode {uv : Float × Float} (readsBack : ∀ x ∈ [uv.1, uv.2], ReadsBack x) :
    uvOfNode? (uvToNode uv) = some uv := by
  have items : (Node.sequence ([uv.1, uv.2].map Node.number)).list? Node.number?
      = some [uv.1, uv.2] :=
    Yaml.list?_sequence_map fun x member => number?_number (readsBack x member)
  change (uvToNode uv).list? Node.number? = some [uv.1, uv.2] at items
  rw [uvOfNode?, items]
  rfl

theorem Quad.ofNode?_toNode {α : Type} {write : α → Node} {read : Node → Option α}
    {quad : Quad α} (each : ∀ value ∈ quad.toList, read (write value) = some value) :
    Quad.ofNode? read (quad.toNode write) = some quad := by
  rw [Quad.ofNode?, Quad.toNode, Yaml.list?_sequence_map each]
  rfl

theorem Light.ofNode?_toNode {light : Light Float} (readsBack : ∀ x ∈ light.numbers, ReadsBack x) :
    Light.ofNode? light.toNode = some light := by
  simp only [Light.numbers, Vec3.toList, List.cons_append, List.nil_append, List.forall_mem_cons]
    at readsBack
  obtain ⟨x, y, z, radius, intensity, -⟩ := readsBack
  have position : positionOfNode? (.record
      [("x", .number light.position.x), ("y", .number light.position.y),
       ("z", .number light.position.z)]) = some light.position := by
    rw [positionOfNode?, Yaml.fields?_record]
    simp [Fields.required, Fields.valuesOf, number?_number x, number?_number y, number?_number z]
  rw [Light.ofNode?, Light.toNode, Yaml.fields?_record]
  simp [Fields.required, Fields.valuesOf, position, number?_number radius,
    number?_number intensity]

theorem PolygonRecord.ofNode?_toNode {polygon : PolygonRecord}
    (readsBack : ∀ x ∈ polygon.numbers, ReadsBack x) :
    PolygonRecord.ofNode? polygon.toNode = some polygon := by
  simp only [PolygonRecord.numbers, List.mem_append, List.mem_flatMap] at readsBack
  have positions : Quad.ofNode? Vec3.ofNode? (polygon.positions.toNode Vec3.toNode)
      = some polygon.positions :=
    Quad.ofNode?_toNode fun v corner => Vec3.ofNode?_toNode fun x member =>
      readsBack x (.inl (.inl ⟨v, corner, member⟩))
  have uvs : Quad.ofNode? uvOfNode? (polygon.uvs.toNode uvToNode) = some polygon.uvs :=
    Quad.ofNode?_toNode fun uv corner => uvOfNode?_uvToNode fun x member =>
      readsBack x (.inl (.inr ⟨uv, corner, member⟩))
  have normal : Vec3.ofNode? polygon.normal.toNode = some polygon.normal :=
    Vec3.ofNode?_toNode fun x member => readsBack x (.inr member)
  rw [PolygonRecord.ofNode?, PolygonRecord.toNode, Yaml.fields?_record]
  simp [Fields.required, Fields.valuesOf, positions, uvs, normal, Node.text?, Node.text]

/-- The fields of a room are read back. -/
theorem RoomRecord.fields_read {room : RoomRecord} (readsBack : ∀ x ∈ room.numbers, ReadsBack x) :
    Vec3.ofNode? room.origin.toNode = some room.origin
      ∧ Vec3.ofNode? room.size.toNode = some room.size
      ∧ (Node.sequence (room.polygons.map PolygonRecord.toNode)).list? PolygonRecord.ofNode?
          = some room.polygons
      ∧ (Node.sequence (room.lights.map Light.toNode)).list? Light.ofNode? = some room.lights := by
  simp only [RoomRecord.numbers, List.mem_append, List.mem_flatMap] at readsBack
  refine ⟨?origin, ?size, ?polygons, ?lights⟩
  case origin => exact Vec3.ofNode?_toNode fun x member => readsBack x (.inl (.inl (.inl member)))
  case size => exact Vec3.ofNode?_toNode fun x member => readsBack x (.inl (.inl (.inr member)))
  case polygons =>
    exact Yaml.list?_sequence_map fun polygon here => PolygonRecord.ofNode?_toNode fun x member =>
      readsBack x (.inl (.inr ⟨polygon, here, member⟩))
  case lights =>
    exact Yaml.list?_sequence_map fun light here => Light.ofNode?_toNode fun x member =>
      readsBack x (.inr ⟨light, here, member⟩)

theorem RoomRecord.ofNode?_toNode {room : RoomRecord}
    (readsBack : ∀ x ∈ room.numbers, ReadsBack x) : RoomRecord.ofNode? room.toNode = some room := by
  obtain ⟨origin, size, polygons, lights⟩ := RoomRecord.fields_read readsBack
  rw [RoomRecord.ofNode?, RoomRecord.toNode, Yaml.fields?_record]
  simp [Fields.required, Fields.optional, Fields.valuesOf, origin, size, polygons, lights]

/-- The records that a room may be written as: the one with all its fields and, if the room has
no lights, the one without a field for them. -/
inductive RoomRecord.IsWrittenAs : RoomRecord → Node → Prop where
  | whole (room : RoomRecord) : IsWrittenAs room room.toNode
  | withoutLights (origin size : Vec3 Float) (polygons : List PolygonRecord) :
      IsWrittenAs ⟨origin, size, polygons, []⟩
        (.record
          [("origin", origin.toNode), ("size", size.toNode),
           ("polygons", .sequence (polygons.map PolygonRecord.toNode))])

theorem RoomRecord.IsWrittenAs.ofNode? {room : RoomRecord} {node : Node}
    (written : room.IsWrittenAs node) (readsBack : ∀ x ∈ room.numbers, ReadsBack x) :
    RoomRecord.ofNode? node = some room := by
  cases written with
  | whole => exact RoomRecord.ofNode?_toNode readsBack
  | withoutLights =>
    obtain ⟨origin, size, polygons, -⟩ := RoomRecord.fields_read readsBack
    rw [RoomRecord.ofNode?, Yaml.fields?_record]
    simp [Fields.required, Fields.optional, Fields.valuesOf, origin, size, polygons]

/-- The records that a bundle may be written as. -/
inductive Bundle.IsWrittenAs (bundle : Bundle) : Node → Prop where
  | record {rooms : List Node} (each : List.Forall₂ RoomRecord.IsWrittenAs bundle.rooms rooms) :
      IsWrittenAs bundle
        (.record
          [("rooms", .sequence rooms), ("textures", .sequence (bundle.textures.map Node.text))])

theorem Bundle.isWrittenAs_toNode (bundle : Bundle) : bundle.IsWrittenAs bundle.toNode :=
  .record (List.forall₂_map_right_iff.mpr (List.forall₂_same.mpr fun room _ => .whole room))

theorem RoomRecord.forall₂_ofNode? {rooms : List RoomRecord} {nodes : List Node}
    (each : List.Forall₂ RoomRecord.IsWrittenAs rooms nodes)
    (readsBack : ∀ x ∈ rooms.flatMap RoomRecord.numbers, ReadsBack x) :
    List.Forall₂ (fun room node => RoomRecord.ofNode? node = some room) rooms nodes := by
  induction each with
  | nil => exact .nil
  | cons first _ inductionHypothesis =>
    rw [List.flatMap_cons, List.forall_mem_append] at readsBack
    exact .cons (first.ofNode? readsBack.1) (inductionHypothesis readsBack.2)

/-- A bundle is read from any of its records. -/
theorem Bundle.IsWrittenAs.ofNode? {bundle : Bundle} {node : Node}
    (written : bundle.IsWrittenAs node) (readsBack : ∀ x ∈ bundle.numbers, ReadsBack x) :
    Bundle.ofNode? node = some bundle := by
  obtain ⟨each⟩ := written
  have rooms := Yaml.list?_sequence_of_forall₂ (RoomRecord.forall₂_ofNode? each readsBack)
  have textures : (Node.sequence (bundle.textures.map Node.text)).list? Node.text?
      = some bundle.textures :=
    Yaml.list?_sequence_map fun texture _ => rfl
  rw [Bundle.ofNode?, Yaml.fields?_record]
  simp [Fields.required, Fields.valuesOf, rooms, textures]

/-! ## Legibility -/

theorem Vec3.legible_toNode (v : Vec3 Float) : v.toNode.Legible :=
  Yaml.legible_sequence_map v.toList Yaml.legible_number

theorem Quad.legible_toNode {α : Type} {write : α → Node} (quad : Quad α)
    (each : ∀ value, (write value).Legible) : (quad.toNode write).Legible :=
  Yaml.legible_sequence_map quad.toList each

theorem legible_uvToNode (uv : Float × Float) : (uvToNode uv).Legible :=
  Yaml.legible_sequence_map [uv.1, uv.2] Yaml.legible_number

theorem Light.legible_toNode (light : Light Float) : light.toNode.Legible := by
  have number := Yaml.legible_number
  have position : (Node.record
      [("x", .number light.position.x), ("y", .number light.position.y),
       ("z", .number light.position.z)]).Legible :=
    Yaml.legible_record ["x", "y", "z"] rfl (by decide +kernel) (by simp [number])
  exact Yaml.legible_record ["position", "radius", "intensity"] rfl (by decide +kernel)
    (by simp [number, position])

theorem PolygonRecord.legible_toNode (polygon : PolygonRecord) : polygon.toNode.Legible := by
  have positions := polygon.positions.legible_toNode Vec3.legible_toNode
  have uvs := polygon.uvs.legible_toNode legible_uvToNode
  exact Yaml.legible_record ["positions", "uvs", "normal", "texture"] rfl (by decide +kernel)
    (by simp [positions, uvs, Vec3.legible_toNode, Yaml.legible_text])

theorem RoomRecord.IsWrittenAs.legible {room : RoomRecord} {node : Node}
    (written : room.IsWrittenAs node) : node.Legible := by
  cases written with
  | whole =>
    have polygons := Yaml.legible_sequence_map room.polygons PolygonRecord.legible_toNode
    have lights := Yaml.legible_sequence_map room.lights Light.legible_toNode
    exact Yaml.legible_record ["origin", "size", "polygons", "lights"] rfl (by decide +kernel)
      (by simp [Vec3.legible_toNode, polygons, lights])
  | withoutLights _ _ polygons =>
    have polygons := Yaml.legible_sequence_map polygons PolygonRecord.legible_toNode
    exact Yaml.legible_record ["origin", "size", "polygons"] rfl (by decide +kernel)
      (by simp [Vec3.legible_toNode, polygons])

theorem RoomRecord.forall_legible {rooms : List RoomRecord} {nodes : List Node}
    (each : List.Forall₂ RoomRecord.IsWrittenAs rooms nodes) : ∀ node ∈ nodes, node.Legible := by
  induction each with
  | nil => exact List.forall_mem_nil _
  | cons first _ inductionHypothesis =>
    exact List.forall_mem_cons.mpr ⟨first.legible, inductionHypothesis⟩

theorem Bundle.IsWrittenAs.legible {bundle : Bundle} {node : Node}
    (written : bundle.IsWrittenAs node) : node.Legible := by
  obtain ⟨each⟩ := written
  have rooms : (Node.sequence _).Legible := .sequence (RoomRecord.forall_legible each)
  have textures := Yaml.legible_sequence_map bundle.textures Yaml.legible_text
  exact Yaml.legible_record ["rooms", "textures"] rfl (by decide +kernel)
    (by simp [rooms, textures])

/-! ## Bundles -/

/-- The text of a record of a bundle holds the bundle. -/
theorem Bundle.IsWrittenAs.ofText? {bundle : Bundle} {node : Node}
    (written : bundle.IsWrittenAs node) (readsBack : ∀ x ∈ bundle.numbers, ReadsBack x) :
    Bundle.ofText? node.toText = some bundle := by
  have tree : Node.ofText? node.toText = some node := by
    have legible := written.legible
    obtain ⟨each⟩ := written
    exact Yaml.Node.ofText?_toText legible (List.cons_ne_nil _ _)
  rw [Bundle.ofText?, tree]
  exact written.ofNode? readsBack

/-- The text that is written for a level is read as the bundle of the level, the one that
describes it: with the same rooms in order, each with its place, its extent, its lights, and its
polygons with their corners, texture coordinates, normals and written textures, and with the same
texture names. So is a text that leaves out the lights of rooms that have none. -/
theorem export_reads_back (level : Level Float)
    (readsBack : ∀ x ∈ level.numbers, ReadsBack x) :
    Bundle.ofText? (Bundle.ofLevel level).toText = some (Bundle.ofLevel level)
      ∧ (∀ bundle : Bundle, bundle.Describes level ↔ bundle = Bundle.ofLevel level)
      ∧ ∀ node, (Bundle.ofLevel level).IsWrittenAs node →
        Bundle.ofText? node.toText = some (Bundle.ofLevel level) := by
  have bundleReadsBack : ∀ x ∈ (Bundle.ofLevel level).numbers, ReadsBack x :=
    fun x member => readsBack x (Bundle.numbers_ofLevel_subset level member)
  refine ⟨?written, fun _ => Bundle.describes_iff, ?anyRecord⟩
  case written => exact (Bundle.ofLevel level).isWrittenAs_toNode.ofText? bundleReadsBack
  case anyRecord => exact fun node written => written.ofText? bundleReadsBack

/-- A room with a polygon of an odd texture and an infinite light, and an empty room, of which
the lights may be left out. -/
theorem export_reads_back_odd_rooms :
    let corner (x z : Float) : Corner Float := ⟨⟨x, -0.0, z⟩, x, 0.1⟩
    let floor : Polygon Float :=
      ⟨⟨corner 0 0, corner 64 0, corner 64 64, corner 0 64⟩, ⟨0, -1, 0⟩,
        .custom "- sky: #1" "it's\n here\n"⟩
    let light : Light Float := ⟨⟨32, -1.5, 32⟩, 1 / 0, -1 / 0⟩
    let level : Level Float :=
      [{ origin := ⟨0, 0, 0⟩, size := ⟨64, 1e21, 1e-7⟩, polygons := [floor], lights := [light] },
       { origin := ⟨0, 100, 0⟩, size := ⟨64, 64, 64⟩, polygons := [] }]
    let sky : String := "custom:- sky: #1/it's\n here\n"
    let floorRecord : PolygonRecord :=
      { positions := ⟨⟨0, -0.0, 0⟩, ⟨64, -0.0, 0⟩, ⟨64, -0.0, 64⟩, ⟨0, -0.0, 64⟩⟩
        uvs := ⟨(0, 0.1), (64, 0.1), (64, 0.1), (0, 0.1)⟩
        normal := ⟨0, -1, 0⟩
        texture := sky }
    let first : RoomRecord := ⟨⟨0, 0, 0⟩, ⟨64, 1e21, 1e-7⟩, [floorRecord], [light]⟩
    let second : RoomRecord := ⟨⟨0, 100, 0⟩, ⟨64, 64, 64⟩, [], []⟩
    let bundle : Bundle := ⟨[first, second], [sky]⟩
    let shorter : Node :=
      .record
        [("rooms", .sequence
          [first.toNode,
           .record
            [("origin", second.origin.toNode), ("size", second.size.toNode),
             ("polygons", .sequence [])]]),
         ("textures", .sequence [.text sky])]
    (∀ x ∈ level.numbers, ReadsBack x)
      ∧ Bundle.ofText? (Bundle.ofLevel level).toText = some bundle
      ∧ bundle.Describes level
      ∧ Bundle.ofText? shorter.toText = some bundle := by
  intro corner floor light level sky floorRecord first second bundle shorter
  have readsBack : ∀ x ∈ level.numbers, ReadsBack x := by decide +kernel
  obtain ⟨written, describes, anyRecord⟩ := export_reads_back level readsBack
  have isBundle : Bundle.ofLevel level = bundle := rfl
  rw [isBundle] at written describes anyRecord
  refine ⟨readsBack, isBundle ▸ written, (describes bundle).mpr rfl, anyRecord shorter ?_⟩
  exact .record (.cons (.whole first) (.cons (.withoutLights _ _ []) .nil))

end RoomLayout
