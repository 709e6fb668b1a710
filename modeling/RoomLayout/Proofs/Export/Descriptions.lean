import Mathlib.Data.List.Forall2
import Mathlib.Data.List.Sort
import RoomLayout.Proofs.Texturing.Used

/-!
# What a bundle says of a level

A bundle describes a level if it has a record for each room, in order, with all that the room has,
and lists the written forms of the textures on the polygons. A polygon is described corner by
corner, and its texture by the written form. Only the bundle of a level describes the level
(`Bundle.describes_iff`).
-/

namespace RoomLayout

/-- A record of a polygon says where each corner is, on the level and on the image, where the
polygon faces, and how its texture is written. -/
structure PolygonRecord.Describes (record : PolygonRecord) (polygon : Polygon Float) : Prop where
  positions : record.positions =
    ⟨polygon.corners.first.position, polygon.corners.second.position,
      polygon.corners.third.position, polygon.corners.fourth.position⟩
  uvs : record.uvs =
    ⟨(polygon.corners.first.u, polygon.corners.first.v),
      (polygon.corners.second.u, polygon.corners.second.v),
      (polygon.corners.third.u, polygon.corners.third.v),
      (polygon.corners.fourth.u, polygon.corners.fourth.v)⟩
  normal : record.normal = polygon.normal
  texture : record.texture = polygon.texture.display

/-- A record of a room says where it stands and how large it is, and has its polygons and its
lights in their order. -/
structure RoomRecord.Describes (record : RoomRecord) (room : Room Float) : Prop where
  origin : record.origin = room.origin
  size : record.size = room.size
  polygons : List.Forall₂ PolygonRecord.Describes record.polygons room.polygons
  lights : record.lights = room.lights

/-- A bundle has the rooms of a level in their order, and each written form of a texture on a
polygon once, ascending. -/
structure Bundle.Describes (bundle : Bundle) (level : Level Float) : Prop where
  rooms : List.Forall₂ RoomRecord.Describes bundle.rooms level
  ascending : bundle.textures.Pairwise (· < ·)
  mem_textures : ∀ name, name ∈ bundle.textures ↔
    ∃ texture, level.Carries texture ∧ texture.display = name

/-- A relation that says what the first element is says what the first list is. -/
theorem forall₂_iff_eq_map {β γ : Type} {relation : β → γ → Prop} {image : γ → β}
    (isImage : ∀ b c, relation b c ↔ b = image c) {firsts : List β} {seconds : List γ} :
    List.Forall₂ relation firsts seconds ↔ firsts = seconds.map image := by
  rw [← List.forall₂_eq_eq_eq, List.forall₂_map_right_iff]
  exact ⟨List.Forall₂.imp fun b c => (isImage b c).mp,
    List.Forall₂.imp fun b c => (isImage b c).mpr⟩

theorem PolygonRecord.describes_iff (record : PolygonRecord) (polygon : Polygon Float) :
    record.Describes polygon ↔ record = ofPolygon polygon := by
  constructor
  · rintro ⟨positions, uvs, normal, texture⟩
    cases record
    simp only [ofPolygon, mk.injEq]
    exact ⟨positions, uvs, normal, texture⟩
  · rintro rfl
    exact ⟨rfl, rfl, rfl, rfl⟩

theorem RoomRecord.describes_iff (record : RoomRecord) (room : Room Float) :
    record.Describes room ↔ record = ofRoom room := by
  constructor
  · rintro ⟨origin, size, polygons, lights⟩
    cases record
    simp only [ofRoom, mk.injEq]
    exact ⟨origin, size, (forall₂_iff_eq_map PolygonRecord.describes_iff).mp polygons, lights⟩
  · rintro rfl
    exact ⟨rfl, rfl, (forall₂_iff_eq_map PolygonRecord.describes_iff).mpr rfl, rfl⟩

namespace Bundle

/-- The bundle of a level describes it. -/
theorem describes_ofLevel (level : Level Float) : (ofLevel level).Describes level where
  rooms := (forall₂_iff_eq_map RoomRecord.describes_iff).mpr rfl
  ascending := pairwise_textures_ofLevel level
  mem_textures _ := mem_textures_ofLevel

/-- No other bundle describes a level. -/
theorem describes_iff {bundle : Bundle} {level : Level Float} :
    bundle.Describes level ↔ bundle = ofLevel level := by
  refine ⟨fun describes => ?_, fun same => same ▸ describes_ofLevel level⟩
  have rooms : bundle.rooms = (ofLevel level).rooms :=
    (forall₂_iff_eq_map RoomRecord.describes_iff).mp describes.rooms
  have textures : bundle.textures = (ofLevel level).textures :=
    describes.ascending.eq_of_mem_iff (describes_ofLevel level).ascending fun {name} =>
      (describes.mem_textures name).trans ((describes_ofLevel level).mem_textures name).symm
  exact congrArg₂ mk rooms textures

end Bundle

end RoomLayout
