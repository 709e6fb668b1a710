import RoomLayout.Level.Bundle
import RoomLayout.Level.Compile
import RoomLayout.Proofs.Construction.Invariant
import RoomLayout.Proofs.Texturing.Catalogue

/-!
# Textures in use

A session lists the textures in use, a bundle the written forms of the textures that its
polygons carry. The session's list is filled one polygon at a time, once the rooms are
stitched; the bundle's is made from the rooms. Both agree with the polygons that are
left, and so with each other.
-/

namespace RoomLayout

/-- Whether a texture is on some polygon of a level. -/
def Level.Carries (level : Level Float) (texture : Texture) : Prop :=
  ∃ room ∈ level, ∃ polygon ∈ room.polygons, polygon.texture = texture

theorem Level.mem_textures_iff {level : Level Float} {texture : Texture} :
    texture ∈ level.polygons.map Polygon.texture ↔ level.Carries texture := by
  simp only [Level.polygons, Level.Carries, List.mem_map, List.mem_flatMap]
  constructor
  · rintro ⟨polygon, ⟨room, inLevel, inRoom⟩, same⟩
    exact ⟨room, inLevel, polygon, inRoom, same⟩
  · rintro ⟨room, inLevel, polygon, inRoom, same⟩
    exact ⟨polygon, ⟨room, inLevel, inRoom⟩, same⟩

/-! ## Marking -/

/-- Mark the textures of polygons as used. -/
def Session.markPolygons (session : Session) (polygons : List (Polygon Float)) : Session :=
  polygons.foldl (fun session polygon => session.markUsed polygon.texture) session

/-- Marking enters the textures of the polygons into the catalogue of those in use, all
but the placeholder. -/
theorem Session.used_markPolygons (session : Session) (polygons : List (Polygon Float)) :
    (session.markPolygons polygons).used =
      ((polygons.map Polygon.texture).filter fun texture => texture ≠ .missing).foldl
        (fun catalogue texture => Catalogue.insert Texture.before texture catalogue)
        session.used := by
  rw [markPolygons]
  induction polygons generalizing session with
  | nil => rfl
  | cons polygon rest inductionHypothesis =>
    rw [List.foldl_cons, inductionHypothesis, List.map_cons, markUsed]
    split
    · next placeholder => rw [List.filter_cons_of_neg (by simpa using placeholder)]
    · next shown => rw [List.filter_cons_of_pos (by simpa using shown), List.foldl_cons]

/-- The textures in use are those marked before and those of the polygons. -/
theorem Session.mem_used_markPolygons {session : Session} {polygons : List (Polygon Float)}
    {texture : Texture} :
    texture ∈ (session.markPolygons polygons).used
      ↔ (texture ∈ polygons.map Polygon.texture ∧ texture ≠ .missing)
        ∨ texture ∈ session.used := by
  rw [used_markPolygons, Catalogue.mem_foldl_insert, List.mem_filter, decide_eq_true_iff]

/-- Marking changes nothing but the textures in use. -/
theorem Session.markPolygons_eq_withUsed (session : Session) (polygons : List (Polygon Float)) :
    session.markPolygons polygons
      = { session with used := (session.markPolygons polygons).used } := by
  simp only [markPolygons]
  induction polygons generalizing session with
  | nil => rfl
  | cons polygon rest inductionHypothesis =>
    rw [List.foldl_cons, inductionHypothesis, markUsed]
    split <;> rfl

/-- Marking reports nothing. -/
theorem Session.log_markPolygons (session : Session) (polygons : List (Polygon Float)) :
    (session.markPolygons polygons).log = session.log := by
  rw [markPolygons_eq_withUsed]

/-! ## Building -/

namespace Construction

/-- Statements mark nothing as used. -/
theorem keepsUsed (used : List Texture) : Invariant (fun state => state.session.used = used) := by
  have keeps : SessionInvariant fun session => session.used = used :=
    ⟨fun kept _ => kept, fun kept _ => kept⟩
  exact keeps.invariant

end Construction

/-- Compiling builds, finishes the rooms, and marks what is left. -/
theorem compileStatements_eq (session : Session) (statements : List Statement) :
    compileStatements session statements =
      let built := (Construction.start session).performAll statements
      let level := finishRooms session.config built.level
      ⟨level, built.session.markPolygons level.polygons⟩ := rfl

/-- A compile that starts without textures in use leaves those in use that are on its
polygons, but for the placeholder. -/
theorem used_compileStatements {session : Session} (fresh : session.used = [])
    (statements : List Statement) :
    (compileStatements session statements).session.used = Catalogue.ofList Texture.before
      (((compileStatements session statements).level.polygons.map Polygon.texture).filter
        fun texture => texture ≠ .missing) := by
  have unused : ((Construction.start session).performAll statements).session.used = [] :=
    (Construction.keepsUsed []).performAll fresh statements
  rw [Catalogue.ofList, ← unused]
  exact Session.used_markPolygons _ (compileStatements session statements).level.polygons

/-- The texture names of a bundle are the written forms of the textures on its polygons. -/
theorem Bundle.textures_ofLevel (level : Level Float) :
    (Bundle.ofLevel level).textures = Catalogue.ofList (fun a b => decide (a < b))
      ((level.polygons.map Polygon.texture).map Texture.display) := by
  simp only [ofLevel, ofRooms, RoomRecord.ofRoom, PolygonRecord.ofPolygon, Level.polygons,
    List.flatMap_map, List.map_flatMap, List.map_map, Function.comp_def]

/-- They are in order, -/
theorem Bundle.pairwise_textures_ofLevel (level : Level Float) :
    (Bundle.ofLevel level).textures.Pairwise (· < ·) := by
  rw [textures_ofLevel]
  exact (Catalogue.pairwise_ofList _).imp of_decide_eq_true

/-- and none is missing. -/
theorem Bundle.mem_textures_ofLevel {level : Level Float} {name : String} :
    name ∈ (Bundle.ofLevel level).textures
      ↔ ∃ texture, level.Carries texture ∧ texture.display = name := by
  rw [textures_ofLevel, Catalogue.mem_ofList, List.mem_map]
  simp only [Level.mem_textures_iff]

/-- The textures that a compile reports in two ways, as they are on its polygons. -/
structure ReportsTextures (compiled : Compiled) (bundle : Bundle) : Prop where
  /-- The textures in use are in order, -/
  used_ascending : compiled.session.used.Pairwise fun a b => a.before b = true
  used_distinct : compiled.session.used.Nodup
  /-- and are those on the polygons that are left, but for the placeholder. -/
  mem_used : ∀ texture,
    texture ∈ compiled.session.used ↔ texture ≠ .missing ∧ compiled.level.Carries texture
  /-- The texture names of the bundle are in order, -/
  names_ascending : bundle.textures.Pairwise fun a b => a < b
  /-- and are those of the textures in use, and the name of the placeholder if it is on
  some polygon that is left. -/
  mem_names : ∀ name, name ∈ bundle.textures ↔
    (∃ texture ∈ compiled.session.used, texture.display = name)
      ∨ name = "<missing>" ∧ compiled.level.Carries .missing
  placeholder_mem_names : "<missing>" ∈ bundle.textures ↔ compiled.level.Carries .missing

/-- The textures in use and the texture names of the bundle are exactly what the polygons
carry that are left after stitching, for every program, with any settings and any source
of textures. -/
theorem textures_reported_exactly (config : Config)
    (textures : List TextureQuery → TextureSource) (statements : List Statement) :
    let compiled := compileStatements { config, textures } statements
    ReportsTextures compiled (Bundle.ofLevel compiled.level) := by
  intro compiled
  have used := @used_compileStatements { config, textures } rfl statements
  have memUsed : ∀ texture, texture ∈ compiled.session.used
      ↔ texture ≠ .missing ∧ compiled.level.Carries texture := by
    intro texture
    rw [used, Catalogue.mem_ofList, List.mem_filter, Level.mem_textures_iff, decide_eq_true_iff,
      and_comm]
  constructor
  case used_ascending =>
    rw [used]
    exact Catalogue.pairwise_ofList _
  case used_distinct =>
    rw [used]
    exact Catalogue.nodup_ofList _
  case mem_used => exact memUsed
  case names_ascending => exact Bundle.pairwise_textures_ofLevel compiled.level
  case mem_names =>
    intro name
    rw [Bundle.mem_textures_ofLevel]
    constructor
    · rintro ⟨texture, carried, rfl⟩
      by_cases placeholder : texture = .missing
      · exact .inr ⟨placeholder ▸ rfl, placeholder ▸ carried⟩
      · exact .inl ⟨texture, (memUsed texture).mpr ⟨placeholder, carried⟩, rfl⟩
    · rintro (⟨texture, inUse, rfl⟩ | ⟨rfl, carried⟩)
      · exact ⟨texture, ((memUsed texture).mp inUse).2, rfl⟩
      · exact ⟨.missing, carried, rfl⟩
  case placeholder_mem_names =>
    rw [Bundle.mem_textures_ofLevel]
    constructor
    · rintro ⟨texture, carried, written⟩
      exact Texture.display_eq_missing_iff.mp written ▸ carried
    · exact fun carried => ⟨.missing, carried, rfl⟩

end RoomLayout
