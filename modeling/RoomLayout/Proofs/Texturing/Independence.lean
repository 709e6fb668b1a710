import RoomLayout.Level.Compile
import RoomLayout.Proofs.Construction.Invariant
import RoomLayout.Proofs.Construction.Lockstep
import RoomLayout.Proofs.Texturing.Outlines

/-!
# Texturing never influences geometry

A script says which faces are built and what covers them. The second has no bearing on
the first: neither the textures that rules name, nor how they are fitted, nor whether
they are found changes where anything stands, what touches and what is stitched away.
-/

namespace RoomLayout

/-- Two rules for the same faces that both remove them or both cover them, with whatever
textures. -/
structure FaceRule.SameButTexture (rule rule' : FaceRule) : Prop where
  target : rule.target = rule'.target
  off : rule.source = .off ↔ rule'.source = .off

/-- Two statements that are the same but for the textures of face rules. -/
abbrev Statement.SameButTextures : Statement → Statement → Prop :=
  Statement.SameButRules (List.Forall₂ FaceRule.SameButTexture)

namespace Surfaces

theorem SameFaces.refl (surfaces : Surfaces) : surfaces.SameFaces surfaces := fun _ => rfl

theorem SameFaces.set {surfaces surfaces' : Surfaces} (same : surfaces.SameFaces surfaces')
    (target : Face) {covering covering' : Covering}
    (sameRemoval : covering.isRemoved = covering'.isRemoved) :
    (surfaces.set target covering).SameFaces (surfaces'.set target covering') := by
  intro face
  rw [face_set, face_set]
  split
  · exact sameRemoval
  · exact same face

/-- Covering or removing the same faces leaves the same faces. -/
theorem SameFaces.setAll {surfaces surfaces' : Surfaces} (same : surfaces.SameFaces surfaces')
    (faces : List Face) {covering covering' : Covering}
    (sameRemoval : covering.isRemoved = covering'.isRemoved) :
    (surfaces.setAll faces covering).SameFaces (surfaces'.setAll faces covering') := by
  induction faces generalizing surfaces surfaces' with
  | nil => exact same
  | cons face rest inductionHypothesis => exact inductionHypothesis (same.set face sameRemoval)

end Surfaces

namespace Construction

/-- Only a rule that says so removes its faces, found texture or not. -/
theorem isRemoved_covering (session : Session) (line : Nat) (source : FaceSource) :
    (covering session line source).1.isRemoved = true ↔ source = .off := by
  cases source with
  | off => exact ⟨fun _ => rfl, fun _ => rfl⟩
  | builtin name fit => exact ⟨nofun, nofun⟩
  | custom folder filename fit => exact ⟨nofun, nofun⟩

/-- Rules that differ in textures only describe surfaces with the same faces. -/
theorem sameFaces_foldl_applyRule {rules rules' : List FaceRule}
    (same : List.Forall₂ FaceRule.SameButTexture rules rules') {state state' : Surfaces × Session}
    (faces : state.1.SameFaces state'.1) (config : state.2.config = state'.2.config) :
    (rules.foldl applyRule state).1.SameFaces (rules'.foldl applyRule state').1
      ∧ (rules.foldl applyRule state).2.config = (rules'.foldl applyRule state').2.config := by
  induction same generalizing state state' with
  | nil => exact ⟨faces, config⟩
  | @cons rule rule' rest rest' first _ inductionHypothesis =>
    rw [List.foldl_cons, List.foldl_cons]
    apply inductionHypothesis
    · simp only [applyRule, first.target]
      refine faces.setAll _ ?_
      rw [Bool.eq_iff_iff, isRemoved_covering, isRemoved_covering, first.off]
    · simp only [applyRule, config_covering, config]

end Construction

/-- Two runs that may find different textures and cover faces differently. -/
def Coupling.upToTextures : Coupling where
  Sessions session session' := session.config = session'.config
  Covered := Surfaces.SameFaces
  Rules := List.Forall₂ FaceRule.SameButTexture
  Levels := Level.SameGeometry
  sameConfig same := same
  report same _ _ := same
  bare := .refl {}
  define same rules := Construction.sameFaces_foldl_applyRule rules (.refl {}) same
  place same covered tileSize origin size :=
    List.rel_append same (.cons (Room.build_sameGeometry covered tileSize origin size) .nil)
  light same config cursor modifier := by
    refine Level.SameGeometry.withLight same fun room room' sameRoom => ?_
    rw [Construction.lightIn, Construction.lightIn, sameRoom.size]

/-- Texturing never influences geometry. Two programs that differ only in the textures of
their face rules, compiled with the same settings and any sources of textures, result in
as many rooms, with the same places, extents, boxes and lights and, one by one, the same
corners and normals of polygons, whether the rooms are stitched or not. -/
theorem texturing_preserves_geometry (session session' : Session)
    (statements statements' : List Statement) (config : session.config = session'.config)
    (same : List.Forall₂ Statement.SameButTextures statements statements') :
    List.Forall₂ Room.SameGeometry (compileStatements session statements).level
      (compileStatements session' statements').level := by
  have started : Coupling.upToTextures.Lockstep (.start session) (.start session') :=
    .start config .nil
  have built := (started.performAll same).level
  simp only [compileStatements, finishRooms, config]
  split
  · exact Level.SameGeometry.stitch _ _ built _
  · exact built

/-- The hall is open to the west, and both rooms lose the wall between them, whether every
texture is found or none. -/
theorem texturing_preserves_geometry_hall :
    let hall (floor walls : FaceSource) : List Statement :=
      [⟨1, .define "hall"
          [⟨2, .single .floor, floor⟩, ⟨3, .walls, walls⟩, ⟨4, .single .wallWest, .off⟩]⟩,
        ⟨6, .addRoom ⟨.literal 100, .literal 100, .literal 100⟩ "hall" []⟩,
        ⟨7, .addRoom ⟨.literal 100, .literal 100, .literal 100⟩ "default" [⟨.x, .plusPlus⟩]⟩]
    let statements := hall (.builtin "stone" {}) (.custom "tex" "brick.jpg" { x := true })
    let statements' := hall (.custom "" "" {}) (.builtin "plank" { y := true })
    let known : Session := { config := {}, textures := fun _ =>
      ⟨fun name => some (.builtin name), fun folder filename => some (.custom folder filename)⟩ }
    let unknown : Session :=
      { config := {}, textures := fun _ => ⟨fun _ => none, fun _ _ => none⟩ }
    known.config = unknown.config ∧ List.Forall₂ Statement.SameButTextures statements statements'
      ∧ (compileStatements known statements).level.map (fun room => room.polygons.length) = [4, 5]
      ∧ List.Forall₂ Room.SameGeometry (compileStatements known statements).level
        (compileStatements unknown statements').level := by
  intro hall statements statements' known unknown
  have same : List.Forall₂ Statement.SameButTextures statements statements' := by
    refine .cons (.define "hall" ?_) (.cons (.addRoom _ _ _) (.cons (.addRoom _ _ _) .nil))
    exact .cons ⟨rfl, by decide⟩ (.cons ⟨rfl, by decide⟩ (.cons ⟨rfl, by decide⟩ .nil))
  exact ⟨rfl, same, by decide +kernel,
    texturing_preserves_geometry known unknown statements statements' rfl same⟩

end RoomLayout
