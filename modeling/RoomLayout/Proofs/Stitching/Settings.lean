import Mathlib.Data.List.Forall2
import RoomLayout.Proofs.Construction.SessionCoupling
import RoomLayout.Proofs.Stitching.Fixpoint
import RoomLayout.Proofs.Texturing.Used

/-!
# The settings of stitching

Whether rooms are stitched, and how tightly, is decided once everything is built. No
statement reads these settings, so building commutes with changing them
(`performAll_stitching`), and two compiles that differ in nothing else differ in the
polygons that the pass has taken from the rooms.
-/

namespace RoomLayout

/-- The same settings, but for those of stitching. -/
structure Config.SameButStitching (config config' : Config) : Prop where
  tileSize : config.tileSize = config'.tileSize
  lightIntensity : config.lightIntensity = config'.lightIntensity
  dimFactor : config.dimFactor = config'.dimFactor
  lightRadiusScale : config.lightRadiusScale = config'.lightRadiusScale
  textureRoot : config.textureRoot = config'.textureRoot
  checkTextures : config.checkTextures = config'.checkTextures

/-! ## Building with other settings -/

section Building

variable (stitchRooms : Bool) (tolerance : Float)

/-- The settings with others for stitching. -/
def Config.stitching (config : Config) : Config := { config with stitchRooms, tolerance }

/-- A session with other settings for stitching. -/
def Session.stitching (session : Session) : Session :=
  { session with config := session.config.stitching stitchRooms tolerance }

/-- A construction with other settings for stitching. -/
def Construction.stitching (state : Construction) : Construction :=
  { state with session := state.session.stitching stitchRooms tolerance }

/-- Two runs whose settings differ in those for stitching. -/
def SessionCoupling.stitching : SessionCoupling where
  Related session session' := session' = session.stitching stitchRooms tolerance
  report := by
    rintro session _ rfl diagnostics
    rfl
  noteQuery := by
    rintro session _ rfl query
    rfl
  answers := by
    rintro session _ rfl
    rfl
  tileSize := by
    rintro session _ rfl
    rfl
  light := by
    rintro session _ rfl
    rfl

/-- Statements do the same under other settings for stitching. -/
theorem Construction.performAll_stitching (state : Construction) (statements : List Statement) :
    (state.stitching stitchRooms tolerance).performAll statements =
      (state.performAll statements).stitching stitchRooms tolerance := by
  have before : (SessionCoupling.stitching stitchRooms tolerance).Lockstep state
      (state.stitching stitchRooms tolerance) := ⟨rfl, rfl, rfl, rfl, rfl⟩
  have after := before.performAll statements
  have session : ((state.stitching stitchRooms tolerance).performAll statements).session =
      (state.performAll statements).session.stitching stitchRooms tolerance := after.session
  rw [after.eq_withSession, session]
  rfl

end Building

/-- Settings that agree but for stitching are the same with the same for stitching. -/
theorem Config.SameButStitching.eq_stitching {config config' : Config}
    (same : config.SameButStitching config') :
    config' = config.stitching config'.stitchRooms config'.tolerance := by
  obtain ⟨⟩ := config
  obtain ⟨⟩ := config'
  obtain ⟨rfl, rfl, rfl, rfl, rfl, rfl⟩ := same
  rfl

/-! ## Finishing -/

/-- What stands at a position of one list is related to what stands there in the other. -/
theorem exists_getElem?_of_forall₂ {β γ : Type} {R : β → γ → Prop} {values : List β}
    {values' : List γ} (related : List.Forall₂ R values values') {index : Nat} {value : β}
    (found : values[index]? = some value) :
    ∃ value', values'[index]? = some value' ∧ R value value' := by
  obtain ⟨inRange, rfl⟩ := List.getElem?_eq_some_iff.mp found
  have inRange' : index < values'.length := related.length_eq ▸ inRange
  exact ⟨values'[index], List.getElem?_eq_getElem inRange',
    (List.forall₂_iff_get.mp related).2 index inRange inRange'⟩

/-- A room that other rooms have taken polygons from stands where it stood. -/
structure Room.SamePlace (room room' : Room Float) : Prop where
  origin : room.origin = room'.origin
  size : room.size = room'.size
  bounds : room.bounds = room'.bounds
  lights : room.lights = room'.lights

theorem Room.IsLeftOf.samePlace {left room : Room Float} (part : left.IsLeftOf room) :
    left.SamePlace room := by
  obtain ⟨test, rfl⟩ := part
  exact ⟨rfl, rfl, rfl, rfl⟩

/-- Two rooms that stand where a third one stands. -/
theorem Room.SamePlace.of_same {first second room : Room Float} (left : first.SamePlace room)
    (right : second.SamePlace room) : first.SamePlace second where
  origin := left.origin.trans right.origin.symm
  size := left.size.trans right.size.symm
  bounds := left.bounds.trans right.bounds.symm
  lights := left.lights.trans right.lights.symm

/-- Of the polygons some are left, in their order. -/
theorem Room.IsLeftOf.sublist {left room : Room Float} (part : left.IsLeftOf room) :
    left.polygons.Sublist room.polygons := by
  obtain ⟨test, rfl⟩ := part
  exact List.filter_sublist

/-- Stitching takes polygons away, room by room, and nothing else. -/
theorem Level.forall₂_isLeftOf_stitch (tolerance : Float) (level : Level Float) :
    List.Forall₂ Room.IsLeftOf (level.stitch tolerance).1 level := by
  obtain ⟨test, stitched, _⟩ := stitch_eq_keep tolerance level
  rw [stitched, List.forall₂_iff_get]
  refine ⟨by simp [keep], fun i inStitched inLevel => ?_⟩
  simp only [keep, List.get_eq_getElem, List.getElem_mapIdx]
  exact ⟨test i, rfl⟩

/-- Finishing takes polygons away at most. -/
theorem forall₂_isLeftOf_finishRooms (config : Config) (level : Level Float) :
    List.Forall₂ Room.IsLeftOf (finishRooms config level) level := by
  rw [finishRooms]
  split
  · exact level.forall₂_isLeftOf_stitch config.tolerance
  · exact List.forall₂_same.mpr fun room _ => .refl room

/-- Finishing moves no room and changes no light. -/
theorem forall₂_samePlace_finishRooms (config : Config) (level : Level Float) :
    List.Forall₂ Room.SamePlace (finishRooms config level) level :=
  (forall₂_isLeftOf_finishRooms config level).imp fun _ _ part => part.samePlace

/-- A texture that is left on some polygon was there before. -/
theorem Level.Carries.of_isLeftOf {left level : Level Float} {texture : Texture}
    (carried : left.Carries texture) (parts : List.Forall₂ Room.IsLeftOf left level) :
    level.Carries texture := by
  obtain ⟨room, inLeft, polygon, inRoom, same⟩ := carried
  obtain ⟨i, found⟩ := List.getElem?_of_mem inLeft
  obtain ⟨whole, inLevel, part⟩ := exists_getElem?_of_forall₂ parts found
  exact ⟨whole, List.mem_of_getElem? inLevel, polygon, part.mem inRoom, same⟩

/-! ## Compiling -/

/-- The rooms of a compile before they are finished. -/
def runRooms (session : Session) (program : Program) : Level Float :=
  ((Construction.start (session.report program.diagnostics)).performAll program.statements).level

/-- Stitching only removes polygons. Two compiles of one script, with settings that differ
in nothing but stitching and with sources of textures that answer alike, report the same,
and come to as many rooms with the same places, extents, boxes and lights. Without
stitching the rooms are those that were built; with it some of their polygons are left, in
their order, and no texture is in use that was not. -/
theorem stitching_only_removes {config config' : Config}
    (same : config.SameButStitching config')
    {textures textures' : List TextureQuery → TextureSource}
    (alike : ∀ queries, textures queries = textures' queries)
    {source : String} {tokens : List Token} (lexes : tokenize source = .ok tokens) :
    ∃ compiled compiled' : Compiled,
      compile { config, textures } source = .ok compiled
        ∧ compile { config := config', textures := textures' } source = .ok compiled'
        ∧ compiled.session.log = compiled'.session.log
        ∧ List.Forall₂ Room.SamePlace compiled.level compiled'.level
        ∧ (config.stitchRooms = false →
            compiled.level = runRooms { config, textures } (Program.ofTokens tokens)
              ∧ List.Forall₂ (fun stitched room => stitched.polygons.Sublist room.polygons)
                compiled'.level compiled.level
              ∧ compiled'.session.used ⊆ compiled.session.used) := by
  obtain rfl : textures = textures' := funext alike
  let program := Program.ofTokens tokens
  let session : Session := { config, textures, log := program.diagnostics }
  let session' : Session := { config := config', textures, log := program.diagnostics }
  let built := (Construction.start session).performAll program.statements
  let built' := (Construction.start session').performAll program.statements
  have sameBuilt : built' = built.stitching config'.stitchRooms config'.tolerance := by
    have sameStart : Construction.start session' =
        (Construction.start session).stitching config'.stitchRooms config'.tolerance := by
      simp only [session', Construction.start, Construction.stitching, Session.stitching]
      rw [same.eq_stitching]
      rfl
    simp only [built', built, sameStart]
    exact Construction.performAll_stitching _ _ _ _
  have sameLevel : built'.level = built.level := by rw [sameBuilt]; rfl
  have first := forall₂_isLeftOf_finishRooms config built.level
  have second := forall₂_isLeftOf_finishRooms config' built'.level
  refine ⟨compileStatements session program.statements,
    compileStatements session' program.statements, compile_of_lexes lexes _,
    compile_of_lexes lexes _, ?log, ?places, ?unstitched⟩
  case log =>
    have sameLog : built'.session.log = built.session.log := by rw [sameBuilt]; rfl
    rw [compileStatements_eq, compileStatements_eq]
    simp only [Session.log_markPolygons]
    exact sameLog.symm
  case places =>
    change List.Forall₂ Room.SamePlace (finishRooms config built.level)
      (finishRooms config' built'.level)
    rw [sameLevel] at second ⊢
    refine List.forall₂_iff_get.mpr ⟨first.length_eq.trans second.length_eq.symm, ?_⟩
    intro i inFirst inSecond
    have inBuilt : i < built.level.length := first.length_eq ▸ inFirst
    exact ((List.forall₂_iff_get.mp first).2 i inFirst inBuilt).samePlace.of_same
      ((List.forall₂_iff_get.mp second).2 i inSecond inBuilt).samePlace
  case unstitched =>
    intro unstitched
    have asBuilt : finishRooms config built.level = built.level := by
      rw [finishRooms, unstitched]
      rfl
    refine ⟨asBuilt, ?_, ?_⟩
    · change List.Forall₂ _ (finishRooms config' built'.level) (finishRooms config built.level)
      rw [asBuilt, ← sameLevel]
      exact second.imp fun _ _ part => part.sublist
    · intro texture
      rw [compileStatements_eq, compileStatements_eq]
      simp only [Session.mem_used_markPolygons, Level.mem_textures_iff]
      have sameUsed : built'.session.used = built.session.used := by rw [sameBuilt]; rfl
      rintro (⟨carried, shown⟩ | before)
      · refine .inl ⟨?_, shown⟩
        have carriedAtFirst := carried.of_isLeftOf second
        rw [sameLevel, ← asBuilt] at carriedAtFirst
        exact carriedAtFirst
      · exact .inr (sameUsed ▸ before)

/-- Two rooms side by side lose the wall between them, unless they are not stitched; then the
texture of that wall is in use. -/
theorem stitching_only_removes_side_by_side :
    let config : Config := { stitchRooms := false }
    let config' : Config := { tolerance := 1 }
    let textures : List TextureQuery → TextureSource := fun _ =>
      ⟨fun name => some (.builtin name), fun _ _ => none⟩
    let source := "define a \x7b\nwall-east arx door\n\x7d\n"
      ++ "room add 100 100 100 a\nwith light\nroom add 100 100 100 b x++"
    config.SameButStitching config' ∧ (tokenize source).isOk = true
      ∧ ∃ compiled compiled' : Compiled,
        compile { config, textures } source = .ok compiled
          ∧ compile { config := config', textures } source = .ok compiled'
          ∧ compiled.level.map (fun room => room.polygons.length) = [6, 6]
          ∧ compiled'.level.map (fun room => room.polygons.length) = [5, 5]
          ∧ compiled.session.used = [.builtin "door"] ∧ compiled'.session.used = []
          ∧ compiled.session.log = compiled'.session.log
          ∧ List.Forall₂ Room.SamePlace compiled.level compiled'.level := by
  intro config config' textures source
  have same : config.SameButStitching config' := ⟨rfl, rfl, rfl, rfl, rfl, rfl⟩
  let summary (compiled : Compiled) : List Nat × List Texture :=
    (compiled.level.map fun room => room.polygons.length, compiled.session.used)
  have plain : (compile { config, textures } source).map summary
      = .ok ([6, 6], [.builtin "door"]) := by decide +kernel
  have stitched : (compile { config := config', textures } source).map summary
      = .ok ([5, 5], []) := by decide +kernel
  obtain ⟨tokens, lexes⟩ : ∃ tokens, tokenize source = .ok tokens := by
    cases lexed : tokenize source with
    | error error =>
      rw [compile, parse, lexed] at plain
      cases plain
    | ok tokens => exact ⟨tokens, rfl⟩
  have isOk : (tokenize source).isOk = true := by rw [lexes]; rfl
  have alike : ∀ queries, textures queries = textures queries := fun _ => rfl
  obtain ⟨compiled, compiled', found, found', log, places, _⟩ :=
    stitching_only_removes same alike lexes
  rw [found] at plain
  rw [found'] at stitched
  obtain ⟨polygons, used⟩ := Prod.mk.inj (Except.ok.inj plain)
  obtain ⟨polygons', used'⟩ := Prod.mk.inj (Except.ok.inj stitched)
  exact ⟨same, isOk, compiled, compiled', found, found', polygons, polygons', used, used', log,
    places⟩

end RoomLayout
