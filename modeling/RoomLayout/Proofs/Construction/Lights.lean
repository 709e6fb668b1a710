import RoomLayout.Proofs.Construction.CursorPlace
import RoomLayout.Proofs.Construction.Inlining
import RoomLayout.Proofs.Construction.Tracing
import RoomLayout.Proofs.Stitching.Settings

/-!
# Where lights hang

A light hangs in the room that was placed last, but over the cursor. The two part when the
cursor returns to a snapshot, so the place of a light and its reach may come from different
rooms. The cursor stands at some room as soon as there is one, unless it went back to a
snapshot from before all rooms (`returnsToBeginning_of_adrift`).
-/

namespace RoomLayout

/-- The fraction of the full intensity that the argument of a light stands for, by what its
variable means. -/
inductive LightArgument.HasFactor (dimFactor : Float) (meaning : String → Option Value) :
    LightArgument → Float → Prop where
  | full : HasFactor dimFactor meaning .full 1
  | dim : HasFactor dimFactor meaning .dim dimFactor
  | percentage (percentage : Int) :
      HasFactor dimFactor meaning (.percentage percentage) (Float.ofInt (max percentage 0) / 100)
  | heldPercentage {name : String} {percentage : Int}
      (holds : meaning name = some (.percentage percentage)) :
      HasFactor dimFactor meaning (.named name) (Float.ofInt (max percentage 0) / 100)
  | heldDim {name : String} (holds : meaning name = some (.text "dim")) :
      HasFactor dimFactor meaning (.named name) dimFactor
  | heldOther {name : String} {value : Value} (holds : meaning name = some value)
      (noPercentage : ∀ percentage, value ≠ .percentage percentage) (notDim : value ≠ .text "dim") :
      HasFactor dimFactor meaning (.named name) 1

namespace Construction

/-- What a light is given is what its argument stands for. -/
theorem hasFactor_of_resolveLight {values : NameTable Value} {argument : LightArgument}
    {modifier : LightModifier} {fallback : Option ConstructionWarning}
    (resolved : resolveLight values argument = .ok (modifier, fallback)) (dimFactor : Float) :
    argument.HasFactor dimFactor values.get? (modifier.factor dimFactor) := by
  cases argument with
  | full =>
    obtain ⟨rfl, -⟩ := Prod.mk.inj (Except.ok.inj resolved)
    exact .full
  | dim =>
    obtain ⟨rfl, -⟩ := Prod.mk.inj (Except.ok.inj resolved)
    exact .dim
  | percentage value =>
    obtain ⟨rfl, -⟩ := Prod.mk.inj (Except.ok.inj resolved)
    exact .percentage value
  | named name =>
    rw [resolveLight] at resolved
    split at resolved
    · next held =>
      obtain ⟨rfl, -⟩ := Prod.mk.inj (Except.ok.inj resolved)
      exact .heldPercentage held
    · next held =>
      obtain ⟨rfl, -⟩ := Prod.mk.inj (Except.ok.inj resolved)
      exact .heldDim held
    · next value noPercentage notDim held =>
      obtain ⟨rfl, -⟩ := Prod.mk.inj (Except.ok.inj resolved)
      exact .heldOther held noPercentage notDim
    · cases resolved

/-- Where a room stands, a room keeps standing. -/
theorem keepsRoomAt (origin size : Vec3 Float) :
    Invariant (fun state => state.level.HasRoomAt origin size) where
  reporting standing _ := standing
  placeRoom standing _ _ _ := standing.append _
  light standing _ := standing.withLight _
  restore standing _ := standing
  define standing _ _ := standing
  saveCursor standing _ := standing
  assign standing _ _ := standing

/-- The cursor stands at no room although there is one. -/
def Adrift (state : Construction) : Prop :=
  state.level ≠ [] ∧ ¬ state.level.HasRoomAt state.cursor.state.position state.cursor.state.oldSize

theorem Adrift.congr {state other : Construction} (adrift : other.Adrift)
    (level : other.level = state.level) (cursor : other.cursor.state = state.cursor.state) :
    state.Adrift := by
  rwa [Adrift, level, cursor] at adrift

/-- Only a return to a snapshot that stands at no room sets the cursor adrift. -/
theorem exists_restore_of_adrift {state : Construction} {statement : Statement}
    (before : ¬ state.Adrift) (after : (state.perform statement).Adrift) :
    ∃ name snapshot, statement.action = .restoreCursor name
      ∧ state.cursor.saved.get? name = some snapshot
      ∧ ¬ state.level.HasRoomAt snapshot.position snapshot.oldSize := by
  obtain ⟨line, action⟩ := statement
  cases action with
  | define name rules => exact absurd (after.congr rfl rfl) before
  | saveCursor name => exact absurd (after.congr rfl rfl) before
  | assign name value => exact absurd (after.congr rfl rfl) before
  | addRoom size definition alignments =>
    simp only [perform] at after
    cases resolved : state.resolveSize size with
    | error error =>
      rw [addRoom_of_error line resolved] at after
      exact absurd (after.congr rfl rfl) before
    | ok extent =>
      obtain ⟨diagnostics, placed⟩ := addRoom_of_ok line resolved definition alignments
      rw [placed] at after
      -- The cursor has moved to the new room.
      exact absurd ⟨_, List.mem_append_right _ (List.mem_singleton_self _), rfl, rfl⟩ after.2
  | addLight argument =>
    simp only [perform] at after
    cases resolved : resolveLight state.values argument with
    | error error =>
      rw [addLight_of_error line resolved] at after
      exact absurd (after.congr rfl rfl) before
    | ok light =>
      obtain ⟨diagnostics, hung⟩ := addLight_of_ok line resolved
      rw [hung] at after
      refine absurd ⟨fun empty => after.1 ?_, fun standing => after.2 (standing.withLight _)⟩ before
      rw [empty, Level.withLight_nil]
  | restoreCursor name =>
    simp only [perform] at after
    cases saved : state.cursor.saved.get? name with
    | none =>
      rw [restore_of_not_saved line saved] at after
      exact absurd (after.congr rfl rfl) before
    | some snapshot =>
      rw [restore_of_saved line saved] at after
      exact ⟨name, snapshot, rfl, saved, after.2⟩

/-- Among the statements is a return to a snapshot that was saved before any room. -/
def ReturnsToBeginning (session : Session) (statements : List Statement) : Prop :=
  ∃ before line name between line' after,
    statements = before ++ ⟨line, .saveCursor name⟩ ::
        (between ++ ⟨line', .restoreCursor name⟩ :: after)
      ∧ ((start session).performAll before).level = []
      ∧ ∀ statement ∈ between, statement.action.savesCursor name = false

variable {session : Session} {statements : List Statement}

/-- A cursor adrift has once gone back to before all rooms: the snapshot that first set it
adrift was saved when it was not, and stands at no room, so there was no room then. -/
theorem returnsToBeginning_of_adrift (adrift : ((start session).performAll statements).Adrift) :
    ReturnsToBeginning session statements := by
  have atFirst : ¬ (start session).Adrift := fun adrift => adrift.1 rfl
  obtain ⟨earlier, ⟨line', action⟩, after, rfl, never, change⟩ :=
    exists_statement_of_change Adrift atFirst adrift
  obtain ⟨name, snapshot, rfl, saved, nowhere⟩ :=
    exists_restore_of_adrift (never earlier (List.prefix_refl _)) change
  obtain ⟨before, line, between, rfl, taken, unsaved⟩ := exists_statement_of_snapshot saved
  refine ⟨before, line, name, between, line', after, by simp, ?_, unsaved⟩
  by_contra someRoom
  have standing : ((start session).performAll before).level.HasRoomAt
      snapshot.position snapshot.oldSize := by
    by_contra notStanding
    rw [← taken] at notStanding
    exact never before (List.prefix_append _ _) ⟨someRoom, notStanding⟩
  refine nowhere ?_
  rw [performAll_append]
  exact (keepsRoomAt _ _).performAll standing _

/-- The place over which a light hangs: that of a room up to an index, or the origin if the
cursor has gone back to the beginning. -/
inductive LightPlace (session : Session) (earlier : List Statement) (level : Level Float)
    (index : Nat) : Vec3 Float → Vec3 Float → Prop where
  | room {number : Nat} {room : Room Float} (upTo : number ≤ index)
      (found : level[number]? = some room) :
      LightPlace session earlier level index room.origin room.size
  | beginning (returns : ReturnsToBeginning session earlier) :
      LightPlace session earlier level index Vec3.zero Vec3.zero

/-- A room that a run has placed is at the same position of whatever it is finished to, with
the same place. -/
theorem exists_finished_of_earlier (config : Config) (later : List Statement) {number : Nat}
    {state : Construction} {room : Room Float} (found : state.level[number]? = some room) :
    ∃ same, (finishRooms config (state.performAll later).level)[number]? = some same
      ∧ same.origin = room.origin ∧ same.size = room.size := by
  obtain ⟨built, inBuilt, unlit⟩ :=
    Level.getElem?_of_unlit_isPrefix (unlit_isPrefix_performAll state later) found
  have places : List.Forall₂ (flip Room.SamePlace) (state.performAll later).level
      (finishRooms config (state.performAll later).level) :=
    (forall₂_samePlace_finishRooms config _).flip
  obtain ⟨same, inFinished, place⟩ := exists_getElem?_of_forall₂ places inBuilt
  have origin : built.origin = room.origin := congrArg (·.origin) unlit
  have size : built.size = room.size := congrArg (·.size) unlit
  exact ⟨same, inFinished, place.origin.trans origin, place.size.trans size⟩

/-- Once there is a room, the cursor stands at one up to the last, or has gone back to the
beginning. -/
theorem lightPlace_of_cursor (config : Config) {earlier : List Statement} {index : Nat}
    (later : List Statement)
    (last : ((start session).performAll earlier).level.length = index + 1) :
    LightPlace session earlier
      (finishRooms config (((start session).performAll earlier).performAll later).level) index
      ((start session).performAll earlier).cursor.state.position
      ((start session).performAll earlier).cursor.state.oldSize := by
  by_cases standing : ((start session).performAll earlier).level.HasRoomAt
    ((start session).performAll earlier).cursor.state.position
    ((start session).performAll earlier).cursor.state.oldSize
  · obtain ⟨room, member, position, size⟩ := standing
    obtain ⟨number, inRange, rfl⟩ := List.getElem_of_mem member
    obtain ⟨same, inFinished, origin', size'⟩ := exists_finished_of_earlier config later
      (List.getElem?_eq_getElem inRange)
    rw [← position, ← size, ← origin', ← size']
    exact .room (by omega) inFinished
  · have atRest := cursorsAtRest_invariant.performAll (cursorsAtRest_start session) earlier
    rcases atRest.live.place with ⟨position, size⟩ | place
    · rw [position, size]
      have someRoom := List.ne_nil_of_length_eq_add_one last
      exact .beginning (returnsToBeginning_of_adrift ⟨someRoom, standing⟩)
    · exact absurd place standing

/-- A light is what a statement makes of it after the earlier ones. It hangs in the room
placed last then, over the place of the cursor at half the height of the room there; its
reach is measured by the room it hangs in, and its intensity by the argument of the
statement. -/
structure HungAfter (session : Session) (earlier : List Statement) (argument : LightArgument)
    (level : Level Float) (index : Nat) (room : Room Float) (light : Light Float) : Prop where
  inLast : ((start session).performAll earlier).level.length = index + 1
  position : ∃ place extent, LightPlace session earlier level index place extent
    ∧ light.position = ⟨place.x, place.y - extent.y / 2, place.z⟩
  radius : light.radius
    = session.config.lightRadiusScale * Coordinate.greater room.size.x room.size.z
  intensity : ∃ factor,
    argument.HasFactor session.config.dimFactor (lastAssigned earlier) factor
      ∧ light.intensity = session.config.lightIntensity * factor

/-- The light that a statement hangs is what it should be, whatever is done to the rooms
afterwards. -/
theorem hungAfter_lightIn {earlier : List Statement} {argument : LightArgument}
    {modifier : LightModifier} {fallback : Option ConstructionWarning}
    (resolved : resolveLight ((start session).performAll earlier).values argument
      = .ok (modifier, fallback))
    {rooms : Level Float} {last : Room Float}
    (level : ((start session).performAll earlier).level = rooms ++ [last])
    {later : List Statement} {room : Room Float}
    (found : (finishRooms session.config
      (((start session).performAll earlier).performAll later).level)[rooms.length]? = some room) :
    HungAfter session earlier argument
      (finishRooms session.config (((start session).performAll earlier).performAll later).level)
      rooms.length room
      (lightIn ((start session).performAll earlier).session.config
        ((start session).performAll earlier).cursor.state modifier last) := by
  have config : ((start session).performAll earlier).session.config = session.config :=
    (keepsConfig session.config).performAll rfl earlier
  have count : ((start session).performAll earlier).level.length = rooms.length + 1 := by
    rw [level, List.length_append]
    rfl
  refine ⟨count, ⟨_, _, lightPlace_of_cursor session.config later count, rfl⟩, ?radius, ?intensity⟩
  case radius =>
    have hung : ((start session).performAll earlier).level[rooms.length]? = some last := by
      rw [level, List.getElem?_concat_length]
    obtain ⟨same, inFinished, -, size⟩ := exists_finished_of_earlier session.config later hung
    obtain rfl := Option.some.inj (found.symm.trans inFinished)
    rw [lightIn, config, size]
  case intensity =>
    have meaning : ((start session).performAll earlier).values.get? = lastAssigned earlier :=
      funext (get?_values_performAll session earlier)
    refine ⟨_, meaning ▸ hasFactor_of_resolveLight resolved session.config.dimFactor, ?_⟩
    rw [lightIn, config]

/-- Every light hangs in the middle of a placed room. Each light of a compiled room was hung
there by a statement, over the floor of some room up to this one and at half its height, or at
the origin if the cursor had gone back to a snapshot from before all rooms; its radius is
measured by the room it hangs in, and its intensity is the full one, the dim one or a
percentage that is given or held by a variable. Stitching changes none of this, for the
compiled rooms are the built ones but for polygons. -/
theorem lights_hang_in_placed_rooms (session : Session) (statements : List Statement) :
    let level := (compileStatements session statements).level
    List.Forall₂ Room.SamePlace level ((start session).performAll statements).level
      ∧ ∀ index room, level[index]? = some room → ∀ light ∈ room.lights,
          ∃ earlier argument, (Action.addLight argument).StandsAfter earlier statements
            ∧ HungAfter session earlier argument level index room light := by
  intro level
  have places : List.Forall₂ Room.SamePlace level ((start session).performAll statements).level :=
    forall₂_samePlace_finishRooms session.config _
  refine ⟨places, fun index room found light member => ?_⟩
  obtain ⟨built, inBuilt, place⟩ := exists_getElem?_of_forall₂ places found
  have lit : HasLight light index ((start session).performAll statements) :=
    ⟨built, inBuilt, place.lights ▸ member⟩
  obtain ⟨earlier, argument, modifier, fallback, rooms, last, ⟨line, later, rfl⟩, resolved, before,
    rfl, rfl⟩ := exists_statement_of_light lit
  refine ⟨earlier, argument, ⟨line, later, rfl⟩, ?_⟩
  have run : level = finishRooms session.config (((start session).performAll earlier).performAll
      (⟨line, .addLight argument⟩ :: later)).level :=
    congrArg (fun state => finishRooms session.config (Construction.level state))
      (performAll_append _ earlier _)
  rw [run] at found ⊢
  exact hungAfter_lightIn resolved before found

/-- Both lights hang in the second room: one over the first room, to which the cursor has
returned, and one at the origin, where it stood before all rooms. -/
theorem lights_hang_in_placed_rooms_after_returns :
    let session : Session := { config := {}, textures := fun _ => ⟨fun _ => none, fun _ _ => none⟩ }
    let statements : List Statement :=
      [⟨1, .saveCursor "o"⟩, ⟨2, .addRoom ⟨.literal 100, .literal 50, .literal 80⟩ "default" []⟩,
        ⟨3, .saveCursor "hub"⟩,
        ⟨4, .addRoom ⟨.literal 40, .literal 20, .literal 60⟩ "default" [⟨.x, .plusPlus⟩]⟩,
        ⟨5, .restoreCursor "hub"⟩, ⟨6, .addLight .full⟩, ⟨7, .restoreCursor "o"⟩,
        ⟨8, .addLight (.percentage 50)⟩]
    let level := (compileStatements session statements).level
    let radius := session.config.lightRadiusScale * 60
    let intensity := session.config.lightIntensity
    level[1]?.map (·.lights)
        = some [⟨⟨0, -25, 0⟩, radius, intensity⟩, ⟨⟨0, 0, 0⟩, radius, intensity * 0.5⟩]
      ∧ ∃ room, level[1]? = some room ∧ ∀ light ∈ room.lights,
        ∃ earlier argument, (Action.addLight argument).StandsAfter earlier statements
          ∧ HungAfter session earlier argument level 1 room light := by
  intro session statements level radius intensity
  have lights : level[1]?.map (·.lights)
      = some [⟨⟨0, -25, 0⟩, radius, intensity⟩, ⟨⟨0, 0, 0⟩, radius, intensity * 0.5⟩] := by
    decide +kernel
  obtain ⟨room, found, -⟩ := Option.map_eq_some_iff.mp lights
  exact ⟨lights, room, found, (lights_hang_in_placed_rooms session statements).2 1 room found⟩

end Construction

end RoomLayout
