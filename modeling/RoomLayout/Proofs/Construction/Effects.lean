import RoomLayout.Level.Construction

/-!
# What statements change

Carrying out a statement writes to the session, and to one more part of what has
been built. The lemmas of this module say which, once for each action, so that facts
about runs need not look into the actions again. What a statement reports is left
open where it decides nothing.
-/

namespace RoomLayout

namespace Level

variable {α : Type} [Coordinate α] (light : Room α → Light α)

/-- Hang a light in the last room; without a room nothing changes. -/
def withLight (level : Level α) : Level α := (level.addLight? light).getD level

theorem addLight?_append_singleton (level : Level α) (room : Room α) :
    addLight? light (level ++ [room]) = some (level ++ [room.addLight (light room)]) := by
  induction level with
  | nil => rfl
  | cons first rest inductionHypothesis =>
    cases rest with
    | nil => rfl
    | cons second rest =>
      rw [List.cons_append, List.cons_append, addLight?, ← List.cons_append, inductionHypothesis]
      rfl

@[simp] theorem withLight_nil : withLight light ([] : Level α) = [] := rfl

@[simp] theorem withLight_append_singleton (level : Level α) (room : Room α) :
    withLight light (level ++ [room]) = level ++ [room.addLight (light room)] := by
  rw [withLight, addLight?_append_singleton, Option.getD_some]

/-- A light is hung in the last room or, for want of one, nowhere. -/
theorem withLight_cases (level : Level α) :
    level = [] ∧ level.withLight light = [] ∨ ∃ earlier room,
      level = earlier ++ [room] ∧ level.withLight light = earlier ++ [room.addLight (light room)] := by
  rcases List.eq_nil_or_concat level with rfl | ⟨earlier, room, rfl⟩
  · exact .inl ⟨rfl, rfl⟩
  · rw [List.concat_eq_append]
    exact .inr ⟨earlier, room, rfl, withLight_append_singleton light earlier room⟩

/-- A light adds no room. -/
@[simp] theorem length_withLight (level : Level α) :
    (level.withLight light).length = level.length := by
  rcases withLight_cases light level with ⟨rfl, same⟩ | ⟨earlier, room, rfl, lit⟩
  · rw [same]
  · rw [lit, List.length_append, List.length_append, List.length_singleton, List.length_singleton]

/-- The rooms after the first ones get a light as if they stood alone. -/
theorem drop_withLight (level : Level α) (count : Nat) (inRange : count ≤ level.length) :
    (level.withLight light).drop count = withLight light (level.drop count) := by
  rcases withLight_cases light level with ⟨rfl, same⟩ | ⟨earlier, room, rfl, lit⟩
  · rw [same, List.drop_nil, withLight_nil]
  · rw [lit]
    rcases Nat.lt_or_ge earlier.length count with all | some
    · have sameLength : count = (earlier ++ [room]).length := by simp at inRange ⊢; omega
      rw [sameLength, List.drop_length, withLight_nil, List.drop_eq_nil_of_le (by simp)]
    · rw [List.drop_append_of_le_length some, List.drop_append_of_le_length some,
        withLight_append_singleton]

end Level

theorem Session.report_nil (session : Session) : session.report [] = session := by
  rw [report, List.append_nil]

/-- The surfaces of a room whose definition has the given name. -/
def Definitions.named (definitions : Definitions) (name : String) : Surfaces :=
  (definitions.get? name).getD definitions.fallback

namespace Construction

variable (state : Construction) (line : Nat)

/-- The same construction after some diagnostics. -/
def reporting (diagnostics : List Diagnostic) : Construction :=
  { state with session := state.session.report diagnostics }

theorem reporting_nil : state.reporting [] = state := by
  rw [reporting, Session.report_nil]

variable {state}

/-- Variables and settings decide the extent that a size stands for. -/
theorem resolveSize_congr {other : Construction} (values : state.values = other.values)
    (config : state.session.config = other.session.config) (size : Vec3 Number) :
    state.resolveSize size = other.resolveSize size := by
  rw [resolveSize, resolveSize, values, config]

/-- A room whose size stands for no extent is rejected, with one error. -/
theorem addRoom_of_error {size : Vec3 Number} {error : ConstructionError}
    (rejected : state.resolveSize size = .error error) (definition : String)
    (alignments : List Alignment) :
    state.addRoom line size definition alignments = state.fail line error := by
  rw [addRoom, rejected]

/-- A room whose size stands for an extent is placed. -/
theorem addRoom_of_ok {size : Vec3 Number} {extent : Vec3 Float}
    (accepted : state.resolveSize size = .ok extent) (definition : String)
    (alignments : List Alignment) :
    ∃ diagnostics, state.addRoom line size definition alignments =
      (state.reporting diagnostics).placeRoom extent (state.definitions.named definition)
        alignments := by
  rw [addRoom, accepted]
  simp only [surfacesNamed, Definitions.named]
  cases state.definitions.get? definition with
  | some surfaces => exact ⟨[], by rw [reporting_nil]; rfl⟩
  | none => exact ⟨_, rfl⟩

/-- A light that stands for no modifier is rejected, with one error. -/
theorem addLight_of_error {argument : LightArgument} {error : ConstructionError}
    (rejected : resolveLight state.values argument = .error error) :
    state.addLight line argument = state.fail line error := by
  rw [addLight, rejected]

variable (state) in
theorem hangLight_eq (modifier : LightModifier) :
    ∃ diagnostics, state.hangLight line modifier =
      { state.reporting diagnostics with
        level := state.level.withLight
          (lightIn state.session.config state.cursor.state modifier) } := by
  rw [hangLight, Level.withLight]
  cases state.level.addLight? (lightIn state.session.config state.cursor.state modifier) with
  | some level => exact ⟨[], by rw [reporting_nil]; rfl⟩
  | none => exact ⟨_, rfl⟩

/-- A light that stands for a modifier is hung in the last room, if there is one. -/
theorem addLight_of_ok {argument : LightArgument} {modifier : LightModifier}
    {fallback : Option ConstructionWarning}
    (resolved : resolveLight state.values argument = .ok (modifier, fallback)) :
    ∃ diagnostics, state.addLight line argument =
      { state.reporting diagnostics with
        level := state.level.withLight
          (lightIn state.session.config state.cursor.state modifier) } := by
  rw [addLight, resolved]
  cases fallback with
  | none => exact hangLight_eq state line modifier
  | some warning =>
    obtain ⟨diagnostics, hung⟩ := hangLight_eq (state.warn line warning) line modifier
    refine ⟨.warning line warning.message :: diagnostics, hung.trans ?_⟩
    simp [reporting, warn, Session.report]

/-- A snapshot that was saved is returned to. -/
theorem restore_of_saved {name : String} {snapshot : CursorState Float}
    (saved : state.cursor.saved.get? name = some snapshot) :
    state.restore line name = { state with cursor := { state.cursor with state := snapshot } } := by
  rw [restore, Cursor.restore?, saved]
  rfl

/-- A snapshot that was never saved is ignored, with one warning. -/
theorem restore_of_not_saved {name : String} (unsaved : state.cursor.saved.get? name = none) :
    state.restore line name = state.warn line (.snapshotNeverSaved name) := by
  rw [restore, Cursor.restore?, unsaved]
  rfl

/-- What a statement makes of the rooms: an addition that is accepted appends one, and a light
whose argument stands for a modifier is hung in the last one. -/
theorem level_perform_eq (state : Construction) (statement : Statement) :
    (state.perform statement).level =
      match statement.action with
      | .addRoom size definition alignments =>
        match state.resolveSize size with
        | .ok extent =>
          state.level ++ [Room.build state.session.config.tileSize
            ((state.cursor.setNewSize extent).moveBy alignments).state.position extent
            (state.definitions.named definition)]
        | .error _ => state.level
      | .addLight argument =>
        match resolveLight state.values argument with
        | .ok (modifier, _) =>
          state.level.withLight (lightIn state.session.config state.cursor.state modifier)
        | .error _ => state.level
      | _ => state.level := by
  obtain ⟨line, action⟩ := statement
  cases action with
  | addRoom size definition alignments =>
    simp only [perform]
    cases resolved : state.resolveSize size with
    | error error =>
      rw [addRoom_of_error line resolved]
      rfl
    | ok extent =>
      obtain ⟨diagnostics, placed⟩ := addRoom_of_ok line resolved definition alignments
      rw [placed]
      rfl
  | addLight argument =>
    simp only [perform]
    cases resolved : resolveLight state.values argument with
    | error error =>
      rw [addLight_of_error line resolved]
      rfl
    | ok light =>
      obtain ⟨diagnostics, hung⟩ := addLight_of_ok line resolved
      rw [hung]
  | restoreCursor name =>
    simp only [perform]
    cases saved : state.cursor.saved.get? name with
    | none => rw [restore_of_not_saved line saved, warn]
    | some snapshot => rw [restore_of_saved line saved]
  | define _ _ | saveCursor _ | assign _ _ => rfl

/-- Statements carried out after others. -/
theorem performAll_append (state : Construction) (earlier later : List Statement) :
    state.performAll (earlier ++ later) = (state.performAll earlier).performAll later :=
  List.foldl_append

end Construction

end RoomLayout
