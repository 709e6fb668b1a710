import RoomLayout.Proofs.Construction.Invariant

/-!
# Which statements take effect

A statement that cannot be carried out is dropped and reported. A room without an extent and
a light whose variable has no value are reported as errors. A light before all rooms and a
return to a snapshot that was never saved are reported as warnings only. So a run without
errors may have dropped statements of these two kinds, and no others
(`Construction.run_without_errors`).

What decides is whether a statement finds what it refers to. Along a run without errors
the text of the program tells that (`Action.preparedBy`).
-/

namespace RoomLayout

namespace Level

variable {α : Type} [Coordinate α]

theorem lightCount_append (earlier later : Level α) :
    lightCount (earlier ++ later) = earlier.lightCount + later.lightCount := by
  induction earlier with
  | nil => exact (Nat.zero_add _).symm
  | cons room rest inductionHypothesis =>
    calc
      room.lights.length + lightCount (rest ++ later)
      _ = room.lights.length + (lightCount rest + lightCount later) := by rw [inductionHypothesis]
      _ = room.lights.length + lightCount rest + lightCount later := (Nat.add_assoc _ _ _).symm

/-- A hung light is one more, wherever there is a room. -/
theorem lightCount_withLight (light : Room α → Light α) (level : Level α) :
    (level.withLight light).lightCount = level.lightCount + if level = [] then 0 else 1 := by
  rcases withLight_cases light level with ⟨rfl, same⟩ | ⟨earlier, room, rfl, lit⟩
  · rw [same, if_pos rfl, Nat.add_zero]
  · rw [lit, if_neg (by simp), lightCount_append, lightCount_append]
    simp only [lightCount, List.foldr_cons, List.foldr_nil, Room.addLight, List.length_append,
      List.length_singleton]
    omega

end Level

theorem Diagnostic.hasErrors_append (earlier later : List Diagnostic) :
    hasErrors (earlier ++ later) = (hasErrors earlier || hasErrors later) :=
  List.any_append

namespace Action

/-- Whether an action adds a room. -/
def addsRoom : Action → Bool
  | .addRoom _ _ _ => true
  | _ => false

/-- Whether an action adds a light. -/
def addsLight : Action → Bool
  | .addLight _ => true
  | _ => false

theorem addsLight_of_addsRoom {action : Action} (addsRoom : action.addsRoom = true) :
    action.addsLight = false := by
  cases action with
  | addLight argument => exact nomatch addsRoom
  | _ => rfl

/-- Whether an action saves the cursor under a name. -/
def savesCursor (name : String) : Action → Bool
  | .saveCursor saved => name == saved
  | _ => false

/-- Whether the statements before an action provide what it refers to: a light needs a room,
and a return to a snapshot needs the snapshot. -/
def preparedBy (earlier : List Statement) : Action → Bool
  | .addLight _ => earlier.any (·.action.addsRoom)
  | .restoreCursor name => earlier.any (·.action.savesCursor name)
  | _ => true

end Action

/-- The number of lights that a program adds before all rooms. -/
def lightsBeforeRooms (statements : List Statement) : Nat :=
  (statements.takeWhile fun statement => !statement.action.addsRoom).countP (·.action.addsLight)

theorem lightsBeforeRooms_cons (statement : Statement) (rest : List Statement) :
    lightsBeforeRooms (statement :: rest) =
      if statement.action.addsRoom then 0
      else lightsBeforeRooms rest + if statement.action.addsLight then 1 else 0 := by
  rw [lightsBeforeRooms, List.takeWhile_cons]
  cases statement.action.addsRoom with
  | true => rfl
  | false => exact List.countP_cons

namespace Construction

/-- Whether a construction has what an action refers to. -/
def provides (state : Construction) : Action → Bool
  | .addLight _ => !state.level.isEmpty
  | .restoreCursor name => state.cursor.saved.contains name
  | _ => true

/-- What it is for a statement to take effect. A name gets its meaning, a room is placed
with the extent and the surfaces that it asks for, a light is hung in the last room, and the
cursor is where the snapshot was taken. -/
def TakesEffect (state : Construction) (statement : Statement) : Prop :=
  match statement.action with
  | .define name rules =>
    (state.perform statement).definitions.get? name = some (surfacesOf state.session rules).1
  | .addRoom size definition alignments =>
    ∃ extent diagnostics, state.resolveSize size = .ok extent
      ∧ state.perform statement = (state.reporting diagnostics).placeRoom extent
        (state.definitions.named definition) alignments
  | .addLight argument =>
    ∃ modifier fallback earlier room, resolveLight state.values argument = .ok (modifier, fallback)
      ∧ state.level = earlier ++ [room]
      ∧ (state.perform statement).level
        = earlier ++ [room.addLight (lightIn state.session.config state.cursor.state modifier room)]
  | .saveCursor name =>
    (state.perform statement).cursor.saved.get? name = some state.cursor.state
  | .restoreCursor name =>
    ∃ snapshot, state.cursor.saved.get? name = some snapshot
      ∧ (state.perform statement).cursor.state = snapshot
  | .assign name value => (state.perform statement).values.get? name = some value

/-- Whether an error has been reported. -/
def hasErrors (state : Construction) : Bool := Diagnostic.hasErrors state.session.log

section Errors

variable {state : Construction}

theorem hasErrors_fail (state : Construction) (line : Nat) (error : ConstructionError) :
    (state.fail line error).hasErrors = true := by
  rw [hasErrors, fail, Session.report, Diagnostic.hasErrors_append]
  exact Bool.or_true _

/-- Statements take nothing back that was reported. -/
theorem keepsLog (log : List Diagnostic) : Invariant (fun state => log <+: state.session.log) := by
  have keeps : SessionInvariant fun session => log <+: session.log :=
    ⟨fun kept diagnostics => kept.trans (List.prefix_append _ diagnostics), fun kept _ => kept⟩
  exact keeps.invariant

/-- A run without errors had none before its last statements. -/
theorem hasErrors_of_performAll (statements : List Statement)
    (silent : (state.performAll statements).hasErrors = false) : state.hasErrors = false := by
  obtain ⟨later, grown⟩ := (keepsLog state.session.log).performAll (List.prefix_refl _) statements
  rw [hasErrors, ← grown, Diagnostic.hasErrors_append, Bool.or_eq_false_iff] at silent
  exact silent.1

/-- A room that raises no error is placed. -/
theorem addRoom_of_silent {line : Nat} {size : Vec3 Number} {definition : String}
    {alignments : List Alignment}
    (silent : (state.addRoom line size definition alignments).hasErrors = false) :
    ∃ extent diagnostics, state.resolveSize size = .ok extent
      ∧ state.addRoom line size definition alignments
        = (state.reporting diagnostics).placeRoom extent (state.definitions.named definition)
          alignments := by
  cases resolved : state.resolveSize size with
  | error error =>
    rw [addRoom_of_error line resolved, hasErrors_fail] at silent
    exact nomatch silent
  | ok extent =>
    obtain ⟨diagnostics, placed⟩ := addRoom_of_ok line resolved definition alignments
    exact ⟨extent, diagnostics, rfl, placed⟩

/-- A light that raises no error is hung in the last room, if there is one. -/
theorem addLight_of_silent {line : Nat} {argument : LightArgument}
    (silent : (state.addLight line argument).hasErrors = false) :
    ∃ modifier fallback diagnostics, resolveLight state.values argument = .ok (modifier, fallback)
      ∧ state.addLight line argument = { state.reporting diagnostics with
          level := state.level.withLight
            (lightIn state.session.config state.cursor.state modifier) } := by
  cases resolved : resolveLight state.values argument with
  | error error =>
    rw [addLight_of_error line resolved, hasErrors_fail] at silent
    exact nomatch silent
  | ok light =>
    obtain ⟨diagnostics, hung⟩ := addLight_of_ok line resolved
    exact ⟨light.1, light.2, diagnostics, rfl, hung⟩

end Errors

section Step

variable {state : Construction} {statement : Statement}
  (silent : (state.perform statement).hasErrors = false)

include silent

/-- A statement that raises no error takes effect if what it refers to is there, and only
then. -/
theorem takesEffect_iff_provides :
    state.TakesEffect statement ↔ state.provides statement.action = true := by
  obtain ⟨line, action⟩ := statement
  cases action with
  | define name rules =>
    exact iff_of_true (NameTable.get?_insert_self _ _ _) rfl
  | addRoom size definition alignments => exact iff_of_true (addRoom_of_silent silent) rfl
  | addLight argument =>
    obtain ⟨modifier, fallback, diagnostics, resolved, hung⟩ := addLight_of_silent silent
    simp only [TakesEffect, perform, provides, resolved, hung]
    rcases Level.withLight_cases (lightIn state.session.config state.cursor.state modifier)
      state.level with ⟨empty, -⟩ | ⟨earlier, room, level, lit⟩
    · rw [empty]
      exact iff_of_false (by simp) (by simp)
    · exact iff_of_true ⟨modifier, fallback, earlier, room, rfl, level, lit⟩ (by simp [level])
  | saveCursor name =>
    exact iff_of_true (NameTable.get?_insert_self _ _ _) rfl
  | restoreCursor name =>
    simp only [TakesEffect, perform, provides, NameTable.contains]
    cases saved : state.cursor.saved.get? name with
    | none => simp
    | some snapshot =>
      rw [restore_of_saved line saved]
      exact iff_of_true ⟨snapshot, rfl, rfl⟩ rfl
  | assign name value =>
    exact iff_of_true (NameTable.get?_insert_self _ _ _) rfl

/-- What a statement that raises no error does to the rooms. -/
theorem level_perform :
    match statement.action with
    | .addRoom _ _ _ =>
      ∃ room, room.lights = [] ∧ (state.perform statement).level = state.level ++ [room]
    | .addLight _ => ∃ light, (state.perform statement).level = state.level.withLight light
    | _ => (state.perform statement).level = state.level := by
  rw [level_perform_eq]
  obtain ⟨line, action⟩ := statement
  cases action with
  | addRoom size definition alignments =>
    obtain ⟨extent, diagnostics, accepted, -⟩ := addRoom_of_silent silent
    dsimp only
    rw [accepted]
    exact ⟨_, rfl, rfl⟩
  | addLight argument =>
    obtain ⟨modifier, fallback, diagnostics, resolved, -⟩ := addLight_of_silent silent
    dsimp only
    rw [resolved]
    exact ⟨_, rfl⟩
  | define _ _ | saveCursor _ | restoreCursor _ | assign _ _ => rfl

/-- Statements that add rooms add one room each. -/
theorem length_level_perform :
    (state.perform statement).level.length
      = state.level.length + if statement.action.addsRoom then 1 else 0 := by
  have level := level_perform silent
  cases action : statement.action with
  | addRoom size definition alignments =>
    rw [action] at level
    obtain ⟨room, -, placed⟩ := level
    rw [placed]
    exact List.length_append
  | addLight argument =>
    rw [action] at level
    obtain ⟨light, hung⟩ := level
    rw [hung]
    exact Level.length_withLight light state.level
  | define _ _ | saveCursor _ | restoreCursor _ | assign _ _ =>
    rw [action] at level
    exact congrArg List.length level

/-- Statements that add lights add one light each, once there is a room. -/
theorem lightCount_level_perform :
    (state.perform statement).level.lightCount
      = state.level.lightCount
        + if statement.action.addsLight ∧ state.level ≠ [] then 1 else 0 := by
  have level := level_perform silent
  cases action : statement.action with
  | addRoom size definition alignments =>
    rw [action] at level
    obtain ⟨room, unlit, placed⟩ := level
    rw [placed, Level.lightCount_append]
    simp [Level.lightCount, unlit, Action.addsLight]
  | addLight argument =>
    rw [action] at level
    obtain ⟨light, hung⟩ := level
    rw [hung, Level.lightCount_withLight]
    simp [Action.addsLight, ite_not]
  | define _ _ | saveCursor _ | restoreCursor _ | assign _ _ =>
    rw [action] at level
    exact congrArg Level.lightCount level

end Step

section Run

variable {state : Construction} {statements : List Statement}

/-- A run without errors places a room for each statement that adds one. -/
theorem length_level_performAll (silent : (state.performAll statements).hasErrors = false) :
    (state.performAll statements).level.length
      = state.level.length + statements.countP (·.action.addsRoom) := by
  induction statements generalizing state with
  | nil => rfl
  | cons statement rest inductionHypothesis =>
    have first := length_level_perform (hasErrors_of_performAll rest silent)
    calc
      ((state.perform statement).performAll rest).level.length
      _ = (state.perform statement).level.length + rest.countP (·.action.addsRoom) :=
        inductionHypothesis silent
      _ = state.level.length + (statement :: rest).countP (·.action.addsRoom) := by
        rw [first, List.countP_cons, Nat.add_assoc, Nat.add_comm (List.countP _ rest)]

/-- A run without errors hangs a light for each statement that adds one, but for those that
come before all rooms. -/
theorem lightCount_level_performAll (silent : (state.performAll statements).hasErrors = false) :
    (state.performAll statements).level.lightCount
        + (if state.level = [] then lightsBeforeRooms statements else 0)
      = state.level.lightCount + statements.countP (·.action.addsLight) := by
  induction statements generalizing state with
  | nil => exact congrArg (state.level.lightCount + ·) (ite_self 0)
  | cons statement rest inductionHypothesis =>
    have firstSilent : (state.perform statement).hasErrors = false :=
      hasErrors_of_performAll rest silent
    have later := inductionHypothesis silent
    have lights := lightCount_level_perform firstSilent
    -- Whether there are no rooms is decided by the statements up to the first that adds one.
    have empty : (state.perform statement).level = []
        ↔ state.level = [] ∧ statement.action.addsRoom = false := by
      rw [← List.length_eq_zero_iff, length_level_perform firstSilent, Nat.add_eq_zero_iff,
        List.length_eq_zero_iff]
      simp
    change ((state.perform statement).performAll rest).level.lightCount + _ = _
    rw [lightsBeforeRooms_cons, List.countP_cons]
    simp only [lights, empty] at later
    by_cases noRoom : state.level = []
    · cases addsRoom : statement.action.addsRoom with
      | true =>
        simp only [noRoom, addsRoom, Action.addsLight_of_addsRoom addsRoom] at later ⊢
        simpa using later
      | false =>
        simp only [noRoom, addsRoom, ne_eq, not_true_eq_false, and_false, if_false, and_self,
          if_true, Bool.false_eq_true] at later ⊢
        omega
    · simp only [noRoom, ne_eq, not_false_eq_true, and_true, false_and, if_false] at later ⊢
      omega

theorem keepsSaved (saved : NameTable (CursorState Float)) :
    UnnamedInvariant (fun later => later.cursor.saved = saved) where
  reporting kept _ := kept
  placeRoom kept _ _ _ := kept
  light kept _ := kept
  restore kept _ := kept

/-- Only saving takes snapshots. -/
theorem saved_perform (state : Construction) (statement : Statement) :
    (state.perform statement).cursor.saved =
      match statement.action with
      | .saveCursor name => state.cursor.saved.insert name state.cursor.state
      | _ => state.cursor.saved := by
  obtain ⟨line, action⟩ := statement
  cases action with
  | addRoom _ _ _ | addLight _ | restoreCursor _ =>
    exact (keepsSaved state.cursor.saved).perform rfl rfl
  | define _ _ | saveCursor _ | assign _ _ => rfl

theorem contains_saved_perform (state : Construction) (statement : Statement) (name : String) :
    (state.perform statement).cursor.saved.contains name
      = (state.cursor.saved.contains name || statement.action.savesCursor name) := by
  rw [saved_perform]
  cases statement.action with
  | saveCursor saved =>
    simp only [NameTable.contains, NameTable.get?_insert, Action.savesCursor]
    by_cases same : name = saved
    · simp [same]
    · simp [same]
  | _ => exact (Bool.or_false _).symm

/-- The names of snapshots are those that were saved. -/
theorem contains_saved_performAll (state : Construction) (statements : List Statement)
    (name : String) :
    (state.performAll statements).cursor.saved.contains name
      = (state.cursor.saved.contains name || statements.any (·.action.savesCursor name)) := by
  induction statements generalizing state with
  | nil => exact (Bool.or_false _).symm
  | cons statement rest inductionHypothesis =>
    calc
      ((state.perform statement).performAll rest).cursor.saved.contains name
      _ = ((state.perform statement).cursor.saved.contains name
            || rest.any (·.action.savesCursor name)) := inductionHypothesis _
      _ = (state.cursor.saved.contains name
            || (statement :: rest).any (·.action.savesCursor name)) := by
        rw [contains_saved_perform, List.any_cons, Bool.or_assoc]

/-- Along a run without errors, what has been carried out provides what the text of the
program prepares. -/
theorem provides_performAll {session : Session} {earlier : List Statement}
    (silent : ((start session).performAll earlier).hasErrors = false) (action : Action) :
    ((start session).performAll earlier).provides action = action.preparedBy earlier := by
  cases action with
  | addLight argument =>
    have rooms : ((start session).performAll earlier).level.length
        = earlier.countP (·.action.addsRoom) :=
      (length_level_performAll silent).trans (Nat.zero_add _)
    rw [Bool.eq_iff_iff]
    calc
      ((!((start session).performAll earlier).level.isEmpty) = true)
      _ ↔ 0 < ((start session).performAll earlier).level.length := by
        rw [List.length_pos_iff, Bool.not_eq_true', List.isEmpty_eq_false_iff]
      _ ↔ earlier.any (·.action.addsRoom) = true := by
        rw [rooms, List.countP_pos_iff, List.any_eq_true]
  | restoreCursor name => exact contains_saved_performAll (start session) earlier name
  | define _ _ | addRoom _ _ _ | saveCursor _ | assign _ _ => rfl

end Run

/-- What a run without errors has carried out. It placed a room for every statement that adds
one, and hung a light for every statement that adds one but for those before all rooms. A
statement took effect if the statements before it provide what it refers to, and only then:
a light needs a room before it, and a return to a snapshot needs a save under that name. All
other statements took effect. -/
theorem run_without_errors (session : Session) (statements : List Statement)
    (silent : Diagnostic.hasErrors ((start session).performAll statements).session.log = false) :
    ((start session).performAll statements).level.length = statements.countP (·.action.addsRoom)
      ∧ ((start session).performAll statements).level.lightCount + lightsBeforeRooms statements
        = statements.countP (·.action.addsLight)
      ∧ ∀ earlier statement later, statements = earlier ++ statement :: later →
          (((start session).performAll earlier).TakesEffect statement
            ↔ statement.action.preparedBy earlier = true) := by
  refine ⟨?rooms, ?lights, ?effects⟩
  case rooms => exact (length_level_performAll silent).trans (Nat.zero_add _)
  case lights => exact (lightCount_level_performAll silent).trans (Nat.zero_add _)
  case effects =>
    rintro earlier statement later rfl
    have final : (start session).performAll (earlier ++ statement :: later)
        = (((start session).performAll earlier).perform statement).performAll later :=
      performAll_append _ _ _
    rw [final] at silent
    have after := hasErrors_of_performAll later silent
    have before : ((start session).performAll earlier).hasErrors = false :=
      hasErrors_of_performAll [statement] after
    rw [takesEffect_iff_provides after, provides_performAll before]

/-- Two rooms, the second of an unknown definition, with a light before them that is lost,
and a return to a snapshot that was never saved. The other light is hung and the cursor is
back where the hub was saved. -/
theorem run_without_errors_hub :
    let session : Session :=
      { config := {}, textures := fun _ => ⟨fun _ => none, fun _ _ => none⟩ }
    let cube (line : Nat) (definition : String) : Statement :=
      ⟨line, .addRoom ⟨.literal 100, .literal 100, .literal 100⟩ definition [⟨.x, .plusPlus⟩]⟩
    let earlier : List Statement := [⟨1, .addLight .dim⟩, cube 2 "default", ⟨3, .saveCursor "hub"⟩,
      cube 4 "palace", ⟨5, .addLight .full⟩, ⟨6, .restoreCursor "attic"⟩]
    let statements := earlier ++ [⟨7, .restoreCursor "hub"⟩]
    let final := (start session).performAll statements
    Diagnostic.hasErrors final.session.log = false
      ∧ final.level.length = 2
      ∧ lightsBeforeRooms statements = 1 ∧ final.level.lightCount + 1 = 2
      ∧ ((start session).performAll earlier).TakesEffect ⟨7, .restoreCursor "hub"⟩ := by
  intro session cube earlier statements final
  have silent : Diagnostic.hasErrors final.session.log = false := by decide +kernel
  obtain ⟨rooms, lights, effects⟩ := run_without_errors session statements silent
  exact ⟨silent, rooms, rfl, lights, (effects earlier _ [] rfl).mpr (by decide)⟩

/-- A light before all rooms and a return to a snapshot that was never saved are dropped,
and all that is reported are warnings. -/
theorem dropped_with_warnings :
    let session : Session :=
      { config := {}, textures := fun _ => ⟨fun _ => none, fun _ _ => none⟩ }
    let light : Statement := ⟨1, .addLight .full⟩
    let restore : Statement := ⟨2, .restoreCursor "nowhere"⟩
    let lit := (start session).perform light
    let final := (start session).performAll [light, restore]
    Diagnostic.hasErrors session.log = false
      ∧ final.session.log =
        [.warning 1 "'with light' before any room was added, ignoring",
          .warning 2 "cursor snapshot 'nowhere' was never saved, ignoring restore"]
      ∧ Diagnostic.hasErrors final.session.log = false
      ∧ [light, restore].countP (·.action.addsLight) = 1 ∧ final.level.lightCount = 0
      ∧ ¬ (start session).TakesEffect light
      ∧ lit.cursor.saved.get? "nowhere" = none ∧ ¬ lit.TakesEffect restore := by
  intro session light restore lit final
  have litSilent : lit.hasErrors = false := by decide +kernel
  have finalSilent : (lit.perform restore).hasErrors = false := by decide +kernel
  refine ⟨rfl, by decide +kernel, finalSilent, rfl, by decide +kernel, ?_, rfl, ?_⟩
  · rw [takesEffect_iff_provides litSilent]
    decide +kernel
  · rw [takesEffect_iff_provides finalSilent]
    decide +kernel

end Construction

end RoomLayout
