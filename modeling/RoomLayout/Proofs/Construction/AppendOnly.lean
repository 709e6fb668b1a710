import RoomLayout.Proofs.Construction.Tracing

/-!
# Placement only appends

What a run has placed stays as it is when the run goes on: rooms are added behind, and only
the room that was placed last may get further lights. So the rooms of a run are those of its
accepted additions in their order (`Construction.unlit_performAll`), and its lights are those
of the statements that find a room and a meaning for their variable
(`Construction.lightCount_performAll`).
-/

namespace RoomLayout

/-- Rooms are added behind a level, and lights in its last room after the earlier ones. -/
inductive Level.GrowsTo {α : Type} [Coordinate α] : Level α → Level α → Prop where
  | empty (later : Level α) : GrowsTo [] later
  | last (earlier : Level α) (room : Room α) (lights : List (Light α)) (later : Level α) :
      GrowsTo (earlier ++ [room])
        (earlier ++ { room with lights := room.lights ++ lights } :: later)

namespace Level.GrowsTo

variable {α : Type} [Coordinate α] {level grown : Level α}

theorem refl (level : Level α) : level.GrowsTo level := by
  rcases List.eq_nil_or_concat level with rfl | ⟨earlier, room, rfl⟩
  · exact .empty []
  · rw [List.concat_eq_append]
    have same := GrowsTo.last earlier room [] []
    rwa [List.append_nil] at same

theorem append (grows : level.GrowsTo grown) (later : Level α) :
    level.GrowsTo (grown ++ later) := by
  cases grows with
  | empty rooms => exact .empty _
  | last earlier room lights rooms =>
    rw [List.append_assoc]
    exact .last earlier room lights (rooms ++ later)

theorem withLight (grows : level.GrowsTo grown) (light : Room α → Light α) :
    level.GrowsTo (grown.withLight light) := by
  cases grows with
  | empty rooms => exact .empty _
  | last earlier room lights rooms =>
    rcases List.eq_nil_or_concat rooms with rfl | ⟨between, newest, rfl⟩
    · -- The light is hung in the room that was the last one before.
      rw [withLight_append_singleton, Room.addLight]
      simp only [List.append_assoc]
      exact .last earlier room (lights ++ [_]) []
    · rw [List.concat_eq_append, ← List.cons_append, ← List.append_assoc,
        withLight_append_singleton, List.append_assoc]
      exact .last earlier room lights (between ++ [newest.addLight (light newest)])

end Level.GrowsTo

/-- Whether the variable of a light's argument, if there is one, has a value. -/
def LightArgument.isDefined (values : NameTable Value) : LightArgument → Bool
  | .named name => values.contains name
  | .full | .dim | .percentage _ => true

namespace Construction

/-- The room that a statement places, if it is an addition that is accepted. -/
def placed? (state : Construction) (statement : Statement) : Option (Room Float) :=
  match statement.action with
  | .addRoom size definition alignments =>
    (state.resolveSize size).toOption.map fun extent => state.nextRoom extent definition alignments
  | _ => none

/-- Whether a statement is a light for which there is a room and, if it has a variable, a
value. -/
def canLight (state : Construction) (statement : Statement) : Bool :=
  match statement.action with
  | .addLight argument => !state.level.isEmpty && argument.isDefined state.values
  | _ => false

/-- The steps of a run: each statement with what it finds. -/
def steps (state : Construction) : List Statement → List (Construction × Statement)
  | [] => []
  | statement :: rest => (state, statement) :: (state.perform statement).steps rest

theorem isDefined_eq_isOk (values : NameTable Value) (argument : LightArgument) :
    argument.isDefined values = (resolveLight values argument).isOk := by
  cases argument with
  | named name =>
    rw [LightArgument.isDefined, NameTable.contains, resolveLight]
    split
    · next found => rw [found]; rfl
    · next found => rw [found]; rfl
    · next found => rw [found]; rfl
    · next unknown => rw [unknown]; rfl
  | full | dim | percentage value => rfl

/-- But for lights, a statement appends the room that it places. -/
theorem unlit_perform (state : Construction) (statement : Statement) :
    (state.perform statement).level.unlit
      = state.level.unlit ++ (state.placed? statement).toList := by
  rw [level_perform_eq, placed?]
  cases statement.action with
  | addRoom size definition alignments =>
    dsimp only
    rcases state.resolveSize size with error | extent
    · exact (List.append_nil _).symm
    · exact Level.unlit_append _ _
  | addLight argument =>
    dsimp only
    rw [Option.toList_none, List.append_nil]
    rcases resolveLight state.values argument with error | ⟨modifier, fallback⟩
    · rfl
    · exact Level.unlit_withLight (lightIn _ _ modifier) state.level
  | define _ _ | saveCursor _ | restoreCursor _ | assign _ _ => exact (List.append_nil _).symm

/-- A statement adds the light for which there is a room and a value, and no other. -/
theorem lightCount_perform (state : Construction) (statement : Statement) :
    (state.perform statement).level.lightCount
      = state.level.lightCount + if state.canLight statement then 1 else 0 := by
  rw [level_perform_eq, canLight]
  cases statement.action with
  | addRoom size definition alignments =>
    dsimp only
    rcases state.resolveSize size with error | extent
    · rfl
    · exact Level.lightCount_append _ _
  | addLight argument =>
    simp only [isDefined_eq_isOk]
    rcases resolveLight state.values argument with error | ⟨modifier, fallback⟩
    · simp [Except.isOk, Except.toBool]
    · simp [Level.lightCount_withLight, Except.isOk, Except.toBool, ite_not]
  | define _ _ | saveCursor _ | restoreCursor _ | assign _ _ => rfl

/-- The rooms of a run are those that its statements place, in their order. -/
theorem unlit_performAll (state : Construction) (statements : List Statement) :
    (state.performAll statements).level.unlit
      = state.level.unlit
        ++ (state.steps statements).filterMap fun step => step.1.placed? step.2 := by
  induction statements generalizing state with
  | nil => exact (List.append_nil _).symm
  | cons statement rest inductionHypothesis =>
    calc
      ((state.perform statement).performAll rest).level.unlit
      _ = state.level.unlit ++ (state.placed? statement).toList
            ++ ((state.perform statement).steps rest).filterMap
              fun step => step.1.placed? step.2 := by
        rw [inductionHypothesis, unlit_perform]
      _ = state.level.unlit
            ++ (state.steps (statement :: rest)).filterMap fun step => step.1.placed? step.2 := by
        rw [steps, List.filterMap_cons, List.append_assoc]
        cases state.placed? statement <;> rfl

/-- The lights of a run are as many as its statements that find a room and a value. -/
theorem lightCount_performAll (state : Construction) (statements : List Statement) :
    (state.performAll statements).level.lightCount
      = state.level.lightCount
        + (state.steps statements).countP fun step => step.1.canLight step.2 := by
  induction statements generalizing state with
  | nil => rfl
  | cons statement rest inductionHypothesis =>
    calc
      ((state.perform statement).performAll rest).level.lightCount
      _ = state.level.lightCount + (if state.canLight statement then 1 else 0)
            + ((state.perform statement).steps rest).countP fun step => step.1.canLight step.2 := by
        rw [inductionHypothesis, lightCount_perform]
      _ = state.level.lightCount
            + (state.steps (statement :: rest)).countP fun step => step.1.canLight step.2 := by
        rw [steps, List.countP_cons, Nat.add_assoc, Nat.add_comm (List.countP _ _)]

/-- Statements let a level grow, and do nothing else to it. -/
theorem keepsGrowing (level : Level Float) :
    Invariant (fun state => level.GrowsTo state.level) where
  reporting grows _ := grows
  placeRoom grows _ _ _ := grows.append _
  light grows _ := grows.withLight _
  restore grows _ := grows
  define grows _ _ := grows
  saveCursor grows _ := grows
  assign grows _ _ := grows

/-- Placement is append-only. When a run goes on, the rooms that it has placed stay the first
ones and stay as they are, but for lights that the last of them may get after its own, and
what it has reported stays in front. The rooms of any run are, but for their lights, those of
its accepted additions in order. There are as many lights as statements that were to hang one
when there was a room, and whose variable, if they had one, had a value then. -/
theorem placement_is_append_only (session : Session) (first second : List Statement) :
    let alone := (start session).performAll first
    let both := (start session).performAll (first ++ second)
    let steps := (start session).steps (first ++ second)
    alone.level.GrowsTo both.level
      ∧ alone.session.log <+: both.session.log
      ∧ both.level.unlit = steps.filterMap (fun step => step.1.placed? step.2)
      ∧ both.level.lightCount = steps.countP fun step => step.1.canLight step.2 := by
  intro alone both steps
  have goesOn : both = alone.performAll second := performAll_append (start session) first second
  refine ⟨?_, ?_, unlit_performAll _ _, (lightCount_performAll _ _).trans (Nat.zero_add _)⟩
  · rw [goesOn]
    exact (keepsGrowing alone.level).performAll (.refl alone.level) second
  · rw [goesOn]
    exact (keepsLog alone.session.log).performAll (List.prefix_refl _) second

end Construction

end RoomLayout
