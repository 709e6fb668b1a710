import RoomLayout.Proofs.Construction.Effectiveness
import RoomLayout.Proofs.LastWrite

/-!
# Where rooms and lights come from

Rooms are appended, never moved and never taken back, and lights are hung in the last room
only. So what a run leaves behind can be traced: every room to the statement that placed it,
every light to the statement that hung it, and every snapshot to the statement that saved it
last. Each of these statements found what the statements before it had left.
-/

namespace RoomLayout

section Unlit

variable {α : Type} [Coordinate α]

/-- The room without its lights. -/
def Room.unlit (room : Room α) : Room α := { room with lights := [] }

/-- The rooms without their lights: what is settled once a room is placed. -/
def Level.unlit (level : Level α) : Level α := level.map Room.unlit

namespace Level

theorem unlit_append (earlier later : Level α) :
    unlit (earlier ++ later) = earlier.unlit ++ later.unlit :=
  List.map_append

/-- A light changes nothing else. -/
@[simp] theorem unlit_withLight (light : Room α → Light α) (level : Level α) :
    (level.withLight light).unlit = level.unlit := by
  rcases withLight_cases light level with ⟨rfl, same⟩ | ⟨earlier, room, rfl, lit⟩
  · rw [same]
  · rw [lit, unlit_append, unlit_append]
    rfl

theorem getElem?_unlit (level : Level α) (index : Nat) :
    level.unlit[index]? = level[index]?.map Room.unlit :=
  List.getElem?_map

/-- Rooms stay at their positions while others are added behind them. -/
theorem getElem?_of_unlit_isPrefix {level later : Level α} (grown : level.unlit <+: later.unlit)
    {index : Nat} {room : Room α} (found : level[index]? = some room) :
    ∃ same, later[index]? = some same ∧ same.unlit = room.unlit := by
  obtain ⟨rest, grownBy⟩ := grown
  have placed : level.unlit[index]? = some room.unlit := by
    rw [getElem?_unlit, found, Option.map_some]
  have stays : later.unlit[index]? = some room.unlit := by
    rw [← grownBy, List.getElem?_append_left (List.getElem?_eq_some_iff.mp placed).1, placed]
  rwa [getElem?_unlit, Option.map_eq_some_iff] at stays

end Level

end Unlit

/-- An action stands in a program right after the earlier statements. -/
def Action.StandsAfter (action : Action) (earlier statements : List Statement) : Prop :=
  ∃ line later, statements = earlier ++ ⟨line, action⟩ :: later

namespace Construction

/-- The room that an addition places, given the extent that its size stands for. -/
def nextRoom (state : Construction) (extent : Vec3 Float) (definition : String)
    (alignments : List Alignment) : Room Float :=
  Room.build state.session.config.tileSize
    ((state.cursor.setNewSize extent).moveBy alignments).state.position extent
    (state.definitions.named definition)

/-- What a statement may do to the rooms: nothing, or append the next room, or hang a light
in the last one. -/
inductive LevelStep (state : Construction) : Action → Level Float → Prop where
  | same (action : Action) : LevelStep state action state.level
  | room {size : Vec3 Number} {extent : Vec3 Float} (accepted : state.resolveSize size = .ok extent)
      (definition : String) (alignments : List Alignment) :
      LevelStep state (.addRoom size definition alignments)
        (state.level ++ [state.nextRoom extent definition alignments])
  | light {argument : LightArgument} {modifier : LightModifier}
      {fallback : Option ConstructionWarning}
      (resolved : resolveLight state.values argument = .ok (modifier, fallback)) :
      LevelStep state (.addLight argument)
        (state.level.withLight (lightIn state.session.config state.cursor.state modifier))

theorem levelStep (state : Construction) (statement : Statement) :
    state.LevelStep statement.action (state.perform statement).level := by
  rw [level_perform_eq]
  cases statement.action with
  | addRoom size definition alignments =>
    dsimp only
    split
    · next extent accepted => exact .room accepted definition alignments
    · exact .same _
  | addLight argument =>
    dsimp only
    split
    · next modifier fallback resolved => exact .light resolved
    · exact .same _
  | define _ _ | saveCursor _ | restoreCursor _ | assign _ _ => exact .same _

/-- Only an addition that is accepted makes rooms more. -/
theorem exists_room_of_length_lt {state : Construction} {statement : Statement}
    (longer : state.level.length < (state.perform statement).level.length) :
    ∃ size definition alignments extent, statement.action = .addRoom size definition alignments
      ∧ state.resolveSize size = .ok extent
      ∧ (state.perform statement).level
        = state.level ++ [state.nextRoom extent definition alignments] := by
  have step := state.levelStep statement
  generalize statement.action = action, (state.perform statement).level = level at step longer ⊢
  cases step with
  | same => exact absurd longer (Nat.lt_irrefl _)
  | light resolved =>
    rw [Level.length_withLight] at longer
    exact absurd longer (Nat.lt_irrefl _)
  | room accepted definition alignments =>
    exact ⟨_, definition, alignments, _, rfl, accepted, rfl⟩

/-- Whether a light hangs in the room at a position. -/
def HasLight (light : Light Float) (index : Nat) (state : Construction) : Prop :=
  ∃ room, state.level[index]? = some room ∧ light ∈ room.lights

/-- Only an addition of a light adds a light, and to the last room. -/
theorem exists_light_of_hasLight {state : Construction} {statement : Statement}
    {light : Light Float} {index : Nat} (absent : ¬ HasLight light index state)
    (present : HasLight light index (state.perform statement)) :
    ∃ argument modifier fallback earlier room, statement.action = .addLight argument
      ∧ resolveLight state.values argument = .ok (modifier, fallback)
      ∧ state.level = earlier ++ [room] ∧ earlier.length = index
      ∧ light = lightIn state.session.config state.cursor.state modifier room := by
  obtain ⟨lit, found, member⟩ := present
  have step := state.levelStep statement
  generalize statement.action = action, (state.perform statement).level = level at step found ⊢
  cases step with
  | same => exact absurd ⟨lit, found, member⟩ absent
  | room accepted definition alignments =>
    -- The new room has no light, and the others are as they were.
    rcases Nat.lt_or_ge index state.level.length with before | behind
    · rw [List.getElem?_append_left before] at found
      exact absurd ⟨lit, found, member⟩ absent
    · rw [List.getElem?_append_right behind, List.getElem?_singleton] at found
      split at found
      · obtain rfl := Option.some.inj found
        exact nomatch member
      · exact nomatch found
  | @light argument modifier fallback resolved =>
    rcases Level.withLight_cases (lightIn state.session.config state.cursor.state modifier)
      state.level with ⟨empty, same⟩ | ⟨earlier, room, same, hung⟩
    · rw [same] at found
      exact nomatch found
    · rw [hung] at found
      rcases Nat.lt_or_ge index earlier.length with before | behind
      · rw [List.getElem?_append_left before] at found
        refine absurd ⟨lit, ?_, member⟩ absent
        rw [same, List.getElem?_append_left before, found]
      · rw [List.getElem?_append_right behind, List.getElem?_singleton] at found
        split at found
        · next last =>
          obtain rfl := Option.some.inj found
          have atEnd : earlier.length = index := by omega
          refine ⟨argument, modifier, fallback, earlier, room, rfl, resolved, same, atEnd, ?_⟩
          rcases List.mem_append.mp member with old | new
          · refine absurd ⟨room, ?_, old⟩ absent
            rw [same, ← atEnd, List.getElem?_concat_length]
          · exact List.mem_singleton.mp new
        · exact nomatch found

/-- Statements leave the rooms that stand, but for lights. -/
theorem keepsRooms (rooms : Level Float) :
    Invariant (fun state => rooms <+: state.level.unlit) where
  reporting kept _ := kept
  placeRoom kept _ _ _ := by
    rw [placeRoom, Level.unlit_append]
    exact kept.trans (List.prefix_append _ _)
  light kept _ := by rwa [Level.unlit_withLight]
  restore kept _ := kept
  define kept _ _ := kept
  saveCursor kept _ := kept
  assign kept _ _ := kept

theorem unlit_isPrefix_performAll (state : Construction) (statements : List Statement) :
    state.level.unlit <+: (state.performAll statements).level.unlit :=
  (keepsRooms state.level.unlit).performAll (List.prefix_refl _) statements

/-- What does not hold at first and holds in the end is brought about by some statement;
before that statement it never held. -/
theorem exists_statement_of_change (Holds : Construction → Prop) {state : Construction}
    {statements : List Statement} (before : ¬ Holds state)
    (after : Holds (state.performAll statements)) :
    ∃ earlier statement later, statements = earlier ++ statement :: later
      ∧ (∀ part, part <+: earlier → ¬ Holds (state.performAll part))
      ∧ Holds ((state.performAll earlier).perform statement) := by
  induction statements generalizing state with
  | nil => exact absurd after before
  | cons first rest inductionHypothesis =>
    by_cases atOnce : Holds (state.perform first)
    · refine ⟨[], first, rest, rfl, fun part isPart => ?_, atOnce⟩
      rw [List.prefix_nil.mp isPart]
      exact before
    · obtain ⟨earlier, statement, later, rfl, never, change⟩ := inductionHypothesis atOnce after
      refine ⟨first :: earlier, statement, later, rfl, fun part isPart => ?_, change⟩
      rcases List.prefix_cons_iff.mp isPart with rfl | ⟨others, rfl, isOthers⟩
      · exact before
      · exact never others isOthers

variable {session : Session} {statements : List Statement}

/-- Every room was placed by a statement, as the next room of what it found. -/
theorem exists_statement_of_room {index : Nat} {room : Room Float}
    (found : ((start session).performAll statements).level[index]? = some room) :
    ∃ earlier size definition alignments extent,
      (Action.addRoom size definition alignments).StandsAfter earlier statements
        ∧ ((start session).performAll earlier).level.length = index
        ∧ ((start session).performAll earlier).resolveSize size = .ok extent
        ∧ room.unlit
          = ((start session).performAll earlier).nextRoom extent definition alignments := by
  have inRange : index < ((start session).performAll statements).level.length :=
    (List.getElem?_eq_some_iff.mp found).1
  have absent : ¬ index < (start session).level.length := Nat.not_lt_zero index
  obtain ⟨earlier, ⟨line, action⟩, later, rfl, never, appears⟩ :=
    exists_statement_of_change (fun state => index < state.level.length) absent inRange
  have notYet := never earlier (List.prefix_refl _)
  obtain ⟨size, definition, alignments, extent, rfl, accepted, placed⟩ :=
    exists_room_of_length_lt (Nat.lt_of_le_of_lt (Nat.le_of_not_lt notYet) appears)
  have last : ((start session).performAll earlier).level.length = index := by
    rw [placed, List.length_append, List.length_singleton] at appears
    omega
  refine ⟨earlier, size, definition, alignments, extent, ⟨line, later, rfl⟩, last, accepted, ?_⟩
  have atIndex : (((start session).performAll earlier).perform
        ⟨line, .addRoom size definition alignments⟩).level[index]?
      = some (((start session).performAll earlier).nextRoom extent definition alignments) := by
    rw [placed, ← last, List.getElem?_concat_length]
  obtain ⟨same, stays, unlit⟩ := Level.getElem?_of_unlit_isPrefix
    (unlit_isPrefix_performAll (((start session).performAll earlier).perform _) later) atIndex
  rw [performAll_append] at found
  obtain rfl := Option.some.inj (stays.symm.trans found)
  exact unlit

/-- Every light was hung by a statement, in the room that was the last one then. -/
theorem exists_statement_of_light {index : Nat} {light : Light Float}
    (lit : HasLight light index ((start session).performAll statements)) :
    ∃ earlier argument modifier fallback rooms last,
      (Action.addLight argument).StandsAfter earlier statements
        ∧ resolveLight ((start session).performAll earlier).values argument
          = .ok (modifier, fallback)
        ∧ ((start session).performAll earlier).level = rooms ++ [last] ∧ rooms.length = index
        ∧ light = lightIn ((start session).performAll earlier).session.config
            ((start session).performAll earlier).cursor.state modifier last := by
  have absent : ¬ HasLight light index (start session) := fun ⟨_, found, _⟩ => nomatch found
  obtain ⟨earlier, ⟨line, action⟩, later, rfl, never, appears⟩ :=
    exists_statement_of_change (HasLight light index) absent lit
  obtain ⟨argument, modifier, fallback, rooms, last, rfl, resolved, level, length, hung⟩ :=
    exists_light_of_hasLight (never earlier (List.prefix_refl _)) appears
  exact ⟨earlier, argument, modifier, fallback, rooms, last, ⟨line, later, rfl⟩, resolved, level,
    length, hung⟩

/-- Only saving a name changes its snapshot. -/
theorem get?_saved_perform {name : String} (state : Construction) (statement : Statement)
    (other : ¬ statement.action.savesCursor name = true) :
    (state.perform statement).cursor.saved.get? name = state.cursor.saved.get? name := by
  rw [saved_perform]
  cases action : statement.action with
  | saveCursor saved =>
    have different : name ≠ saved := by simpa [action, Action.savesCursor] using other
    exact (NameTable.get?_insert _ _ _ _).trans (if_neg different)
  | _ => rfl

/-- Every snapshot is the cursor that the last statement to save its name found. -/
theorem exists_statement_of_snapshot {name : String} {snapshot : CursorState Float}
    (found : ((start session).performAll statements).cursor.saved.get? name = some snapshot) :
    ∃ earlier line later, statements = earlier ++ ⟨line, .saveCursor name⟩ :: later
      ∧ ((start session).performAll earlier).cursor.state = snapshot
      ∧ ∀ statement ∈ later, statement.action.savesCursor name = false := by
  let snapshotOf (state : Construction) := state.cursor.saved.get? name
  rcases exists_isLast_or_none
    (fun statement : Statement => statement.action.savesCursor name = true) statements with
    ⟨earlier, ⟨line, action⟩, last⟩ | never
  · have decided := last.foldl_eq snapshotOf get?_saved_perform (start session)
    obtain ⟨saves, later, split, unsaved⟩ := last
    cases action with
    | saveCursor saved =>
      obtain rfl : name = saved := eq_of_beq saves
      have taken : some ((start session).performAll earlier).cursor.state = some snapshot :=
        (NameTable.get?_insert_self _ _ _).symm.trans (decided.symm.trans found)
      exact ⟨earlier, line, later, split, Option.some.inj taken,
        fun statement member => Bool.eq_false_iff.mpr (unsaved statement member)⟩
    | _ => exact nomatch saves
  · have unsaved := foldl_eq_of_none snapshotOf get?_saved_perform never (start session)
    exact nomatch unsaved.symm.trans found

end Construction

end RoomLayout
