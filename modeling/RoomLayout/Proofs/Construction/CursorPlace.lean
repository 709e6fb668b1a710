import RoomLayout.Proofs.Construction.Invariant

/-!
# The cursor stands at a placed room

Between statements no placement is under way: the extent that was set has been
committed, and the cursor stands where some room was placed, or at the origin as long
as no room counts. Snapshots keep whole states, so the same holds of each of them. The
invariant couples the cursor, its snapshots and the rooms; it survives every statement
because rooms never move, and because a snapshot is taken of a state that satisfies it.
-/

namespace RoomLayout

namespace Level

variable {α : Type} [Coordinate α]

/-- A room of the level stands at a floor center and has an extent. -/
def HasRoomAt (level : Level α) (origin size : Vec3 α) : Prop :=
  ∃ room ∈ level, room.origin = origin ∧ room.size = size

theorem HasRoomAt.append {level : Level α} {origin size : Vec3 α}
    (standing : level.HasRoomAt origin size) (later : Level α) :
    HasRoomAt (level ++ later) origin size := by
  obtain ⟨room, member, place⟩ := standing
  exact ⟨room, List.mem_append_left later member, place⟩

/-- A light moves no room. -/
theorem HasRoomAt.withLight {level : Level α} {origin size : Vec3 α}
    (standing : level.HasRoomAt origin size) (light : Room α → Light α) :
    HasRoomAt (level.withLight light) origin size := by
  rcases withLight_cases light level with ⟨rfl, same⟩ | ⟨earlier, last, rfl, lit⟩
  · rwa [same]
  · obtain ⟨room, member, place⟩ := standing
    rw [lit]
    rcases List.mem_append.mp member with inEarlier | isLast
    · exact ⟨room, List.mem_append_left _ inEarlier, place⟩
    · obtain rfl := List.mem_singleton.mp isLast
      exact ⟨room.addLight (light room), List.mem_append_right _ (List.mem_singleton_self _), place⟩

end Level

/-- A cursor at rest: the extent that was set is committed, and it stands at a room of
the level, or at the origin before any room. -/
structure CursorState.AtRest (cursor : CursorState Float) (level : Level Float) : Prop where
  committed : cursor.oldSize = cursor.newSize
  place : (cursor.position = Vec3.zero ∧ cursor.oldSize = Vec3.zero)
    ∨ level.HasRoomAt cursor.position cursor.oldSize

/-- A cursor stays at rest while its room stays. -/
theorem CursorState.AtRest.of_hasRoomAt {cursor : CursorState Float} {level later : Level Float}
    (atRest : cursor.AtRest level)
    (keeps : ∀ origin size, level.HasRoomAt origin size → later.HasRoomAt origin size) :
    cursor.AtRest later :=
  ⟨atRest.committed, atRest.place.imp_right (keeps _ _)⟩

namespace Construction

/-- The live cursor and all its snapshots are at rest. -/
structure CursorsAtRest (state : Construction) : Prop where
  live : state.cursor.state.AtRest state.level
  saved : ∀ name snapshot, state.cursor.saved.get? name = some snapshot →
    snapshot.AtRest state.level

variable {state : Construction}

theorem cursorsAtRest_start (session : Session) : (start session).CursorsAtRest where
  live := ⟨rfl, .inl ⟨rfl, rfl⟩⟩
  saved _ _ found := nomatch found

/-- Cursors that stay where they are stay at rest while the rooms stay. -/
theorem CursorsAtRest.of_hasRoomAt {later : Construction} (atRest : state.CursorsAtRest)
    (cursor : later.cursor = state.cursor)
    (keeps : ∀ origin size, state.level.HasRoomAt origin size →
      later.level.HasRoomAt origin size) : later.CursorsAtRest := by
  constructor
  · rw [cursor]
    exact atRest.live.of_hasRoomAt keeps
  · rw [cursor]
    exact fun name snapshot found => (atRest.saved name snapshot found).of_hasRoomAt keeps

theorem cursorsAtRest_invariant : Invariant CursorsAtRest where
  reporting atRest _ := atRest.of_hasRoomAt rfl fun _ _ standing => standing
  placeRoom atRest _ _ _ := by
    constructor
    case live =>
      -- Placing commits the extent that it built the room with, at the position it moved to.
      exact ⟨rfl, .inr ⟨_, List.mem_append_right _ (List.mem_singleton_self _), rfl, rfl⟩⟩
    case saved =>
      intro name snapshot found
      exact (atRest.saved name snapshot found).of_hasRoomAt fun _ _ standing => standing.append _
  light atRest _ := atRest.of_hasRoomAt rfl fun _ _ standing => standing.withLight _
  restore atRest found := ⟨atRest.saved _ _ found, atRest.saved⟩
  define atRest _ _ := atRest.of_hasRoomAt rfl fun _ _ standing => standing
  saveCursor atRest name := by
    refine ⟨atRest.live, fun key snapshot found => ?_⟩
    rw [Cursor.saveAs, NameTable.get?_insert] at found
    split at found
    · -- The new snapshot is the live cursor.
      obtain rfl := Option.some.inj found
      exact atRest.live
    · exact atRest.saved key snapshot found
  assign atRest _ _ := atRest.of_hasRoomAt rfl fun _ _ standing => standing

/-- The cursor always stands at a placed room. Whatever statements were carried out, the
live cursor and every snapshot hold one committed extent, and stand with it at a room of
the level or at the origin. The next addition of a room is rejected with an error, or
appends a room and leaves the live cursor at that room. -/
theorem cursor_stands_at_room (session : Session) (statements : List Statement) :
    let state := (start session).performAll statements
    state.CursorsAtRest ∧ ∀ line size definition alignments,
      let next := state.perform ⟨line, .addRoom size definition alignments⟩
      (∃ error, state.resolveSize size = .error error ∧ next = state.fail line error)
        ∨ ∃ extent room, state.resolveSize size = .ok extent ∧ next.level = state.level ++ [room]
          ∧ next.cursor.state.position = room.origin ∧ next.cursor.state.oldSize = room.size := by
  intro state
  refine ⟨cursorsAtRest_invariant.performAll (cursorsAtRest_start session) statements, ?_⟩
  intro line size definition alignments next
  cases resolved : state.resolveSize size with
  | error error => exact .inl ⟨error, rfl, addRoom_of_error line resolved definition alignments⟩
  | ok extent =>
    obtain ⟨diagnostics, placed⟩ := addRoom_of_ok line resolved definition alignments
    have nextEq : next = _ := placed
    rw [nextEq]
    exact .inr ⟨extent, _, rfl, rfl, rfl, rfl⟩

end Construction

end RoomLayout
