import RoomLayout.Proofs.Construction.Lockstep
import RoomLayout.Proofs.Construction.Queries

/-!
# Branches

A branch starts at a snapshot, places rooms, and returns to the snapshot. What follows
builds as if the branch had not been there: it finds the same cursor, names mean what
they meant, and the rooms of the branch are never looked at again but for a light that
still belongs to the last of them.
-/

namespace RoomLayout

namespace Construction

/-- Names have the meaning that they had at home: only the live cursor, the rooms and the
reports may have changed since. -/
structure KeepsNames (home state : Construction) : Prop where
  session : state.session.AnswersLike home.session
  values : state.values = home.values
  definitions : state.definitions = home.definitions
  saved : state.cursor.saved = home.cursor.saved

namespace KeepsNames

variable {home state : Construction}

theorem refl (home : Construction) : home.KeepsNames home :=
  ⟨.refl home.session, rfl, rfl, rfl⟩

theorem invariant (home : Construction) : UnnamedInvariant home.KeepsNames where
  reporting keeps _ :=
    { keeps with session := ⟨keeps.session.config, keeps.session.answers⟩ }
  placeRoom keeps _ _ _ := { keeps with }
  light keeps _ := { keeps with }
  restore keeps _ := { keeps with }

/-- On return to the snapshot of home, only the rooms tell whether one has been away. -/
theorem lockstep_restore (keeps : home.KeepsNames state) (line : Nat) {name : String}
    (saved : home.cursor.saved.get? name = some home.cursor.state) :
    (Coupling.fromRoom (state.restore line name).level.length home.level.length).Lockstep
      (state.restore line name) home := by
  rw [restore_of_saved line (keeps.saved ▸ saved)]
  constructor
  case session => exact keeps.session
  case values => exact keeps.values
  case definitions =>
    rw [keeps.definitions]
    exact List.forall₂_same.mpr fun _ _ => ⟨rfl, rfl⟩
  case cursor => exact congrArg (Cursor.mk home.cursor.state) keeps.saved
  case level =>
    refine ⟨Nat.le_refl _, Nat.le_refl _, ?_⟩
    rw [List.drop_length, List.drop_length]

end KeepsNames

/-- The rooms that statements place, after those that stood before. -/
def placedBy (state : Construction) (statements : List Statement) : Level Float :=
  (state.performAll statements).level.drop state.level.length

/-- A branch leaves no trace. Between saving the cursor and returning to it, let rooms be
placed or rejected, lights hung and snapshots returned to. The statements after the
branch place the rooms that they place without it, and leave variables, definitions, the
cursor and its snapshots as they leave them without it. -/
theorem branch_leaves_no_trace (session : Session) (before branch after : List Statement)
    (name : String) (saveLine restoreLine : Nat)
    (nameNothing : ∀ statement ∈ branch, statement.action.namesNothing = true) :
    let home := (start session).performAll (before ++ [⟨saveLine, .saveCursor name⟩])
    let returned := home.performAll (branch ++ [⟨restoreLine, .restoreCursor name⟩])
    returned.placedBy after = home.placedBy after
      ∧ (returned.performAll after).values = (home.performAll after).values
      ∧ (returned.performAll after).definitions = (home.performAll after).definitions
      ∧ (returned.performAll after).cursor = (home.performAll after).cursor := by
  intro home returned
  have saved : home.cursor.saved.get? name = some home.cursor.state := by
    simp only [home, performAll_append]
    exact (NameTable.get?_insert _ _ _ _).trans (if_pos rfl)
  have away : home.KeepsNames (home.performAll branch) :=
    (KeepsNames.invariant home).performAll (.refl home) nameNothing
  have back : returned = (home.performAll branch).restore restoreLine name :=
    performAll_append home branch _
  have lockstep : (Coupling.fromRoom returned.level.length home.level.length).Lockstep
      (returned.performAll after) (home.performAll after) := by
    rw [back]
    refine (away.lockstep_restore restoreLine saved).performAll ?_
    exact List.forall₂_same.mpr fun statement _ => .refl (fun _ => rfl) statement
  obtain ⟨-, -, samePlaced⟩ := lockstep.level
  have sameTable := lockstep.definitions.eq
  exact ⟨samePlaced, lockstep.values, congrArg Definitions.mk sameTable, lockstep.cursor⟩

/-- The branch loses one of its rooms to an unknown variable, returns to a snapshot that is
none, and hangs a light. The room after it stands west of the hub, and the light before that
room is hung in the last room of the branch. -/
theorem branch_leaves_no_trace_hub :
    let session : Session :=
      { config := {}, textures := fun _ => ⟨fun _ => none, fun _ _ => none⟩ }
    let cube (line : Nat) (alignments : List Alignment) : Statement :=
      ⟨line, .addRoom ⟨.literal 100, .literal 100, .literal 100⟩ "default" alignments⟩
    let branch : List Statement := [cube 3 [⟨.x, .plusPlus⟩],
      ⟨4, .addRoom ⟨.named "w", .literal 100, .literal 100⟩ "default" []⟩,
      ⟨5, .restoreCursor "attic"⟩, ⟨6, .addLight .full⟩]
    let after : List Statement := [⟨8, .addLight .dim⟩, cube 9 [⟨.x, .minusMinus⟩]]
    let home := (start session).performAll [cube 1 [], ⟨2, .saveCursor "hub"⟩]
    let returned := home.performAll (branch ++ [⟨7, .restoreCursor "hub"⟩])
    (∀ statement ∈ branch, statement.action.namesNothing = true)
      ∧ home.level.length = 1 ∧ returned.level.length = 2
      ∧ (returned.performAll after).level.map (fun room => room.lights.length) = [0, 2, 0]
      ∧ (returned.placedBy after).map (fun room => room.origin.x) = [-100]
      ∧ returned.placedBy after = home.placedBy after := by
  intro session cube branch after home returned
  have nameNothing : ∀ statement ∈ branch, statement.action.namesNothing = true := by decide
  have placed := (branch_leaves_no_trace session [cube 1 []] branch after "hub" 2 7 nameNothing).1
  exact ⟨nameNothing, by decide +kernel, by decide +kernel, by decide +kernel, by decide +kernel,
    placed⟩

end Construction

end RoomLayout
