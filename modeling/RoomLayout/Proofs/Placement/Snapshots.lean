import RoomLayout.Placement.Cursor
import RoomLayout.Proofs.LastWrite

/-!
# Snapshots of the cursor

A snapshot is a whole state of the cursor under a name. Only saving under that name takes or
replaces it, so a return finds the state that the last save found, however the cursor was
moved, and to whatever snapshots it returned, in between.
-/

namespace RoomLayout

/-- A call of one of the operations of a cursor. -/
inductive CursorCall (α : Type) where
  | setNewSize (size : Vec3 α)
  | moveBy (alignments : List Alignment)
  | commit
  | saveAs (name : String)
  | restore (name : String)
  deriving DecidableEq

namespace Cursor

variable {α : Type} [Coordinate α]

/-- Carry out a call. A return to a snapshot that there is not changes nothing. -/
def call (cursor : Cursor α) : CursorCall α → Cursor α
  | .setNewSize size => cursor.setNewSize size
  | .moveBy alignments => cursor.moveBy alignments
  | .commit => cursor.commit
  | .saveAs name => cursor.saveAs name
  | .restore name => (cursor.restore? name).getD cursor

/-- Carry out calls in order. -/
def callAll (cursor : Cursor α) (calls : List (CursorCall α)) : Cursor α := calls.foldl call cursor

omit [Coordinate α] in
/-- A return answers whether there is a snapshot of the name. -/
theorem isSome_restore? (cursor : Cursor α) (name : String) :
    (cursor.restore? name).isSome = cursor.saved.contains name :=
  Option.isSome_map

/-- Calls that do not save leave all snapshots as they are. -/
theorem saved_call {cursor : Cursor α} {call : CursorCall α}
    (noSave : ∀ name, call ≠ .saveAs name) : (cursor.call call).saved = cursor.saved := by
  cases call with
  | saveAs name => exact absurd rfl (noSave name)
  | restore name =>
    simp only [Cursor.call, restore?]
    cases cursor.saved.get? name <;> rfl
  | setNewSize _ | moveBy _ | commit => rfl

/-- Only saving under a name changes its snapshot. -/
theorem get?_saved_call {name : String} (cursor : Cursor α) (call : CursorCall α)
    (other : ¬ call = .saveAs name) :
    (cursor.call call).saved.get? name = cursor.saved.get? name := by
  cases call with
  | saveAs saved =>
    have different : name ≠ saved := fun same => other (same ▸ rfl)
    exact (NameTable.get?_insert _ _ _ _).trans (if_neg different)
  | setNewSize _ | moveBy _ | commit | restore _ => rw [saved_call (by simp)]

theorem get?_saved_callAll_of_not_mem {calls : List (CursorCall α)} {name : String}
    (never : .saveAs name ∉ calls) :
    ((initial : Cursor α).callAll calls).saved.get? name = none := by
  refine foldl_eq_of_none (fun cursor : Cursor α => cursor.saved.get? name)
    get?_saved_call (fun call member same => never ?_) initial
  rwa [← same]

/-- The snapshot of a name is the state that the last save found. -/
theorem get?_saved_callAll_of_isLast {calls earlier : List (CursorCall α)} {name : String}
    (last : IsLast (· = .saveAs name) calls earlier (.saveAs name)) :
    ((initial : Cursor α).callAll calls).saved.get? name
      = some ((initial : Cursor α).callAll earlier).state := by
  have decided := last.foldl_eq (fun cursor : Cursor α => cursor.saved.get? name)
    get?_saved_call initial
  exact decided.trans (NameTable.get?_insert_self _ _ _)

/-- Snapshots are a map from names to whole states. After any calls on a new cursor a return
answers that there is a snapshot exactly if some call saved under its name. Then it brings
back the position and both extents as the last of these calls found them, and leaves the
snapshots as they are; otherwise it changes nothing. No call but a save changes any snapshot. -/
theorem restore_brings_back_last_save (calls : List (CursorCall α)) (name : String) :
    let cursor := (initial : Cursor α).callAll calls
    ((cursor.restore? name).isSome = true ↔ .saveAs name ∈ calls)
      ∧ (∀ earlier, IsLast (· = .saveAs name) calls earlier (.saveAs name) →
        cursor.call (.restore name)
          = { cursor with state := ((initial : Cursor α).callAll earlier).state })
      ∧ (.saveAs name ∉ calls → cursor.call (.restore name) = cursor)
      ∧ ∀ call, (∀ saved, call ≠ .saveAs saved) → (cursor.call call).saved = cursor.saved := by
  intro cursor
  refine ⟨?answer, ?back, ?nothing, fun call noSave => saved_call noSave⟩
  case answer =>
    rw [isSome_restore?, NameTable.contains]
    rcases exists_isLast_or_none (· = .saveAs name) calls with ⟨earlier, _, last⟩ | never
    · obtain rfl := last.holds
      obtain ⟨after, split, -⟩ := last.split
      rw [get?_saved_callAll_of_isLast last]
      exact iff_of_true rfl (by simp [split])
    · have notMem : .saveAs name ∉ calls := fun member => never _ member rfl
      rw [get?_saved_callAll_of_not_mem notMem]
      exact iff_of_false nofun notMem
  case back =>
    intro earlier last
    simp only [call, restore?, cursor, get?_saved_callAll_of_isLast last, Option.map_some,
      Option.getD_some]
  case nothing =>
    intro never
    simp only [call, restore?, cursor, get?_saved_callAll_of_not_mem never, Option.map_none,
      Option.getD_none]

/-- The hub is saved twice, the second time with an extent that is not committed yet. Between
that and the return the extent is committed and the cursor goes elsewhere. -/
theorem restore_brings_back_last_save_hub :
    let earlier : List (CursorCall Float) :=
      [.setNewSize ⟨4, 2, 4⟩, .moveBy [], .commit, .saveAs "hub", .setNewSize ⟨2, 2, 2⟩,
        .moveBy [⟨.x, .plusPlus⟩], .saveAs "east", .restore "hub", .setNewSize ⟨6, 2, 6⟩,
        .moveBy [⟨.z, .plusPlus⟩]]
    let calls := earlier ++ [.saveAs "hub", .commit, .restore "east"]
    let cursor := (initial : Cursor Float).callAll calls
    IsLast (· = .saveAs "hub") calls earlier (.saveAs "hub")
      ∧ cursor.state = ⟨⟨3, 0, 0⟩, ⟨4, 2, 4⟩, ⟨2, 2, 2⟩⟩
      ∧ (cursor.call (.restore "hub")).state = ⟨⟨0, 0, 5⟩, ⟨4, 2, 4⟩, ⟨6, 2, 6⟩⟩
      ∧ .saveAs "attic" ∉ calls ∧ cursor.call (.restore "attic") = cursor
      ∧ (cursor.call .commit).saved = cursor.saved := by
  intro earlier calls cursor
  have last : IsLast (· = .saveAs "hub") calls earlier (.saveAs "hub") :=
    ⟨rfl, _, rfl, by simp⟩
  have never : .saveAs "attic" ∉ calls := by decide +kernel
  obtain ⟨-, back, -, keeps⟩ := restore_brings_back_last_save calls "hub"
  have nothing := (restore_brings_back_last_save calls "attic").2.2.1
  have saved : ((initial : Cursor Float).callAll earlier).state
      = ⟨⟨0, 0, 5⟩, ⟨4, 2, 4⟩, ⟨6, 2, 6⟩⟩ := by decide +kernel
  exact ⟨last, by decide +kernel, (congrArg Cursor.state (back earlier last)).trans saved, never,
    nothing never, keeps .commit (by simp)⟩

end Cursor

end RoomLayout
