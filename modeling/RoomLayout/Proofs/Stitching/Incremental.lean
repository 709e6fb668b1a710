import RoomLayout.Proofs.Stitching.Fixpoint

/-!
# Stitching while rooms are placed

Stitching after every placed room ends where stitching once at the end does,
although the pairs come in another order. Rooms that are stitched among
themselves lose nothing to each other again (`stitch_of_isStitched`), so each
call only stitches the new room with the rooms before it. The single pass does
the same steps: a room's steps with the others keep their order, and between
them only come steps of other rooms.
-/

namespace RoomLayout.Level

variable {α : Type} [Coordinate α]

/-- Stitch each room of a level with one that is placed after them all. -/
def stitchLast (tolerance : α) : Level α → Room α → Level α × Room α × Nat
  | [], last => ([], last, 0)
  | room :: level, last =>
    let step := stitchPair room last tolerance
    let column := stitchLast tolerance level step.2.1
    (step.1 :: column.1, column.2.1, step.2.2 + column.2.2)

/-- Place a room after a level that was stitched so far, stitch again, and add
up what was deleted. -/
def placeStitched (tolerance : α) (placed : Level α × Nat) (room : Room α) : Level α × Nat :=
  let stitched := stitch tolerance (placed.1 ++ [room])
  (stitched.1, placed.2 + stitched.2)

/-- The row of a room ends with the room that was placed last. -/
theorem stitchFirst_append_singleton (room : Room α) (tolerance : α) (later : Level α)
    (last : Room α) :
    stitchFirst room tolerance (later ++ [last]) =
      let swept := stitchFirst room tolerance later
      let step := stitchPair swept.1 last tolerance
      (step.1, swept.2.1 ++ [step.2.1], swept.2.2 + step.2.2) := by
  induction later generalizing room with
  | nil => simp [stitchFirst_cons, stitchFirst]
  | cons next later inductionHypothesis =>
    simp only [List.cons_append, stitchFirst_cons, inductionHypothesis, Nat.add_assoc]

/-- One more room at the end leaves the steps among the others as they are, and
adds a step with each of them in order. -/
theorem stitch_append_singleton (tolerance : α) (level : Level α) (last : Room α) :
    stitch tolerance (level ++ [last]) =
      let stitched := stitch tolerance level
      let column := stitchLast tolerance stitched.1 last
      (column.1 ++ [column.2.1], stitched.2 + column.2.2) := by
  fun_induction stitch tolerance level generalizing last with
  | case1 => simp [stitch_cons, stitch_nil, stitchFirst, stitchLast]
  | case2 room later swept rest inductionHypothesis =>
    -- The first room meets `last` at the end of its row, the others meet what is left of it.
    let step := stitchPair swept.1 last tolerance
    have row := stitchFirst_append_singleton room tolerance later last
    have others := inductionHypothesis step.2.1
    rw [List.cons_append, stitch_cons, row]
    simp only [swept, rest, step, stitchLast, List.cons_append] at others ⊢
    rw [others]
    simp only [Prod.mk.injEq, true_and]
    omega

/-- A new room at the end of a stitched level is all that another pass stitches. -/
theorem stitch_stitch_append_singleton (tolerance : α) (level : Level α) (last : Room α) :
    placeStitched tolerance (stitch tolerance level) last = stitch tolerance (level ++ [last]) := by
  have again := stitch_of_isStitched (isStitched_stitch tolerance level)
  rw [placeStitched, stitch_append_singleton, stitch_append_singleton, again]
  simp only [Nat.zero_add]

/-- Placing rooms one by one after a level, with a pass after each, is one pass
over all of them. -/
theorem foldl_placeStitched (tolerance : α) (level rooms : Level α) :
    rooms.foldl (placeStitched tolerance) (stitch tolerance level) =
      stitch tolerance (level ++ rooms) := by
  induction rooms generalizing level with
  | nil => rw [List.foldl_nil, List.append_nil]
  | cons room rooms inductionHypothesis =>
    rw [List.foldl_cons, stitch_stitch_append_singleton, inductionHypothesis, List.append_assoc,
      List.singleton_append]

/-- Stitching after every placed room gives the same rooms, with the same
polygons in the same order, as stitching once when all rooms are placed, and the
numbers of polygons deleted on the way add up to the number deleted at once. -/
theorem stitch_incrementally (tolerance : α) (rooms : Level α) :
    rooms.foldl (placeStitched tolerance) ([], 0) = rooms.stitch tolerance := by
  have fromEmpty := foldl_placeStitched tolerance [] rooms
  rw [stitch_nil, List.nil_append] at fromEmpty
  exact fromEmpty

end RoomLayout.Level
