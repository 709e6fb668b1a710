import RoomLayout.Room.Basic

/-!
# Stitching

Opens passages between touching rooms. For every pair of rooms whose boxes
intersect, the polygons that both rooms share are deleted from both. Only a
polygon that lies entirely inside the other room's box is considered; one that
straddles the boundary is kept, and nothing is clipped. Pairs are taken in
placement order and each pair sees the rooms as earlier pairs left them.
-/

namespace RoomLayout

variable {α : Type} [Coordinate α]

/-- The polygons of a list that lie inside a box, with their indices. -/
@[specialize] def polygonsWithin (polygons : List (Polygon α)) (box : Box α) (tolerance : α) :
    List (Polygon α × Nat) :=
  polygons.zipIdx.filter fun entry => entry.1.isWithin box tolerance

/-- For every polygon of `a` inside the box of `b`, its index and the indices of
its counterparts in `b`; polygons without a counterpart are left out. -/
@[specialize] def sharedPolygons (a b : Room α) (tolerance : α) : List (Nat × List Nat) :=
  let candidates := polygonsWithin b.polygons a.bounds tolerance
  (polygonsWithin a.polygons b.bounds tolerance).filterMap fun (polygon, index) =>
    match candidates.filter (fun entry => polygon.coincides entry.1 tolerance) with
    | [] => none
    | counterparts => some (index, counterparts.map Prod.snd)

/-- Delete the polygons that two rooms share from both, and tell how many were
deleted. -/
@[specialize] def stitchPair (a b : Room α) (tolerance : α) : Room α × Room α × Nat :=
  if a.bounds.intersects b.bounds tolerance then
    let shared := sharedPolygons a b tolerance
    let (a, fromA) := a.removePolygons (shared.map Prod.fst)
    let (b, fromB) := b.removePolygons (shared.flatMap Prod.snd)
    (a, b, fromA + fromB)
  else (a, b, 0)

namespace Level

/-- Stitch one room with each of the rooms placed after it. -/
@[specialize] def stitchFirst (room : Room α) (tolerance : α) : Level α → Room α × Level α × Nat
  | [] => (room, [], 0)
  | next :: later =>
    let (room, next, removed) := stitchPair room next tolerance
    let (room, later, removedLater) := stitchFirst room tolerance later
    (room, next :: later, removed + removedLater)

theorem stitchFirst_cons (room next : Room α) (tolerance : α) (later : Level α) :
    stitchFirst room tolerance (next :: later) =
      let step := stitchPair room next tolerance
      let row := stitchFirst step.1 tolerance later
      (row.1, step.2.1 :: row.2.1, step.2.2 + row.2.2) := rfl

/-- Stitching a room with later rooms neither adds nor loses rooms. -/
theorem length_stitchFirst (room : Room α) (tolerance : α) (later : Level α) :
    (stitchFirst room tolerance later).2.1.length = later.length := by
  induction later generalizing room with
  | nil => rfl
  | cons next later inductionHypothesis => simp [stitchFirst, inductionHypothesis]

/-- Stitch all touching rooms, and tell how many polygons were deleted. -/
@[specialize] def stitch (tolerance : α) (level : Level α) : Level α × Nat :=
  match level with
  | [] => ([], 0)
  | room :: later =>
    let swept := stitchFirst room tolerance later
    let rest := stitch tolerance swept.2.1
    (swept.1 :: rest.1, swept.2.2 + rest.2)
termination_by level.length
decreasing_by simp [length_stitchFirst]

theorem stitch_nil (tolerance : α) : stitch tolerance ([] : Level α) = ([], 0) := by
  rw [stitch]

/-- A level is stitched by stitching its first room with all others, and then
the others among themselves. -/
theorem stitch_cons (tolerance : α) (room : Room α) (later : Level α) :
    stitch tolerance (room :: later) =
      let swept := stitchFirst room tolerance later
      let rest := stitch tolerance swept.2.1
      (swept.1 :: rest.1, swept.2.2 + rest.2) := by
  rw [stitch]

end Level

end RoomLayout
