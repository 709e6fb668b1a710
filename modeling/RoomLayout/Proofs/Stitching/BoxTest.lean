import Mathlib.Order.Defs.Unbundled
import RoomLayout.Proofs.Geometry.Axes
import RoomLayout.Proofs.Geometry.FloatOrder
import RoomLayout.Proofs.Tiling.FlushFaces

/-!
# The box test of a stitching step

A step compares the boxes of its two rooms before it looks at polygons. That is a fast path and
nothing else: where the first room lies in its own box, a single polygon of it inside the box of
the second room makes the boxes intersect at the same tolerance (`intersects_of_isWithin`). So
the step without the test would delete the same polygons (`stitchPair_eq_stitchRegardless`).
-/

namespace RoomLayout

open Coordinate

variable {α : Type} [Coordinate α]

/-- Delete the polygons that two rooms share from both, wherever their boxes are. -/
def stitchRegardless (a b : Room α) (tolerance : α) : Room α × Room α × Nat :=
  let shared := sharedPolygons a b tolerance
  let (a, fromA) := a.removePolygons (shared.map Prod.fst)
  let (b, fromB) := b.removePolygons (shared.flatMap Prod.snd)
  (a, b, fromA + fromB)

/-- The box test is all that a step has besides. -/
theorem stitchPair_eq_ite (a b : Room α) (tolerance : α) :
    stitchPair a b tolerance =
      if a.bounds.intersects b.bounds tolerance then stitchRegardless a b tolerance
      else (a, b, 0) := rfl

/-- The corners of a room's polygons are in its box, without any tolerance. -/
def Room.LiesInBox (room : Room α) : Prop :=
  ∀ p ∈ room.polygons, ∀ corner ∈ p.positions.toList, ∀ axis,
    le (room.bounds.low.along axis) (corner.along axis) = true
      ∧ le (corner.along axis) (room.bounds.high.along axis) = true

/-- Deleting at no position changes nothing. -/
theorem Room.removePolygons_nil (room : Room α) : room.removePolygons [] = (room, 0) := by
  have kept : (room.keep fun _ => !false) = room := keep_of_forall fun _ _ => rfl
  have counted : room.polygons.countP (fun _ => false) = 0 := List.countP_eq_zero.mpr (by simp)
  calc
    room.removePolygons []
    _ = (room.keep fun _ => !false, room.polygons.countP fun _ => false) :=
      removePolygons_eq (by simp)
    _ = (room, 0) := by rw [kept, counted]

section Transitive

variable [IsTrans α fun x y => le x y = true] {a b : Room α} {tolerance : α}

/-- A polygon of the first room inside the box of the second one is enough for the boxes to
intersect: each of its corners stands between the sides of both. -/
theorem intersects_of_isWithin (inBox : a.LiesInBox) {p : Polygon α} (member : p ∈ a.polygons)
    (within : p.isWithin b.bounds tolerance = true) :
    a.bounds.intersects b.bounds tolerance = true := by
  have isCorner : p.positions.first ∈ p.positions.toList := List.mem_cons_self
  have inSecond := Polygon.isWithin_eq_true_iff.mp within _ isCorner
  rw [Box.contains_iff] at inSecond
  rw [Box.intersects_iff]
  intro axis
  obtain ⟨aboveLow, belowHigh⟩ := inBox p member _ isCorner axis
  obtain ⟨aboveSecondLow, belowSecondHigh⟩ := inSecond axis
  exact ⟨trans_of (fun x y => le x y = true) aboveLow belowSecondHigh,
    trans_of (fun x y => le x y = true) aboveSecondLow belowHigh⟩

/-- Rooms whose boxes do not intersect have nothing to collect. -/
theorem sharedPolygons_of_apart (inBox : a.LiesInBox)
    (apart : a.bounds.intersects b.bounds tolerance = false) :
    sharedPolygons a b tolerance = [] := by
  rw [List.eq_nil_iff_forall_not_mem]
  rintro ⟨i, counterparts⟩ collected
  obtain ⟨p, inside, -⟩ := mem_sharedPolygons.mp collected
  obtain ⟨found, within⟩ := mem_polygonsWithin.mp inside
  have touching := intersects_of_isWithin inBox (List.mem_of_getElem? found) within
  rw [apart] at touching
  exact Bool.noConfusion touching

end Transitive

/-- The box test is only a fast path. At every tolerance, with a first room that lies in its own
box and any second room, the step comes to the same two rooms and the same count as without the
test. Nothing is used of the arithmetic but that comparing is transitive. -/
theorem stitchPair_eq_stitchRegardless [IsTrans α fun x y => le x y = true] {a : Room α}
    (inBox : a.LiesInBox) (b : Room α) (tolerance : α) :
    stitchPair a b tolerance = stitchRegardless a b tolerance := by
  rw [stitchPair_eq_ite]
  split
  · rfl
  · next apart =>
    rw [stitchRegardless, sharedPolygons_of_apart inBox (Bool.eq_false_iff.mpr apart)]
    simp only [List.map_nil, List.flatMap_nil, Room.removePolygons_nil, Nat.add_zero]

/-- Two rooms side by side. At a tolerance below zero their boxes are apart; at a tolerance above
zero they share a wall. -/
theorem stitchPair_eq_stitchRegardless_side_by_side :
    let west : Room Float := .build 500 ⟨0, 0, 0⟩ ⟨200, 150, 200⟩ {}
    let east : Room Float := .build 500 ⟨200, 0, 0⟩ ⟨200, 150, 200⟩ {}
    west.LiesInBox
      ∧ west.bounds.intersects east.bounds (-0.5) = false
      ∧ stitchPair west east (-0.5) = stitchRegardless west east (-0.5)
      ∧ west.bounds.intersects east.bounds 0.5 = true
      ∧ (stitchRegardless west east 0.5).2.2 = 2
      ∧ stitchPair west east 0.5 = stitchRegardless west east 0.5 := by
  intro west east
  have corners : ∀ p ∈ west.polygons, ∀ corner ∈ p.positions.toList,
      (le west.bounds.low.x corner.x = true ∧ le corner.x west.bounds.high.x = true)
        ∧ (le west.bounds.low.y corner.y = true ∧ le corner.y west.bounds.high.y = true)
        ∧ (le west.bounds.low.z corner.z = true ∧ le corner.z west.bounds.high.z = true) := by
    decide +kernel
  have inBox : west.LiesInBox := fun p member corner isCorner =>
    Axis.forall_iff.mpr (corners p member corner isCorner)
  exact ⟨inBox, by decide +kernel, stitchPair_eq_stitchRegardless inBox east (-0.5),
    by decide +kernel, by decide +kernel, stitchPair_eq_stitchRegardless inBox east 0.5⟩

end RoomLayout
