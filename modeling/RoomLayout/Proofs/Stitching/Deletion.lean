import RoomLayout.Proofs.Stitching.PairStep
import RoomLayout.Proofs.Stitching.Steps

/-!
# What stitching deletes

A step deletes a polygon only on account of a counterpart in the other room,
which goes in the same step, so no wall is opened from one side only. The pass
is a run of steps (`stitch_eq_stitchAlong`): what it deletes is deleted by one of
them, and it neither reorders nor changes anything else.
-/

namespace RoomLayout

variable {α : Type} [Coordinate α]

/-- A step on two rooms that deletes `p` from the first and its counterpart `q`
from the second. -/
structure DeletedTogether (a b : Room α) (tolerance : α) (p q : Polygon α) : Prop where
  shared : Shared a b tolerance p q
  in_first : p ∈ a.polygons
  in_second : q ∈ b.polygons
  gone_from_first : p ∉ (stitchPair a b tolerance).1.polygons
  gone_from_second : q ∉ (stitchPair a b tolerance).2.1.polygons

/-- Polygons that two rooms share are deleted together by the step on them. -/
theorem deletedTogether_of_shared {a b : Room α} {tolerance : α} {p q : Polygon α}
    (inFirst : p ∈ a.polygons) (inSecond : q ∈ b.polygons) (shared : Shared a b tolerance p q) :
    DeletedTogether a b tolerance p q := by
  have lostByFirst := isLostByFirst_iff.mpr ⟨q, inSecond, shared⟩
  have lostBySecond := isLostBySecond_iff.mpr ⟨p, inFirst, shared⟩
  refine ⟨shared, inFirst, inSecond, ?_, ?_⟩
  · rw [stitchPair_eq]
    exact Room.not_mem_polygons_keep (by rw [lostByFirst]; rfl)
  · rw [stitchPair_eq]
    exact Room.not_mem_polygons_keep (by rw [lostBySecond]; rfl)

/-- Between touching rooms the boxes need no further look: what counts is which
polygons lie inside the other room's box and coincide. -/
theorem isLostByFirst_of_touching {a b : Room α} {tolerance : α}
    (touching : a.bounds.intersects b.bounds tolerance = true) (p : Polygon α) :
    isLostByFirst a b tolerance p =
      (p.isWithin b.bounds tolerance
        && b.polygons.any fun q => q.isWithin a.bounds tolerance && p.coincides q tolerance) := by
  rw [Bool.eq_iff_iff, isLostByFirst_iff, Bool.and_eq_true, List.any_eq_true]
  constructor
  · rintro ⟨q, member, shared⟩
    refine ⟨shared.first_inside, q, member, ?_⟩
    rw [shared.second_inside, shared.coincident]
    rfl
  · rintro ⟨inside, q, member, counterpart⟩
    obtain ⟨insideToo, coincident⟩ := Bool.and_eq_true_iff.mp counterpart
    exact ⟨q, member, touching, inside, insideToo, coincident⟩

theorem isLostBySecond_of_touching {a b : Room α} {tolerance : α}
    (touching : a.bounds.intersects b.bounds tolerance = true) (q : Polygon α) :
    isLostBySecond a b tolerance q =
      (q.isWithin a.bounds tolerance
        && a.polygons.any fun p => p.isWithin b.bounds tolerance && p.coincides q tolerance) := by
  rw [Bool.eq_iff_iff, isLostBySecond_iff, Bool.and_eq_true, List.any_eq_true]
  constructor
  · rintro ⟨p, member, shared⟩
    refine ⟨shared.second_inside, p, member, ?_⟩
    rw [shared.first_inside, shared.coincident]
    rfl
  · rintro ⟨insideToo, p, member, counterpart⟩
    obtain ⟨inside, coincident⟩ := Bool.and_eq_true_iff.mp counterpart
    exact ⟨p, member, touching, inside, insideToo, coincident⟩

/-- A step accounts for every polygon: those that are left and those it counts
are those there were. -/
theorem length_stitchPair (a b : Room α) (tolerance : α) :
    let stitched := stitchPair a b tolerance
    stitched.1.polygons.length + stitched.2.1.polygons.length + stitched.2.2
      = a.polygons.length + b.polygons.length := by
  have first := List.length_eq_countP_add_countP (isLostByFirst a b tolerance) (l := a.polygons)
  have second := List.length_eq_countP_add_countP (isLostBySecond a b tolerance) (l := b.polygons)
  simp only [Bool.not_eq_true, Bool.decide_eq_false] at first second
  simp only [stitchPair_eq, Room.polygons_keep, ← List.countP_eq_length_filter]
  omega

namespace Level

theorem polygonCount_cons (room : Room α) (later : Level α) :
    polygonCount (room :: later) = room.polygons.length + polygonCount later := rfl

theorem polygonCount_stitchFirst (room : Room α) (tolerance : α) (later : Level α) :
    let swept := stitchFirst room tolerance later
    swept.1.polygons.length + polygonCount swept.2.1 + swept.2.2
      = room.polygons.length + polygonCount later := by
  induction later generalizing room with
  | nil => rfl
  | cons next later inductionHypothesis =>
    have step := length_stitchPair room next tolerance
    have row := inductionHypothesis (stitchPair room next tolerance).1
    simp only [stitchFirst_cons, polygonCount_cons] at step row ⊢
    omega

/-- The pass accounts for every polygon. -/
theorem polygonCount_stitch (tolerance : α) (level : Level α) :
    polygonCount (level.stitch tolerance).1 + (level.stitch tolerance).2 = polygonCount level := by
  fun_induction stitch tolerance level with
  | case1 => rfl
  | case2 room later swept rest inductionHypothesis =>
    have row := polygonCount_stitchFirst room tolerance later
    simp only [polygonCount_cons] at row ⊢
    simp only [swept, rest] at inductionHypothesis ⊢
    omega

/-- Keep, in the room at each position, the polygons that pass the test of that
position, and everything else. -/
def keep (test : Nat → Polygon α → Bool) (level : Level α) : Level α :=
  level.mapIdx fun position room => room.keep (test position)

theorem getElem?_keep (test : Nat → Polygon α → Bool) (level : Level α) (position : Nat) :
    (level.keep test)[position]? = level[position]?.map fun room => room.keep (test position) := by
  rw [keep, List.getElem?_mapIdx]

theorem keep_keep (first second : Nat → Polygon α → Bool) (level : Level α) :
    (level.keep first).keep second =
      level.keep fun position p => first position p && second position p := by
  ext position : 1
  simp only [getElem?_keep, Option.map_map]
  congr 1
  ext room : 1
  exact room.keep_keep _ _

theorem keep_true (level : Level α) : (level.keep fun _ _ => true) = level := by
  ext position : 1
  rw [getElem?_keep]
  cases level[position]? with
  | none => rfl
  | some room => exact congrArg some (Room.keep_of_forall fun _ _ => rfl)

/-- Among steps that are taken one after the other there is one that stitches the
rooms `a` and `b`: they stand at two positions when it is taken. -/
inductive Meets (tolerance : α) (steps : List (Nat × Nat)) (level : Level α) (pair : Nat × Nat)
    (a b : Room α) : Prop where
  | step (earlier later : List (Nat × Nat)) (split : steps = earlier ++ pair :: later)
      (distinct : pair.1 ≠ pair.2)
      (first_room : (stitchAlong tolerance earlier level).1[pair.1]? = some a)
      (second_room : (stitchAlong tolerance earlier level).1[pair.2]? = some b)

namespace Meets

variable {tolerance : α} {steps : List (Nat × Nat)} {level : Level α} {pair : Nat × Nat}
  {a b : Room α}

/-- The first step meets two rooms of the level as it is. -/
theorem head (distinct : pair.1 ≠ pair.2) (firstRoom : level[pair.1]? = some a)
    (secondRoom : level[pair.2]? = some b) : Meets tolerance (pair :: steps) level pair a b :=
  .step [] steps rfl distinct firstRoom secondRoom

/-- What is met after a first step is met by some of all the steps. -/
theorem tail {first : Nat × Nat}
    (met : Meets tolerance steps (stitchAt tolerance level first).1 pair a b) :
    Meets tolerance (first :: steps) level pair a b := by
  obtain ⟨earlier, later, split, distinct, firstRoom, secondRoom⟩ := met
  exact .step (first :: earlier) later (by rw [split, List.cons_append]) distinct firstRoom
    secondRoom

end Meets

/-- Among steps that are taken one after the other there is one that deletes a
polygon from the room at a position, and with it a counterpart from another
room. -/
inductive DeletedInStep (tolerance : α) (steps : List (Nat × Nat)) (level : Level α) :
    Nat → Polygon α → Prop where
  | first {pair a b p q} (met : Meets tolerance steps level pair a b)
      (together : DeletedTogether a b tolerance p q) :
      DeletedInStep tolerance steps level pair.1 p
  | second {pair a b p q} (met : Meets tolerance steps level pair a b)
      (together : DeletedTogether a b tolerance p q) :
      DeletedInStep tolerance steps level pair.2 q

/-- What is deleted after a first step is deleted by some of all the steps. -/
theorem DeletedInStep.tail {tolerance : α} {first : Nat × Nat} {steps : List (Nat × Nat)}
    {level : Level α} {position : Nat} {p : Polygon α}
    (deleted : DeletedInStep tolerance steps (stitchAt tolerance level first).1 position p) :
    DeletedInStep tolerance (first :: steps) level position p := by
  cases deleted with
  | first met together => exact .first met.tail together
  | second met together => exact .second met.tail together

/-- Whatever fails the test of its position is deleted by one of the steps,
together with a counterpart from another room. -/
def DeletesInSteps (tolerance : α) (steps : List (Nat × Nat)) (level : Level α)
    (test : Nat → Polygon α → Bool) : Prop :=
  ∀ position room p, level[position]? = some room → p ∈ room.polygons →
    test position p = false → DeletedInStep tolerance steps level position p

/-- What a step on the rooms `a` and `b` at two positions keeps at any position. -/
def keptByStep (a b : Room α) (tolerance : α) (pair : Nat × Nat) (position : Nat) :
    Polygon α → Bool :=
  if position = pair.1 then fun p => !isLostByFirst a b tolerance p
  else if position = pair.2 then fun q => !isLostBySecond a b tolerance q
  else fun _ => true

/-- Putting back the two rooms of a step keeps what the step keeps, in all rooms. -/
theorem set_set_eq_keep {level : Level α} {pair : Nat × Nat} {a b : Room α} {tolerance : α}
    (distinct : pair.1 ≠ pair.2) (firstRoom : level[pair.1]? = some a)
    (secondRoom : level[pair.2]? = some b) :
    (level.set pair.1 (stitchPair a b tolerance).1).set pair.2 (stitchPair a b tolerance).2.1 =
      level.keep (keptByStep a b tolerance pair) := by
  obtain ⟨firstInRange, firstIs⟩ := List.getElem?_eq_some_iff.mp firstRoom
  obtain ⟨secondInRange, secondIs⟩ := List.getElem?_eq_some_iff.mp secondRoom
  ext position : 1
  simp only [stitchPair_eq, getElem?_keep, List.getElem?_set, List.length_set, keptByStep]
  by_cases isFirst : position = pair.1
  · subst isFirst
    simp [distinct.symm, firstInRange, firstIs]
  · by_cases isSecond : position = pair.2
    · subst isSecond
      simp [isFirst, secondInRange, secondIs]
    · rw [if_neg (Ne.symm isSecond), if_neg (Ne.symm isFirst)]
      simp only [isFirst, isSecond, if_false]
      cases level[position]? with
      | none => rfl
      | some room => exact congrArg some (Room.keep_of_forall fun _ _ => rfl).symm

/-- A step keeps all polygons except those that it deletes together with a
counterpart, whatever steps come after it. -/
theorem stitchAt_eq_keep (tolerance : α) (level : Level α) {pair : Nat × Nat}
    (distinct : pair.1 ≠ pair.2) (steps : List (Nat × Nat)) :
    ∃ test, (stitchAt tolerance level pair).1 = level.keep test
      ∧ DeletesInSteps tolerance (pair :: steps) level test := by
  unfold stitchAt
  split
  · next a b firstRoom secondRoom =>
    refine ⟨keptByStep a b tolerance pair, set_set_eq_keep distinct firstRoom secondRoom, ?_⟩
    intro position room p found member lost
    unfold keptByStep at lost
    split at lost
    · next isFirst =>
      subst isFirst
      obtain rfl : a = room := Option.some.inj (firstRoom.symm.trans found)
      obtain ⟨q, inSecond, shared⟩ := isLostByFirst_iff.mp ((Bool.not_eq_false' _).mp lost)
      exact .first (.head distinct firstRoom secondRoom)
        (deletedTogether_of_shared member inSecond shared)
    · split at lost
      · next isSecond =>
        subst isSecond
        obtain rfl : b = room := Option.some.inj (secondRoom.symm.trans found)
        obtain ⟨q, inFirst, shared⟩ := isLostBySecond_iff.mp ((Bool.not_eq_false' _).mp lost)
        exact .second (.head distinct firstRoom secondRoom)
          (deletedTogether_of_shared inFirst member shared)
      · exact Bool.noConfusion lost
  · exact ⟨fun _ _ => true, (keep_true level).symm, fun _ _ _ _ _ lost => Bool.noConfusion lost⟩

/-- A run of steps keeps all polygons except those that one of its steps deletes
together with a counterpart. -/
theorem stitchAlong_eq_keep (tolerance : α) {steps : List (Nat × Nat)}
    (distinct : ∀ pair ∈ steps, pair.1 ≠ pair.2) (level : Level α) :
    ∃ test, (stitchAlong tolerance steps level).1 = level.keep test
      ∧ DeletesInSteps tolerance steps level test := by
  induction steps generalizing level with
  | nil =>
    exact ⟨fun _ _ => true, (keep_true level).symm, fun _ _ _ _ _ lost => Bool.noConfusion lost⟩
  | cons pair steps inductionHypothesis =>
    obtain ⟨keptFirst, stepEq, lostFirst⟩ :=
      stitchAt_eq_keep tolerance level (distinct pair List.mem_cons_self) steps
    obtain ⟨keptLater, runEq, lostLater⟩ :=
      inductionHypothesis (fun pair member => distinct pair (List.mem_cons_of_mem _ member))
        (stitchAt tolerance level pair).1
    refine ⟨fun position p => keptFirst position p && keptLater position p, ?_, ?_⟩
    · rw [← keep_keep, ← stepEq]
      exact runEq
    · intro position room p found member lost
      cases survives : keptFirst position p with
      | false => exact lostFirst position room p found member survives
      | true =>
        -- The polygon is still there after the first step, so a later one deletes it.
        have foundLater : (stitchAt tolerance level pair).1[position]? =
            some (room.keep (keptFirst position)) := by
          rw [stepEq, getElem?_keep, found]
          rfl
        have memberLater : p ∈ (room.keep (keptFirst position)).polygons :=
          List.mem_filter.mpr ⟨member, survives⟩
        simp only [survives, Bool.true_and] at lost
        exact (lostLater position _ p foundLater memberLater lost).tail

/-- The pass keeps all polygons except those that one of its steps deletes
together with a counterpart. -/
theorem stitch_eq_keep (tolerance : α) (level : Level α) :
    ∃ test, (level.stitch tolerance).1 = level.keep test
      ∧ DeletesInSteps tolerance (pairs level.length) level test := by
  have distinct : ∀ pair ∈ pairs level.length, pair.1 ≠ pair.2 := by
    rintro ⟨i, j⟩ member
    exact Nat.ne_of_lt (mem_pairs.mp member).1
  rw [stitch_eq_stitchAlong]
  exact stitchAlong_eq_keep tolerance distinct level

end Level

/-- What a step on two rooms does, judged on both as they were before it. -/
structure StepDeletesShared (a b : Room α) (tolerance : α) : Prop where
  apart : a.bounds.intersects b.bounds tolerance = false → stitchPair a b tolerance = (a, b, 0)
  first : a.bounds.intersects b.bounds tolerance = true →
    (stitchPair a b tolerance).1 = a.keep fun p =>
      !(p.isWithin b.bounds tolerance
        && b.polygons.any fun q => q.isWithin a.bounds tolerance && p.coincides q tolerance)
  second : a.bounds.intersects b.bounds tolerance = true →
    (stitchPair a b tolerance).2.1 = b.keep fun q =>
      !(q.isWithin a.bounds tolerance
        && a.polygons.any fun p => p.isWithin b.bounds tolerance && p.coincides q tolerance)
  counted : (stitchPair a b tolerance).1.polygons.length
    + (stitchPair a b tolerance).2.1.polygons.length + (stitchPair a b tolerance).2.2
      = a.polygons.length + b.polygons.length

/-- What the pass does to a level. It is the run of its steps; it keeps every
room in its place with its origin, size, box and lights and a part of its
polygons in order; what it deletes, one of the steps deletes together with a
counterpart from another room; and it counts what it deletes. -/
structure PassDeletesShared (level : Level α) (tolerance : α) : Prop where
  steps : level.stitch tolerance = Level.stitchAlong tolerance (Level.pairs level.length) level
  deleted : ∃ test, (level.stitch tolerance).1 = level.keep test
    ∧ Level.DeletesInSteps tolerance (Level.pairs level.length) level test
  counted : (level.stitch tolerance).1.polygonCount + (level.stitch tolerance).2
    = level.polygonCount

/-- Stitching deletes exactly what touching rooms share: each step by the test
that the two rooms as they were before it answer, and the pass by its steps. -/
theorem stitch_deletes_shared (tolerance : α) :
    (∀ a b : Room α, StepDeletesShared a b tolerance)
      ∧ ∀ level : Level α, PassDeletesShared level tolerance := by
  refine ⟨fun a b => ⟨?_, ?_, ?_, length_stitchPair a b tolerance⟩, fun level =>
    ⟨level.stitch_eq_stitchAlong tolerance, level.stitch_eq_keep tolerance,
      level.polygonCount_stitch tolerance⟩⟩
  · intro apart
    rw [stitchPair, apart]
    rfl
  · intro touching
    rw [stitchPair_eq]
    simp only [isLostByFirst_of_touching touching]
  · intro touching
    rw [stitchPair_eq]
    simp only [isLostBySecond_of_touching touching]

end RoomLayout
