import RoomLayout.Proofs.Stitching.Deletion

/-!
# The stitching pass leaves nothing shared

A pair of rooms is visited once, and both rooms go on losing polygons to later
pairs. Losing polygons never makes two rooms share one, so a pair that was
visited stays apart: after the pass no two rooms share a polygon, and a level
without shared polygons is what the pass leaves alone.
-/

namespace RoomLayout

variable {α : Type} [Coordinate α]

namespace Room

/-- A room that is left when another one loses polygons. -/
def IsLeftOf (left room : Room α) : Prop := ∃ test, left = room.keep test

namespace IsLeftOf

theorem refl (room : Room α) : IsLeftOf room room :=
  ⟨fun _ => true, (keep_of_forall fun _ _ => rfl).symm⟩

theorem trans {last middle first : Room α} (later : IsLeftOf last middle)
    (earlier : IsLeftOf middle first) : IsLeftOf last first := by
  obtain ⟨second, rfl⟩ := later
  obtain ⟨first, rfl⟩ := earlier
  exact ⟨_, keep_keep _ _ _⟩

/-- A room that lost polygons has no new ones. -/
theorem mem {left room : Room α} (part : IsLeftOf left room) {p : Polygon α}
    (member : p ∈ left.polygons) : p ∈ room.polygons := by
  obtain ⟨test, rfl⟩ := part
  exact (List.mem_filter.mp member).1

/-- A room that lost polygons keeps its box. -/
theorem bounds_eq {left room : Room α} (part : IsLeftOf left room) : left.bounds = room.bounds := by
  obtain ⟨test, rfl⟩ := part
  rfl

end IsLeftOf

end Room

/-- Only the boxes of two rooms decide which polygons they share. -/
theorem Shared.of_bounds_eq {a a' b b' : Room α} {tolerance : α} {p q : Polygon α}
    (first : a'.bounds = a.bounds) (second : b'.bounds = b.bounds)
    (shared : Shared a' b' tolerance p q) : Shared a b tolerance p q := by
  obtain ⟨touching, firstInside, secondInside, coincident⟩ := shared
  rw [first] at touching secondInside
  rw [second] at touching firstInside
  exact ⟨touching, firstInside, secondInside, coincident⟩

/-- Two rooms, the first one placed earlier, that share no polygon. -/
def Apart (a b : Room α) (tolerance : α) : Prop :=
  ∀ p ∈ a.polygons, ∀ q ∈ b.polygons, ¬ Shared a b tolerance p q

/-- Rooms that are apart stay so whatever either of them loses. -/
theorem Apart.of_isLeftOf {a a' b b' : Room α} {tolerance : α} (apart : Apart a b tolerance)
    (first : a'.IsLeftOf a) (second : b'.IsLeftOf b) : Apart a' b' tolerance := by
  intro p inFirst q inSecond shared
  exact apart p (first.mem inFirst) q (second.mem inSecond)
    (shared.of_bounds_eq first.bounds_eq second.bounds_eq)

/-- A stitching step only takes polygons away from the first room. -/
theorem stitchPair_first_isLeftOf (a b : Room α) (tolerance : α) :
    (stitchPair a b tolerance).1.IsLeftOf a := by
  rw [stitchPair_eq]
  exact ⟨_, rfl⟩

/-- A stitching step only takes polygons away from the second room. -/
theorem stitchPair_second_isLeftOf (a b : Room α) (tolerance : α) :
    (stitchPair a b tolerance).2.1.IsLeftOf b := by
  rw [stitchPair_eq]
  exact ⟨_, rfl⟩

/-- After a stitching step its two rooms are apart. -/
theorem apart_stitchPair (a b : Room α) (tolerance : α) :
    Apart (stitchPair a b tolerance).1 (stitchPair a b tolerance).2.1 tolerance := by
  intro p inFirst q inSecond shared
  have sharedBefore : Shared a b tolerance p q := shared.of_bounds_eq
    (stitchPair_first_isLeftOf a b tolerance).bounds_eq
    (stitchPair_second_isLeftOf a b tolerance).bounds_eq
  have wasInSecond := (stitchPair_second_isLeftOf a b tolerance).mem inSecond
  have lost := isLostByFirst_iff.mpr ⟨q, wasInSecond, sharedBefore⟩
  rw [stitchPair_eq] at inFirst
  exact Room.not_mem_polygons_keep (by rw [lost]; rfl) inFirst

/-- Rooms that are apart lose nothing to each other. -/
theorem stitchPair_of_apart {a b : Room α} {tolerance : α} (apart : Apart a b tolerance) :
    stitchPair a b tolerance = (a, b, 0) := by
  have first : ∀ p ∈ a.polygons, isLostByFirst a b tolerance p = false := by
    intro p inFirst
    exact decide_eq_false fun ⟨q, inSecond, shared⟩ => apart p inFirst q inSecond shared
  have second : ∀ q ∈ b.polygons, isLostBySecond a b tolerance q = false := by
    intro q inSecond
    exact decide_eq_false fun ⟨p, inFirst, shared⟩ => apart p inFirst q inSecond shared
  rw [stitchPair_eq, Room.keep_of_forall fun p member => by rw [first p member]; rfl,
    Room.keep_of_forall fun q member => by rw [second q member]; rfl,
    List.countP_eq_zero.mpr fun p member => by simp [first p member],
    List.countP_eq_zero.mpr fun q member => by simp [second q member]]

namespace Level

/-- A level in which no two rooms share a polygon. -/
def IsStitched (tolerance : α) (level : Level α) : Prop :=
  level.Pairwise fun a b => Apart a b tolerance

/-- Every room that is left in a level comes from a room of the level. -/
theorem exists_isLeftOf_of_mem_keep {test : Nat → Polygon α → Bool} {level : Level α}
    {room : Room α} (member : room ∈ level.keep test) : ∃ origin ∈ level, room.IsLeftOf origin := by
  obtain ⟨position, inRange, rfl⟩ := List.mem_mapIdx.mp member
  exact ⟨level[position], List.getElem_mem inRange, test position, rfl⟩

/-- A row of steps only takes polygons away from the first room. -/
theorem stitchFirst_isLeftOf (room : Room α) (tolerance : α) (later : Level α) :
    (stitchFirst room tolerance later).1.IsLeftOf room := by
  induction later generalizing room with
  | nil => exact .refl room
  | cons next later inductionHypothesis =>
    exact (inductionHypothesis (stitchPair room next tolerance).1).trans
      (stitchPair_first_isLeftOf room next tolerance)

/-- After a row of steps the room is apart from each of the later ones. -/
theorem apart_stitchFirst (room : Room α) (tolerance : α) (later : Level α) :
    ∀ next ∈ (stitchFirst room tolerance later).2.1,
      Apart (stitchFirst room tolerance later).1 next tolerance := by
  induction later generalizing room with
  | nil => exact fun next member => absurd member List.not_mem_nil
  | cons next later inductionHypothesis =>
    let stitched := stitchPair room next tolerance
    intro other member
    rcases List.mem_cons.mp member with rfl | inLater
    · -- The later steps of the row take more from the room, and nothing from `next`.
      exact (apart_stitchPair room next tolerance).of_isLeftOf
        (stitchFirst_isLeftOf stitched.1 tolerance later) (.refl _)
    · exact inductionHypothesis stitched.1 other inLater

/-- A row of steps between rooms that are apart changes nothing. -/
theorem stitchFirst_of_apart {room : Room α} {tolerance : α} {later : Level α}
    (apart : ∀ next ∈ later, Apart room next tolerance) :
    stitchFirst room tolerance later = (room, later, 0) := by
  induction later with
  | nil => rfl
  | cons next later inductionHypothesis =>
    have rest := inductionHypothesis fun other member => apart other (List.mem_cons_of_mem _ member)
    rw [stitchFirst, stitchPair_of_apart (apart next List.mem_cons_self)]
    simp only [rest]

/-- After the pass no two rooms share a polygon. -/
theorem isStitched_stitch (tolerance : α) (level : Level α) :
    IsStitched tolerance (level.stitch tolerance).1 := by
  fun_induction stitch tolerance level with
  | case1 => exact .nil
  | case2 room later swept rest inductionHypothesis =>
    refine .cons (fun other member => ?_) inductionHypothesis
    obtain ⟨test, restEq, _⟩ := stitch_eq_keep tolerance swept.2.1
    simp only [rest, restEq] at member
    obtain ⟨origin, inSwept, isLeft⟩ := exists_isLeftOf_of_mem_keep member
    exact (apart_stitchFirst room tolerance later origin inSwept).of_isLeftOf (.refl _) isLeft

/-- The pass leaves a level alone in which no two rooms share a polygon. -/
theorem stitch_of_isStitched {tolerance : α} {level : Level α}
    (stitched : IsStitched tolerance level) : level.stitch tolerance = (level, 0) := by
  induction stitched with
  | nil => exact stitch_nil tolerance
  | cons apart _ inductionHypothesis =>
    rw [stitch_cons, stitchFirst_of_apart apart]
    simp only [inductionHypothesis]

/-- Stitching is exhaustive: in the level it leaves no earlier room shares a
polygon with a later one, so stitching that level again deletes nothing and
gives it back as it is. -/
theorem stitch_exhaustive (tolerance : α) (level : Level α) :
    ((level.stitch tolerance).1.Pairwise fun a b =>
        ∀ p ∈ a.polygons, ∀ q ∈ b.polygons, ¬ Shared a b tolerance p q)
      ∧ (level.stitch tolerance).1.stitch tolerance = ((level.stitch tolerance).1, 0) :=
  ⟨isStitched_stitch tolerance level, stitch_of_isStitched (isStitched_stitch tolerance level)⟩

end Level

end RoomLayout
