import Mathlib.Data.List.Induction
import Mathlib.Data.List.Infix
import RoomLayout.Proofs.Stitching.Fixpoint

/-!
# What survives stitching

A step judges two rooms as they are before it, but the pass takes its steps one after the
other. A polygon is deleted when its room is visited together with a room that still has a
counterpart of it. If all counterparts went earlier, together with polygons of other rooms,
the polygon stays.
-/

namespace RoomLayout.Level

variable {α : Type} [Coordinate α]

/-- The room at a position has a polygon. -/
def HasAt (level : Level α) (position : Nat) (p : Polygon α) : Prop :=
  ∃ room, level[position]? = some room ∧ p ∈ room.polygons

/-- Two polygons match at two positions: the boxes of the rooms there touch, each polygon
lies inside the box of the other room, and the two coincide. The earlier room is the one
that is asked, and whether the rooms have these polygons does not matter. -/
def Matches (level : Level α) (tolerance : α) (i : Nat) (p : Polygon α) (j : Nat)
    (q : Polygon α) : Prop :=
  ∃ a b, level[i]? = some a ∧ level[j]? = some b
    ∧ (i < j ∧ Shared a b tolerance p q ∨ j < i ∧ Shared b a tolerance q p)

/-- A polygon has a counterpart: a polygon of another room that matches it. -/
def HasCounterpart (level : Level α) (tolerance : α) (i : Nat) (p : Polygon α) : Prop :=
  ∃ j q, level.Matches tolerance i p j q ∧ level.HasAt j q

/-- The step on the rooms at two positions. -/
def visit (i j : Nat) : Nat × Nat := (min i j, max i j)

/-- A polygon meets a counterpart during the pass: its room is visited together with a room
in which the steps before have left one. -/
def MeetsCounterpart (level : Level α) (tolerance : α) (i : Nat) (p : Polygon α) : Prop :=
  ∃ earlier j q, earlier ++ [visit i j] <+: pairs level.length
    ∧ level.Matches tolerance i p j q ∧ (stitchAlong tolerance earlier level).1.HasAt j q

theorem visit_comm (i j : Nat) : visit i j = visit j i := by
  rw [visit, visit, Nat.min_comm, Nat.max_comm]

/-- A step visits a position in the company of the other one. -/
theorem visit_eq_iff {i j first second : Nat} (ascending : first < second) :
    visit i j = (first, second) ↔ i = first ∧ j = second ∨ i = second ∧ j = first := by
  rw [visit, Prod.mk.injEq]
  omega

section Step

variable {tolerance : α} {level : Level α} {i j : Nat} {p q : Polygon α}

theorem hasAt_iff {room : Room α} (found : level[i]? = some room) :
    level.HasAt i p ↔ p ∈ room.polygons := by
  simp only [HasAt, found, Option.some.injEq, exists_eq_left']

theorem hasAt_keep {test : Nat → Polygon α → Bool} :
    (level.keep test).HasAt i p ↔ level.HasAt i p ∧ test i p = true := by
  simp only [HasAt, getElem?_keep, Option.map_eq_some_iff]
  constructor
  · rintro ⟨_, ⟨room, found, rfl⟩, member⟩
    obtain ⟨was, passes⟩ := List.mem_filter.mp member
    exact ⟨⟨room, found, was⟩, passes⟩
  · rintro ⟨⟨room, found, was⟩, passes⟩
    exact ⟨_, ⟨room, found, rfl⟩, List.mem_filter.mpr ⟨was, passes⟩⟩

theorem Matches.symm (matched : level.Matches tolerance i p j q) :
    level.Matches tolerance j q i p := by
  obtain ⟨a, b, atFirst, atSecond, shared⟩ := matched
  exact ⟨b, a, atSecond, atFirst, shared.symm⟩

/-- A room does not match itself. -/
theorem Matches.ne (matched : level.Matches tolerance i p j q) : i ≠ j := by
  obtain ⟨a, b, -, -, ⟨ascending, -⟩ | ⟨descending, -⟩⟩ := matched
  · exact Nat.ne_of_lt ascending
  · exact Nat.ne_of_gt descending

/-- Positions at which polygons match are visited. -/
theorem Matches.visit_mem_pairs (matched : level.Matches tolerance i p j q) :
    visit i j ∈ pairs level.length := by
  obtain ⟨a, b, atFirst, atSecond, shared⟩ := matched
  have firstInRange := (List.getElem?_eq_some_iff.mp atFirst).1
  have secondInRange := (List.getElem?_eq_some_iff.mp atSecond).1
  rw [visit, mem_pairs]
  rcases shared with ⟨ascending, -⟩ | ⟨descending, -⟩
  · omega
  · omega

/-- What matches is what the step on the two rooms takes for shared. -/
theorem matches_iff_shared {a b : Room α} (ascending : i < j) (firstRoom : level[i]? = some a)
    (secondRoom : level[j]? = some b) :
    level.Matches tolerance i p j q ↔ Shared a b tolerance p q := by
  constructor
  · rintro ⟨_, _, atFirst, atSecond, ⟨_, shared⟩ | ⟨descending, _⟩⟩
    · obtain rfl := Option.some.inj (atFirst.symm.trans firstRoom)
      obtain rfl := Option.some.inj (atSecond.symm.trans secondRoom)
      exact shared
    · omega
  · exact fun shared => ⟨a, b, firstRoom, secondRoom, .inl ⟨ascending, shared⟩⟩

theorem shared_keep {a b : Room α} {test test' : Polygon α → Bool} :
    Shared (a.keep test) (b.keep test') tolerance p q ↔ Shared a b tolerance p q :=
  ⟨.of_bounds_eq (Room.bounds_keep test a) (Room.bounds_keep test' b),
    .of_bounds_eq (Room.bounds_keep test a).symm (Room.bounds_keep test' b).symm⟩

/-- Only the boxes of rooms decide what matches. -/
theorem matches_keep {test : Nat → Polygon α → Bool} :
    (level.keep test).Matches tolerance i p j q ↔ level.Matches tolerance i p j q := by
  simp only [Matches, getElem?_keep, Option.map_eq_some_iff]
  constructor
  · rintro ⟨_, _, ⟨a, atFirst, rfl⟩, ⟨b, atSecond, rfl⟩, shared⟩
    simp only [shared_keep] at shared
    exact ⟨a, b, atFirst, atSecond, shared⟩
  · rintro ⟨a, b, atFirst, atSecond, shared⟩
    refine ⟨_, _, ⟨a, atFirst, rfl⟩, ⟨b, atSecond, rfl⟩, ?_⟩
    simp only [shared_keep]
    exact shared

/-- A step on two rooms drops from either what matches a polygon of the other. -/
theorem keptByStep_eq_false_iff {pair : Nat × Nat} {a b : Room α} (ascending : pair.1 < pair.2)
    (firstRoom : level[pair.1]? = some a) (secondRoom : level[pair.2]? = some b) :
    keptByStep a b tolerance pair i p = false
      ↔ ∃ j q, visit i j = pair ∧ level.Matches tolerance i p j q ∧ level.HasAt j q := by
  obtain ⟨first, second⟩ := pair
  simp only [visit_eq_iff ascending, keptByStep]
  have distinct := Nat.ne_of_lt ascending
  split
  · next isFirst =>
    subst isFirst
    rw [Bool.not_eq_false', isLostByFirst_iff]
    constructor
    · rintro ⟨q, member, shared⟩
      exact ⟨second, q, .inl ⟨rfl, rfl⟩,
        (matches_iff_shared ascending firstRoom secondRoom).mpr shared,
        (hasAt_iff secondRoom).mpr member⟩
    · rintro ⟨j, q, ⟨-, rfl⟩ | ⟨same, -⟩, matched, present⟩
      · exact ⟨q, (hasAt_iff secondRoom).mp present,
          (matches_iff_shared ascending firstRoom secondRoom).mp matched⟩
      · exact absurd same distinct
  · next isFirst =>
    split
    · next isSecond =>
      subst isSecond
      rw [Bool.not_eq_false', isLostBySecond_iff]
      constructor
      · rintro ⟨q, member, shared⟩
        exact ⟨first, q, .inr ⟨rfl, rfl⟩,
          ((matches_iff_shared ascending firstRoom secondRoom).mpr shared).symm,
          (hasAt_iff firstRoom).mpr member⟩
      · rintro ⟨j, q, ⟨same, -⟩ | ⟨-, rfl⟩, matched, present⟩
        · exact absurd same.symm distinct
        · exact ⟨q, (hasAt_iff firstRoom).mp present,
            (matches_iff_shared ascending firstRoom secondRoom).mp matched.symm⟩
    · next isSecond =>
      refine iff_of_false (fun lost => Bool.noConfusion lost) ?_
      rintro ⟨j, q, ⟨same, -⟩ | ⟨same, -⟩, -⟩
      · exact isFirst same
      · exact isSecond same

/-- What a step leaves in a room is what no polygon of the room that it visits in its
company matches. -/
theorem hasAt_stitchAt_iff {pair : Nat × Nat} (ascending : pair.1 < pair.2) :
    (stitchAt tolerance level pair).1.HasAt i p ↔ level.HasAt i p
      ∧ ∀ j q, visit i j = pair → level.Matches tolerance i p j q → ¬ level.HasAt j q := by
  unfold stitchAt
  split
  · next a b firstRoom secondRoom =>
    have kept : keptByStep a b tolerance pair i p = false ↔ _ :=
      keptByStep_eq_false_iff ascending firstRoom secondRoom
    change HasAt ((level.set pair.1 (stitchPair a b tolerance).1).set pair.2
      (stitchPair a b tolerance).2.1) i p ↔ _
    rw [set_set_eq_keep (Nat.ne_of_lt ascending) firstRoom secondRoom, hasAt_keep,
      ← Bool.not_eq_false, kept]
    simp only [not_exists, not_and]
  · next noRooms =>
    refine ⟨fun present => ⟨present, ?_⟩, And.left⟩
    rintro j q visited ⟨a, b, atFirst, atSecond, -⟩ -
    rcases (visit_eq_iff ascending).mp visited with ⟨rfl, rfl⟩ | ⟨rfl, rfl⟩
    · exact noRooms a b atFirst atSecond
    · exact noRooms b a atSecond atFirst

end Step

section Run

variable {tolerance : α} {level : Level α} {steps : List (Nat × Nat)} {i j : Nat}
  {p q : Polygon α}

theorem matches_stitchAlong (ascending : ∀ pair ∈ steps, pair.1 < pair.2) :
    (stitchAlong tolerance steps level).1.Matches tolerance i p j q
      ↔ level.Matches tolerance i p j q := by
  obtain ⟨test, left, -⟩ :=
    stitchAlong_eq_keep tolerance (fun pair member => Nat.ne_of_lt (ascending pair member)) level
  rw [left, matches_keep]

/-- A run of steps leaves in a room what no polygon matches that a step finds in the room
it visits in its company. Each step judges the rooms as the steps before it left them. -/
theorem hasAt_stitchAlong_iff (ascending : ∀ pair ∈ steps, pair.1 < pair.2) :
    (stitchAlong tolerance steps level).1.HasAt i p ↔ level.HasAt i p
      ∧ ∀ earlier j q, earlier ++ [visit i j] <+: steps → level.Matches tolerance i p j q →
        ¬ (stitchAlong tolerance earlier level).1.HasAt j q := by
  induction steps using List.reverseRecOn with
  | nil => simp [stitchAlong]
  | append_singleton steps pair inductionHypothesis =>
    have ascendingSteps : ∀ pair ∈ steps, pair.1 < pair.2 := fun pair member =>
      ascending pair (List.mem_append_left _ member)
    have ascendingPair : pair.1 < pair.2 :=
      ascending pair (List.mem_append_right _ (List.mem_singleton_self pair))
    rw [stitchAlong_append_singleton, hasAt_stitchAt_iff ascendingPair,
      inductionHypothesis ascendingSteps, and_assoc]
    refine and_congr_right fun present => ?_
    simp only [List.prefix_concat_iff, matches_stitchAlong ascendingSteps]
    constructor
    · rintro ⟨before, last⟩ earlier j q (whole | part) matched
      · obtain ⟨rfl, visited⟩ := List.append_inj' whole rfl
        exact last j q (List.singleton_inj.mp visited) matched
      · exact before earlier j q part matched
    · intro all
      refine ⟨fun earlier j q part => all earlier j q (.inr part), ?_⟩
      rintro j q rfl
      exact all steps j q (.inl rfl)

/-- Steps take polygons away and add none. -/
theorem HasAt.of_stitchAlong (ascending : ∀ pair ∈ steps, pair.1 < pair.2)
    (present : (stitchAlong tolerance steps level).1.HasAt i p) : level.HasAt i p :=
  ((hasAt_stitchAlong_iff ascending).mp present).1

end Run

section Pass

variable {tolerance : α} {level : Level α} {i j : Nat} {p q : Polygon α}

/-- A polygon stays if it meets no counterpart. -/
theorem hasAt_stitch_iff :
    (level.stitch tolerance).1.HasAt i p
      ↔ level.HasAt i p ∧ ¬ level.MeetsCounterpart tolerance i p := by
  rw [stitch_eq_stitchAlong, hasAt_stitchAlong_iff (ascending_of_isPrefix (List.prefix_refl _))]
  simp only [MeetsCounterpart, not_exists, not_and]

/-- What is met during the pass was there before it. -/
theorem MeetsCounterpart.hasCounterpart (meets : level.MeetsCounterpart tolerance i p) :
    level.HasCounterpart tolerance i p := by
  obtain ⟨earlier, j, q, visited, matched, still⟩ := meets
  have part : earlier <+: pairs level.length := (List.prefix_append _ _).trans visited
  exact ⟨j, q, matched, still.of_stitchAlong (ascending_of_isPrefix part)⟩

/-- A counterpart that matches in no third room waits to be met. -/
theorem meetsCounterpart_of_paired (matched : level.Matches tolerance i p j q)
    (present : level.HasAt j q)
    (paired : ∀ k r, level.Matches tolerance j q k r → level.HasAt k r → k = i) :
    level.MeetsCounterpart tolerance i p := by
  obtain ⟨earlier, visited, firstVisit⟩ := exists_first_of_mem matched.visit_mem_pairs
  have part : earlier <+: pairs level.length := (List.prefix_append _ _).trans visited
  refine ⟨earlier, j, q, visited, matched, ?_⟩
  refine (hasAt_stitchAlong_iff (ascending_of_isPrefix part)).mpr ⟨present, ?_⟩
  intro first k r met matchedToo still
  have partFirst : first <+: pairs level.length := (List.prefix_append _ _).trans (met.trans part)
  have was := still.of_stitchAlong (ascending_of_isPrefix partFirst)
  obtain rfl := paired k r matchedToo was
  -- So the two rooms would have met before their first visit.
  rw [visit_comm] at met
  exact firstVisit (met.subset (List.mem_append_right _ (List.mem_singleton_self _)))

end Pass

end RoomLayout.Level
