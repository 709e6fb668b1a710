import RoomLayout.Room.Stitching

/-!
# The pass as a run of steps

Stitching a level is a double loop over its positions: every position is paired
with each later one, and a step stitches the two rooms that stand there by then.
`stitch_eq_stitchAlong` says that the pass, which is defined by recursion on the
rooms, is the run of these steps in this order. Facts about single steps carry
over to the pass through it.
-/

namespace RoomLayout.Level

variable {α : Type} [Coordinate α]

/-- The pairs of positions below `count`, the earlier one first, in the order in
which the pass visits them. -/
def pairs (count : Nat) : List (Nat × Nat) :=
  (List.range count).flatMap fun i => (List.range' (i + 1) (count - (i + 1))).map fun j => (i, j)

/-- Stitch the rooms at two positions, and tell how many polygons were deleted. -/
def stitchAt (tolerance : α) (level : Level α) (pair : Nat × Nat) : Level α × Nat :=
  match level[pair.1]?, level[pair.2]? with
  | some a, some b =>
    let (a, b, removed) := stitchPair a b tolerance
    ((level.set pair.1 a).set pair.2 b, removed)
  | _, _ => (level, 0)

/-- Stitch at one pair of positions after the other. -/
def stitchAlong (tolerance : α) : List (Nat × Nat) → Level α → Level α × Nat
  | [], level => (level, 0)
  | pair :: pairs, level =>
    let (level, removed) := stitchAt tolerance level pair
    let (level, removedLater) := stitchAlong tolerance pairs level
    (level, removed + removedLater)

/-- The pass pairs positions in ascending order and leaves the level's range
neither below nor above. -/
theorem mem_pairs {count i j : Nat} : (i, j) ∈ pairs count ↔ i < j ∧ j < count := by
  simp only [pairs, List.mem_flatMap, List.mem_range, List.mem_map, List.mem_range'_1,
    Prod.mk.injEq]
  constructor
  · rintro ⟨i, inRange, j, bounds, rfl, rfl⟩
    omega
  · rintro ⟨ascending, inRange⟩
    exact ⟨i, by omega, j, by omega, rfl, rfl⟩

/-- The pairs below a successor: those of the first position, then the pairs
that leave it out. -/
theorem pairs_succ (count : Nat) :
    pairs (count + 1) = (List.range' 1 count).map (fun j => (0, j))
      ++ (pairs count).map fun pair => (pair.1 + 1, pair.2 + 1) := by
  have row : ∀ i, (List.range' (i + 1 + 1) (count + 1 - (i + 1 + 1))).map (fun j => (i + 1, j))
      = ((List.range' (i + 1) (count - (i + 1))).map fun j => (i, j)).map
          fun pair => (pair.1 + 1, pair.2 + 1) := by
    intro i
    rw [Nat.add_sub_add_right, Nat.add_comm (i + 1) 1, ← List.map_add_range', List.map_map,
      List.map_map]
    apply List.map_congr_left
    intro j _
    simp [Nat.add_comm]
  rw [pairs, List.range_succ_eq_map, List.flatMap_cons, List.flatMap_map, pairs, List.map_flatMap]
  simp only [Nat.zero_add, Nat.add_sub_cancel, Nat.succ_eq_add_one, row]

theorem stitchAlong_append (tolerance : α) (earlier later : List (Nat × Nat)) (level : Level α) :
    stitchAlong tolerance (earlier ++ later) level =
      let first := stitchAlong tolerance earlier level
      let second := stitchAlong tolerance later first.1
      (second.1, first.2 + second.2) := by
  induction earlier generalizing level with
  | nil => simp [stitchAlong]
  | cons pair earlier inductionHypothesis =>
    simp [stitchAlong, inductionHypothesis, Nat.add_assoc]

theorem stitchAlong_append_singleton (tolerance : α) (steps : List (Nat × Nat))
    (pair : Nat × Nat) (level : Level α) :
    (stitchAlong tolerance (steps ++ [pair]) level).1
      = (stitchAt tolerance (stitchAlong tolerance steps level).1 pair).1 := by
  rw [stitchAlong_append]
  rfl

/-- A step that is taken is taken a first time. -/
theorem exists_first_of_mem {steps : List (Nat × Nat)} {pair : Nat × Nat} (member : pair ∈ steps) :
    ∃ earlier, earlier ++ [pair] <+: steps ∧ pair ∉ earlier := by
  obtain ⟨earlier, later, rfl, first⟩ := List.eq_append_cons_of_mem member
  exact ⟨earlier, ⟨later, by rw [List.append_assoc, List.singleton_append]⟩, first⟩

/-- The order in which the pass takes its steps. -/
def Precedes (pair pair' : Nat × Nat) : Prop :=
  pair.1 < pair'.1 ∨ pair.1 = pair'.1 ∧ pair.2 < pair'.2

theorem pairwise_pairs (count : Nat) : (pairs count).Pairwise Precedes := by
  rw [pairs, List.pairwise_flatMap]
  refine ⟨fun i _ => ?row, List.pairwise_lt_range.imp fun {i i'} ascending => ?rows⟩
  case row =>
    rw [List.pairwise_map]
    exact (List.pairwise_lt_range' 1).imp fun ascending => .inr ⟨rfl, ascending⟩
  case rows =>
    intro pair member pair' member'
    obtain ⟨j, -, rfl⟩ := List.mem_map.mp member
    obtain ⟨j', -, rfl⟩ := List.mem_map.mp member'
    exact .inl ascending

/-- The steps before a step are those that precede it. -/
theorem mem_earlier_of_precedes {count : Nat} {earlier : List (Nat × Nat)} {pair pair' : Nat × Nat}
    (before : earlier ++ [pair] <+: pairs count) (member : pair' ∈ pairs count)
    (precedes : Precedes pair' pair) : pair' ∈ earlier := by
  obtain ⟨later, split⟩ := before
  have ordered := pairwise_pairs count
  rw [← split, List.append_assoc, List.singleton_append] at ordered member
  rcases List.mem_append.mp member with inEarlier | notEarlier
  · exact inEarlier
  · have tail := (List.pairwise_cons.mp (List.pairwise_append.mp ordered).2.1).1
    rcases List.mem_cons.mp notEarlier with rfl | inLater
    · unfold Precedes at precedes
      omega
    · have after := tail pair' inLater
      unfold Precedes at precedes after
      omega

theorem ascending_of_isPrefix {count : Nat} {steps : List (Nat × Nat)}
    (part : steps <+: pairs count) : ∀ pair ∈ steps, pair.1 < pair.2 :=
  fun _ member => (mem_pairs.mp (part.subset member)).1

/-- Steps that leave out the first position leave the first room alone. -/
theorem stitchAt_cons_succ (tolerance : α) (room : Room α) (level : Level α) (pair : Nat × Nat) :
    stitchAt tolerance (room :: level) (pair.1 + 1, pair.2 + 1) =
      (room :: (stitchAt tolerance level pair).1, (stitchAt tolerance level pair).2) := by
  simp only [stitchAt, List.getElem?_cons_succ]
  cases level[pair.1]? with
  | none => rfl
  | some a =>
    cases level[pair.2]? with
    | none => rfl
    | some b => rfl

theorem stitchAlong_map_succ (tolerance : α) (pairs : List (Nat × Nat)) (room : Room α)
    (level : Level α) :
    stitchAlong tolerance (pairs.map fun pair => (pair.1 + 1, pair.2 + 1)) (room :: level) =
      (room :: (stitchAlong tolerance pairs level).1, (stitchAlong tolerance pairs level).2) := by
  induction pairs generalizing level with
  | nil => rfl
  | cons pair pairs inductionHypothesis =>
    simp only [List.map_cons, stitchAlong, stitchAt_cons_succ, inductionHypothesis]

/-- The steps between the first position and those from `done.length + 1` on are
the row of the first room over the rooms that stand there. -/
theorem stitchAlong_row (tolerance : α) (room : Room α) (done later : Level α) :
    stitchAlong tolerance ((List.range' (done.length + 1) later.length).map fun j => (0, j))
        (room :: (done ++ later)) =
      let swept := stitchFirst room tolerance later
      (swept.1 :: (done ++ swept.2.1), swept.2.2) := by
  induction later generalizing room done with
  | nil => rfl
  | cons next later inductionHypothesis =>
    let stitched := stitchPair room next tolerance
    have step : stitchAt tolerance (room :: (done ++ next :: later)) (0, done.length + 1) =
        (stitched.1 :: ((done ++ [stitched.2.1]) ++ later), stitched.2.2) := by
      simp [stitchAt, stitched]
    have rest := inductionHypothesis stitched.1 (done ++ [stitched.2.1])
    rw [List.length_append, List.length_singleton] at rest
    rw [List.length_cons, List.range'_succ, List.map_cons, stitchAlong, step]
    simp only [rest]
    simp only [stitchFirst_cons, stitched, List.append_assoc, List.singleton_append]

/-- The pass is the run of its steps over all pairs of positions. -/
theorem stitch_eq_stitchAlong (tolerance : α) (level : Level α) :
    level.stitch tolerance = stitchAlong tolerance (pairs level.length) level := by
  fun_induction stitch tolerance level with
  | case1 => rfl
  | case2 room later swept rest inductionHypothesis =>
    have firstRow : stitchAlong tolerance ((List.range' 1 later.length).map fun j => (0, j))
        (room :: later) = (swept.1 :: swept.2.1, swept.2.2) :=
      stitchAlong_row tolerance room [] later
    have sameLength : swept.2.1.length = later.length := length_stitchFirst room tolerance later
    rw [List.length_cons, pairs_succ, stitchAlong_append, firstRow]
    simp only [stitchAlong_map_succ]
    rw [← sameLength, ← inductionHypothesis]

end RoomLayout.Level
