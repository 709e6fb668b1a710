import Mathlib.Data.List.Forall2
import Mathlib.Data.List.InsertIdx
import RoomLayout.Proofs.Stitching.Fixpoint
import RoomLayout.Room.Tiling
import RoomLayout.Session.Config

/-!
# Groups of rooms

The pass takes the steps of a level in one order, whatever rooms belong together. If no
room of a group shares a polygon with a room outside it, a step between the two changes
nothing, neither at first nor after the rooms have lost polygons. What is left are the
steps within the group and those outside it, each in the order of a pass of their own.
-/

namespace RoomLayout

variable {α : Type} [Coordinate α]

/-- Rooms whose boxes do not touch share nothing. -/
theorem Apart.of_bounds {a b : Room α} {tolerance : α}
    (apart : a.bounds.intersects b.bounds tolerance = false) : Apart a b tolerance :=
  fun _ _ _ _ shared => Bool.false_ne_true (apart.symm.trans shared.1)

namespace Level

/-- The rooms at the positions of a group, in order. -/
def among (group : Nat → Bool) : Level α → Level α
  | [] => []
  | room :: later =>
    let others := among (fun position => group (position + 1)) later
    if group 0 then room :: others else others

/-- The positions outside a group. -/
def outside (group : Nat → Bool) : Nat → Bool := fun position => !group position

/-- No room of a group shares a polygon with a room outside it. -/
def IsSeparate (tolerance : α) (group : Nat → Bool) (level : Level α) : Prop :=
  ∀ i j a b, i < j → level[i]? = some a → level[j]? = some b → group i ≠ group j →
    Apart a b tolerance

/-- The pass stitches a group and the rooms outside it as if each stood alone. -/
structure StitchesApart (tolerance : α) (group : Nat → Bool) (level : Level α) : Prop where
  inside : (level.stitch tolerance).1.among group = ((level.among group).stitch tolerance).1
  outside : (level.stitch tolerance).1.among (outside group)
    = ((level.among (outside group)).stitch tolerance).1
  counted : (level.stitch tolerance).2
    = ((level.among group).stitch tolerance).2
      + ((level.among (Level.outside group)).stitch tolerance).2

theorem outside_outside (group : Nat → Bool) : outside (outside group) = group := by
  funext position
  exact Bool.not_not (group position)

theorem among_cons_of_inside {group : Nat → Bool} (inside : group 0 = true) (room : Room α)
    (later : Level α) :
    among group (room :: later) = room :: among (fun position => group (position + 1)) later :=
  if_pos inside

theorem among_cons_of_outside {group : Nat → Bool} (isOutside : group 0 = false) (room : Room α)
    (later : Level α) :
    among group (room :: later) = among (fun position => group (position + 1)) later :=
  if_neg (Bool.eq_false_iff.mp isOutside)

section Separate

variable {tolerance : α} {group : Nat → Bool}

/-- What holds of a group and the rooms outside it holds the other way round. -/
theorem IsSeparate.outside {level : Level α} (separate : level.IsSeparate tolerance group) :
    level.IsSeparate tolerance (outside group) :=
  fun i j a b ascending first second different =>
    separate i j a b ascending first second fun same => different (congrArg (!·) same)

theorem StitchesApart.of_outside {level : Level α}
    (apart : level.StitchesApart tolerance (Level.outside group)) :
    level.StitchesApart tolerance group := by
  obtain ⟨inside, outside, counted⟩ := apart
  rw [outside_outside] at outside counted
  exact ⟨outside, inside, counted.trans (Nat.add_comm _ _)⟩

/-- A row of steps only takes polygons away from the later rooms. -/
theorem forall₂_isLeftOf_stitchFirst (room : Room α) (tolerance : α) (later : Level α) :
    List.Forall₂ Room.IsLeftOf (stitchFirst room tolerance later).2.1 later := by
  induction later generalizing room with
  | nil => exact .nil
  | cons next later inductionHypothesis =>
    exact .cons (stitchPair_second_isLeftOf room next tolerance) (inductionHypothesis _)

/-- Rooms stay apart from those outside their group when they lose polygons. -/
theorem IsSeparate.of_isLeftOf {left level : Level α} (separate : level.IsSeparate tolerance group)
    (parts : List.Forall₂ Room.IsLeftOf left level) : left.IsSeparate tolerance group := by
  intro i j a b ascending atFirst atSecond different
  obtain ⟨inFirst, rfl⟩ := List.getElem?_eq_some_iff.mp atFirst
  obtain ⟨inSecond, rfl⟩ := List.getElem?_eq_some_iff.mp atSecond
  have wasFirst : i < level.length := parts.length_eq ▸ inFirst
  have wasSecond : j < level.length := parts.length_eq ▸ inSecond
  have apart := separate i j _ _ ascending (List.getElem?_eq_getElem wasFirst)
    (List.getElem?_eq_getElem wasSecond) different
  have isLeft := (List.forall₂_iff_get.mp parts).2
  exact apart.of_isLeftOf (isLeft i inFirst wasFirst) (isLeft j inSecond wasSecond)

/-- The rooms behind the first one are separate if all are. -/
theorem IsSeparate.tail {room : Room α} {later : Level α}
    (separate : IsSeparate tolerance group (room :: later)) :
    later.IsSeparate tolerance fun position => group (position + 1) :=
  fun i j a b ascending first second =>
    separate (i + 1) (j + 1) a b (Nat.succ_lt_succ ascending) first second

/-- The first room of a level is apart from the rooms outside its group. -/
theorem IsSeparate.apart_head {room : Room α} {later : Level α}
    (separate : IsSeparate tolerance group (room :: later)) (inside : group 0 = true)
    {position : Nat} {other : Room α} (found : later[position]? = some other)
    (isOutside : group (position + 1) = false) : Apart room other tolerance :=
  have different : group 0 ≠ group (position + 1) := by
    rw [inside, isOutside]
    decide
  separate 0 (position + 1) room other (Nat.succ_pos _) rfl found different

/-- The row of a room that is apart from the rooms outside a group is its row over the
group, and leaves the rooms outside it alone. -/
theorem stitchFirst_among {room : Room α} {later : Level α}
    (apart : ∀ position other, later[position]? = some other → group position = false →
      Apart room other tolerance) :
    let swept := stitchFirst room tolerance later
    let own := stitchFirst room tolerance (later.among group)
    swept.1 = own.1 ∧ swept.2.1.among group = own.2.1
      ∧ swept.2.1.among (outside group) = later.among (outside group) ∧ swept.2.2 = own.2.2 := by
  induction later generalizing room group with
  | nil => exact ⟨rfl, rfl, rfl, rfl⟩
  | cons next later inductionHypothesis =>
    have apartLater : ∀ position other, later[position]? = some other →
        group (position + 1) = false → Apart room other tolerance :=
      fun position other found => apart (position + 1) other found
    cases inside : group 0 with
    | true =>
      have isInside : outside group 0 = false := congrArg (!·) inside
      obtain ⟨first, others, unchanged, counted⟩ :=
        inductionHypothesis fun position other found isOutside =>
          (apartLater position other found isOutside).of_isLeftOf
            (stitchPair_first_isLeftOf room next tolerance) (.refl other)
      simp only [stitchFirst_cons, among_cons_of_inside inside, among_cons_of_outside isInside]
      exact ⟨first, congrArg _ others, unchanged, congrArg _ counted⟩
    | false =>
      have isOutside : outside group 0 = true := congrArg (!·) inside
      obtain ⟨first, others, unchanged, counted⟩ := inductionHypothesis apartLater
      simp only [stitchFirst_cons, among_cons_of_outside inside, among_cons_of_inside isOutside,
        stitchPair_of_apart (apart 0 next rfl inside), Nat.zero_add]
      exact ⟨first, others, congrArg _ unchanged, counted⟩

/-- A level whose first room is in the group is stitched apart if its other rooms are once
the row of the first one is done. -/
theorem StitchesApart.cons {room : Room α} {later : Level α}
    (separate : IsSeparate tolerance group (room :: later)) (inside : group 0 = true)
    (rest : StitchesApart tolerance (fun position => group (position + 1))
      (stitchFirst room tolerance later).2.1) :
    StitchesApart tolerance group (room :: later) := by
  have isInside : Level.outside group 0 = false := congrArg (!·) inside
  obtain ⟨first, others, unchanged, counted⟩ :=
    stitchFirst_among fun position other => separate.apart_head inside
  obtain ⟨restInside, restOutside, restCounted⟩ := rest
  rw [others] at restInside restCounted
  rw [unchanged] at restOutside restCounted
  refine ⟨?inside, ?outside, ?counted⟩
  case inside =>
    simp only [stitch_cons, among_cons_of_inside inside]
    rw [first, restInside]
  case outside =>
    simp only [stitch_cons, among_cons_of_outside isInside]
    exact restOutside
  case counted =>
    simp only [stitch_cons, among_cons_of_inside inside, among_cons_of_outside isInside]
    rw [restCounted, counted, Nat.add_assoc]
    rfl

/-- A group that is separate from the rooms outside it is stitched as if it stood alone, and
so are they. -/
theorem stitchesApart_of_isSeparate {level : Level α}
    (separate : level.IsSeparate tolerance group) : level.StitchesApart tolerance group := by
  fun_induction stitch tolerance level generalizing group
  case case1 => constructor <;> simp only [among, stitch_nil, Nat.add_zero]
  case case2 room later swept _ inductionHypothesis =>
    have sweptSeparate : ∀ {group : Nat → Bool}, IsSeparate tolerance group (room :: later) →
        swept.2.1.IsSeparate tolerance fun position => group (position + 1) := fun separate =>
      separate.tail.of_isLeftOf (forall₂_isLeftOf_stitchFirst room tolerance later)
    -- Of the group and the rooms outside it, one has the first room.
    cases inside : group 0 with
    | true => exact .cons separate inside (inductionHypothesis (sweptSeparate separate))
    | false =>
      have isOutside : outside group 0 = true := congrArg (!·) inside
      exact .of_outside
        (.cons separate.outside isOutside (inductionHypothesis (sweptSeparate separate.outside)))

end Separate

/-! ### One isolated room -/

/-- The group of a single position. -/
def only (position : Nat) : Nat → Bool := fun other => other == position

theorem among_of_all {group : Nat → Bool} (all : ∀ position, group position = true)
    (level : Level α) : level.among group = level := by
  induction level generalizing group with
  | nil => rfl
  | cons room later inductionHypothesis =>
    rw [among_cons_of_inside (all 0), inductionHypothesis fun position => all (position + 1)]

theorem among_of_none {group : Nat → Bool} (none : ∀ position, group position = false)
    (level : Level α) : level.among group = [] := by
  induction level generalizing group with
  | nil => rfl
  | cons room later inductionHypothesis =>
    rw [among_cons_of_outside (none 0), inductionHypothesis fun position => none (position + 1)]

/-- The rooms at a single position are the one that stands there. -/
theorem among_only (level : Level α) (position : Nat) :
    level.among (only position) = level[position]?.toList := by
  induction level generalizing position with
  | nil => rfl
  | cons room later inductionHypothesis =>
    cases position with
    | zero =>
      have rest : among (fun other => only 0 (other + 1)) later = [] :=
        among_of_none (fun _ => rfl) later
      rw [among_cons_of_inside rfl, rest]
      rfl
    | succ position =>
      rw [among_cons_of_outside rfl, List.getElem?_cons_succ, ← inductionHypothesis position]
      congr 1
      funext other
      simp [only]

/-- The rooms at the other positions are those left when the one is taken out. -/
theorem among_outside_only (level : Level α) (position : Nat) :
    level.among (outside (only position)) = level.eraseIdx position := by
  induction level generalizing position with
  | nil => rfl
  | cons room later inductionHypothesis =>
    cases position with
    | zero =>
      have rest : among (fun other => outside (only 0) (other + 1)) later = later :=
        among_of_all (fun _ => rfl) later
      rw [among_cons_of_outside rfl, rest]
      rfl
    | succ position =>
      rw [among_cons_of_inside rfl, List.eraseIdx_cons_succ, ← inductionHypothesis position]
      congr 2
      funext other
      simp [outside, only]

/-- A room that would share no polygon with a room of the level from this position. -/
structure IsIsolatedAt (tolerance : α) (level : Level α) (position : Nat) (room : Room α) :
    Prop where
  inRange : position ≤ level.length
  earlier : ∀ i other, i < position → level[i]? = some other → Apart other room tolerance
  later : ∀ i other, position ≤ i → level[i]? = some other → Apart room other tolerance

/-- An isolated room is a group of its own. -/
theorem IsIsolatedAt.isSeparate {tolerance : α} {level : Level α} {position : Nat} {room : Room α}
    (isolated : level.IsIsolatedAt tolerance position room) :
    IsSeparate tolerance (only position) (level.insertIdx position room) := by
  intro i j a b ascending first second different
  have isOne : i = position ∨ j = position := by
    by_contra neither
    obtain ⟨notFirst, notSecond⟩ := not_or.mp neither
    exact different (by simp [only, notFirst, notSecond])
  rcases isOne with rfl | rfl
  · rw [List.getElem?_insertIdx_self, if_pos isolated.inRange] at first
    rw [List.getElem?_insertIdx_of_gt ascending] at second
    cases first
    exact isolated.later (j - 1) b (Nat.le_pred_of_lt ascending) second
  · rw [List.getElem?_insertIdx_of_lt ascending] at first
    rw [List.getElem?_insertIdx_self, if_pos isolated.inRange] at second
    cases second
    exact isolated.earlier i a ascending first

/-- The pass over a level with an isolated room in it leaves that room as it is and does to
the others what it does without it. -/
theorem stitch_insertIdx {tolerance : α} {level : Level α} {position : Nat} {room : Room α}
    (isolated : level.IsIsolatedAt tolerance position room) :
    Level.stitch tolerance (level.insertIdx position room)
      = ((level.stitch tolerance).1.insertIdx position room, (level.stitch tolerance).2) := by
  obtain ⟨inside, outside, counted⟩ := stitchesApart_of_isSeparate isolated.isSeparate
  have standsThere : (level.insertIdx position room)[position]? = some room := by
    rw [List.getElem?_insertIdx_self, if_pos isolated.inRange]
  have alone : Level.stitch tolerance [room] = ([room], 0) :=
    stitch_of_isStitched (List.pairwise_singleton _ _)
  simp only [among_only, among_outside_only, standsThere, Option.toList_some, alone,
    List.eraseIdx_insertIdx_self, Nat.zero_add] at inside outside counted
  obtain ⟨inRange, isRoom⟩ :=
    List.getElem?_eq_some_iff.mp (Option.toList_eq_singleton_iff.mp inside)
  have restored := List.insertIdx_eraseIdx_getElem inRange
  rw [outside, isRoom] at restored
  exact Prod.ext restored.symm counted

/-- Stitching is local: a group of rooms that shares no polygon with a room outside it is
stitched as if it stood alone, and so are the rooms outside it, whatever order they stand
in; a room that shares nothing with any other can be put in anywhere. -/
theorem stitch_local (tolerance : α) (level : Level α) :
    (∀ group, level.IsSeparate tolerance group → level.StitchesApart tolerance group)
      ∧ ∀ position room, level.IsIsolatedAt tolerance position room →
        Level.stitch tolerance (level.insertIdx position room)
          = ((level.stitch tolerance).1.insertIdx position room, (level.stitch tolerance).2) :=
  ⟨fun _ => stitchesApart_of_isSeparate, fun _ _ => stitch_insertIdx⟩

/-- Two pairs of rooms side by side, placed in turns, lose the wall between them as they do alone; a
room far away from them can stand between any two of them. -/
theorem stitch_local_in_turns :
    let eastAndWest := Surfaces.setAll {} [.floor, .ceiling, .wallNorth, .wallSouth] .removed
    let cube (x : Float) : Room Float := Room.build 100 ⟨x, 0, 0⟩ ⟨100, 100, 100⟩ eastAndWest
    let level : Level Float := [cube 0, cube 1000, cube 100, cube 1100]
    let even (position : Nat) : Bool := position % 2 == 0
    level.IsSeparate defaultTolerance even
      ∧ level.among even = [cube 0, cube 100] ∧ level.among (outside even) = [cube 1000, cube 1100]
      ∧ level.StitchesApart defaultTolerance even
      ∧ (level.stitch defaultTolerance).2 = 4
      ∧ level.IsIsolatedAt defaultTolerance 1 (cube 5000)
      ∧ Level.stitch defaultTolerance (level.insertIdx 1 (cube 5000))
        = ((level.stitch defaultTolerance).1.insertIdx 1 (cube 5000), 4) := by
  intro eastAndWest cube level even
  have apart : ∀ i j : Fin level.length, even i ≠ even j →
      level[i].bounds.intersects level[j].bounds defaultTolerance = false := by decide +kernel
  have separate : level.IsSeparate defaultTolerance even := by
    intro i j a b _ first second different
    obtain ⟨inFirst, rfl⟩ := List.getElem?_eq_some_iff.mp first
    obtain ⟨inSecond, rfl⟩ := List.getElem?_eq_some_iff.mp second
    exact .of_bounds (apart ⟨i, inFirst⟩ ⟨j, inSecond⟩ different)
  have alone : ∀ i : Fin level.length,
      level[i].bounds.intersects (cube 5000).bounds defaultTolerance = false
      ∧ (cube 5000).bounds.intersects level[i].bounds defaultTolerance = false := by decide +kernel
  have isolated : level.IsIsolatedAt defaultTolerance 1 (cube 5000) := by
    refine ⟨by decide, fun i other _ found => ?_, fun i other _ found => ?_⟩
    all_goals obtain ⟨inRange, rfl⟩ := List.getElem?_eq_some_iff.mp found
    · exact .of_bounds (alone ⟨i, inRange⟩).1
    · exact .of_bounds (alone ⟨i, inRange⟩).2
  have removed : (level.stitch defaultTolerance).2 = 4 := by decide +kernel
  obtain ⟨inGroups, withIsolated⟩ := stitch_local defaultTolerance level
  refine ⟨separate, rfl, rfl, inGroups even separate, removed, isolated, ?_⟩
  rw [withIsolated 1 (cube 5000) isolated, removed]

end Level

end RoomLayout
