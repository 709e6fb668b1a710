import RoomLayout.Proofs.Stitching.Removal
import RoomLayout.Room.Stitching

/-!
# One stitching step

What stitching two rooms deletes from either of them. The step scans for
positions, meets some of them more than once, and deletes by position
afterwards. `stitchPair_eq` says that all this filters the two polygon lists by
what the polygons are, judged on both rooms as they were before the step.
-/

namespace RoomLayout

variable {α : Type} [Coordinate α]

namespace Room

/-- Drop the polygons that fail a test, and nothing else of a room. -/
def keep (test : Polygon α → Bool) (room : Room α) : Room α :=
  { room with polygons := room.polygons.filter test }

@[simp] theorem polygons_keep (test : Polygon α → Bool) (room : Room α) :
    (room.keep test).polygons = room.polygons.filter test := rfl

@[simp] theorem bounds_keep (test : Polygon α → Bool) (room : Room α) :
    (room.keep test).bounds = room.bounds := rfl

/-- Keeping under two tests, one after the other, is keeping under both. -/
theorem keep_keep (first second : Polygon α → Bool) (room : Room α) :
    (room.keep first).keep second = room.keep fun p => first p && second p := by
  simp only [keep, List.filter_filter]
  congr 2
  ext p : 1
  exact Bool.and_comm _ _

/-- A test that every polygon of a room passes keeps the room as it is. -/
theorem keep_of_forall {test : Polygon α → Bool} {room : Room α}
    (passes : ∀ p ∈ room.polygons, test p = true) : room.keep test = room := by
  rw [keep, List.filter_eq_self.mpr passes]

/-- A polygon that fails the test is not kept. -/
theorem not_mem_polygons_keep {test : Polygon α → Bool} {room : Room α} {p : Polygon α}
    (fails : test p = false) : p ∉ (room.keep test).polygons := by
  intro member
  have passes := (List.mem_filter.mp member).2
  rw [fails] at passes
  exact Bool.noConfusion passes

/-- Deleting by positions is filtering by content whenever the positions are
those of the polygons that a test picks out. -/
theorem removePolygons_eq {room : Room α} {indices : List Nat} {drop : Polygon α → Bool}
    (exact : ∀ i p, room.polygons[i]? = some p → (i ∈ indices ↔ drop p = true)) :
    room.removePolygons indices = (room.keep fun p => !drop p, room.polygons.countP drop) := by
  have kept := elsewhere_eq_filter exact
  have total := List.length_eq_length_filter_add drop (l := room.polygons)
  simp only [removePolygons, unmarked_marks, kept, keep, Prod.mk.injEq, true_and,
    List.countP_eq_length_filter]
  omega

end Room

/-- Stitching room `a` with the later room `b` deletes `p` from `a` and `q` from
`b` on account of each other: the boxes touch, each polygon lies inside the
other room's box, and the two coincide. -/
structure Shared (a b : Room α) (tolerance : α) (p q : Polygon α) : Prop where
  touching : a.bounds.intersects b.bounds tolerance = true
  first_inside : p.isWithin b.bounds tolerance = true
  second_inside : q.isWithin a.bounds tolerance = true
  coincident : p.coincides q tolerance = true

instance (a b : Room α) (tolerance : α) (p q : Polygon α) : Decidable (Shared a b tolerance p q) :=
  decidable_of_iff
    (a.bounds.intersects b.bounds tolerance = true ∧ p.isWithin b.bounds tolerance = true
      ∧ q.isWithin a.bounds tolerance = true ∧ p.coincides q tolerance = true)
    ⟨fun ⟨touching, first, second, coincident⟩ => ⟨touching, first, second, coincident⟩,
      fun shared => ⟨shared.touching, shared.first_inside, shared.second_inside, shared.coincident⟩⟩

/-- Whether stitching `a` with `b` deletes `p` from `a`. -/
def isLostByFirst (a b : Room α) (tolerance : α) (p : Polygon α) : Bool :=
  decide (∃ q ∈ b.polygons, Shared a b tolerance p q)

/-- Whether stitching `a` with `b` deletes `q` from `b`. -/
def isLostBySecond (a b : Room α) (tolerance : α) (q : Polygon α) : Bool :=
  decide (∃ p ∈ a.polygons, Shared a b tolerance p q)

theorem isLostByFirst_iff {a b : Room α} {tolerance : α} {p : Polygon α} :
    isLostByFirst a b tolerance p = true ↔ ∃ q ∈ b.polygons, Shared a b tolerance p q :=
  decide_eq_true_iff

theorem isLostBySecond_iff {a b : Room α} {tolerance : α} {q : Polygon α} :
    isLostBySecond a b tolerance q = true ↔ ∃ p ∈ a.polygons, Shared a b tolerance p q :=
  decide_eq_true_iff

/-- The indexed polygons inside a box are the polygons inside it, each with its
position. -/
theorem mem_polygonsWithin {polygons : List (Polygon α)} {box : Box α} {tolerance : α}
    {entry : Polygon α × Nat} :
    entry ∈ polygonsWithin polygons box tolerance
      ↔ polygons[entry.2]? = some entry.1 ∧ entry.1.isWithin box tolerance = true := by
  rw [polygonsWithin, List.mem_filter, List.mem_zipIdx_iff_getElem?]

/-- The scan pairs every polygon of `a` inside the box of `b` with the nonempty
list of its counterparts. -/
theorem mem_sharedPolygons {a b : Room α} {tolerance : α} {i : Nat} {counterparts : List Nat} :
    (i, counterparts) ∈ sharedPolygons a b tolerance
      ↔ ∃ p, (p, i) ∈ polygonsWithin a.polygons b.bounds tolerance
        ∧ counterparts ≠ []
        ∧ counterparts = ((polygonsWithin b.polygons a.bounds tolerance).filter
            fun entry => p.coincides entry.1 tolerance).map Prod.snd := by
  simp only [sharedPolygons, List.mem_filterMap, Prod.exists]
  constructor
  · rintro ⟨p, k, inside, equation⟩
    split at equation
    · exact absurd equation (by simp)
    · next nonempty =>
      obtain ⟨rfl, rfl⟩ := Prod.mk.inj (Option.some.inj equation)
      refine ⟨p, inside, ?_, rfl⟩
      simpa using nonempty
  · rintro ⟨p, inside, nonempty, rfl⟩
    refine ⟨p, i, inside, ?_⟩
    split
    · next empty => exact absurd (by rw [empty]; rfl) nonempty
    · rfl

/-- The positions collected in `a` are those of the polygons with a counterpart
in `b`. -/
theorem mem_map_fst_sharedPolygons {a b : Room α} {tolerance : α}
    (touching : a.bounds.intersects b.bounds tolerance = true) {i : Nat} {p : Polygon α}
    (found : a.polygons[i]? = some p) :
    i ∈ (sharedPolygons a b tolerance).map Prod.fst ↔ isLostByFirst a b tolerance p = true := by
  simp only [List.mem_map, Prod.exists, exists_and_right, exists_eq_right, mem_sharedPolygons,
    mem_polygonsWithin, isLostByFirst_iff]
  constructor
  · rintro ⟨_, p', ⟨found', inside⟩, nonempty, rfl⟩
    obtain rfl : p = p' := Option.some.inj (found.symm.trans found')
    obtain ⟨j, some_counterpart⟩ := List.exists_mem_of_ne_nil _ nonempty
    obtain ⟨⟨q, j⟩, counterpart, rfl⟩ := List.mem_map.mp some_counterpart
    obtain ⟨candidate, coincident⟩ := List.mem_filter.mp counterpart
    obtain ⟨position, insideToo⟩ := mem_polygonsWithin.mp candidate
    exact ⟨q, List.mem_of_getElem? position, touching, inside, insideToo, coincident⟩
  · rintro ⟨q, member, shared⟩
    obtain ⟨j, position⟩ := List.mem_iff_getElem?.mp member
    refine ⟨_, p, ⟨found, shared.first_inside⟩, ?_, rfl⟩
    apply List.ne_nil_of_mem (a := j)
    refine List.mem_map.mpr ⟨(q, j), List.mem_filter.mpr ⟨?_, shared.coincident⟩, rfl⟩
    exact mem_polygonsWithin.mpr ⟨position, shared.second_inside⟩

/-- The positions collected in `b` are those of the polygons with a counterpart
in `a`, some of them more than once. -/
theorem mem_flatMap_snd_sharedPolygons {a b : Room α} {tolerance : α}
    (touching : a.bounds.intersects b.bounds tolerance = true) {j : Nat} {q : Polygon α}
    (found : b.polygons[j]? = some q) :
    j ∈ (sharedPolygons a b tolerance).flatMap Prod.snd
      ↔ isLostBySecond a b tolerance q = true := by
  simp only [List.mem_flatMap, Prod.exists, mem_sharedPolygons, mem_polygonsWithin,
    isLostBySecond_iff]
  constructor
  · rintro ⟨i, _, ⟨p, ⟨position, inside⟩, _, rfl⟩, collected⟩
    obtain ⟨⟨q', j⟩, counterpart, rfl⟩ := List.mem_map.mp collected
    obtain ⟨candidate, coincident⟩ := List.mem_filter.mp counterpart
    obtain ⟨found', insideToo⟩ := mem_polygonsWithin.mp candidate
    obtain rfl : q = q' := Option.some.inj (found.symm.trans found')
    exact ⟨p, List.mem_of_getElem? position, touching, inside, insideToo, coincident⟩
  · rintro ⟨p, member, shared⟩
    obtain ⟨i, position⟩ := List.mem_iff_getElem?.mp member
    have counterpart : j ∈ ((polygonsWithin b.polygons a.bounds tolerance).filter
        fun entry => p.coincides entry.1 tolerance).map Prod.snd := by
      refine List.mem_map.mpr ⟨(q, j), List.mem_filter.mpr ⟨?_, shared.coincident⟩, rfl⟩
      exact mem_polygonsWithin.mpr ⟨found, shared.second_inside⟩
    exact ⟨i, _, ⟨p, ⟨position, shared.first_inside⟩, List.ne_nil_of_mem counterpart, rfl⟩,
      counterpart⟩

/-- Rooms whose boxes do not touch share no polygon. -/
theorem not_shared_of_apart {a b : Room α} {tolerance : α}
    (apart : a.bounds.intersects b.bounds tolerance = false) (p q : Polygon α) :
    ¬ Shared a b tolerance p q := by
  intro shared
  rw [shared.touching] at apart
  exact Bool.noConfusion apart

/-- A stitching step deletes from either room the polygons with a counterpart in
the other one, judged on both as they were before the step, and counts them. -/
theorem stitchPair_eq (a b : Room α) (tolerance : α) :
    stitchPair a b tolerance =
      (a.keep fun p => !isLostByFirst a b tolerance p,
        b.keep fun q => !isLostBySecond a b tolerance q,
        a.polygons.countP (isLostByFirst a b tolerance)
          + b.polygons.countP (isLostBySecond a b tolerance)) := by
  unfold stitchPair
  split
  · next touching =>
    dsimp only
    rw [Room.removePolygons_eq fun i p found => mem_map_fst_sharedPolygons touching found,
      Room.removePolygons_eq fun j q found => mem_flatMap_snd_sharedPolygons touching found]
  · next apart =>
    rw [Bool.not_eq_true] at apart
    have keepsFirst : ∀ p, isLostByFirst a b tolerance p = false := fun p =>
      decide_eq_false fun ⟨q, _, shared⟩ => not_shared_of_apart apart p q shared
    have keepsSecond : ∀ q, isLostBySecond a b tolerance q = false := fun q =>
      decide_eq_false fun ⟨p, _, shared⟩ => not_shared_of_apart apart p q shared
    rw [Room.keep_of_forall (by simp [keepsFirst]), Room.keep_of_forall (by simp [keepsSecond]),
      List.countP_eq_zero.mpr (by simp [keepsFirst]),
      List.countP_eq_zero.mpr (by simp [keepsSecond])]

end RoomLayout
