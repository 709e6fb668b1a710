import Mathlib.Data.Finset.Card
import RoomLayout.Room.Basic

/-!
# Deletion by position

Polygons are deleted by their positions in two passes. The first one marks the positions to be
deleted, the second one goes along the polygons with a position of its own and drops those that
are marked. `unmarked_marks` says that together they leave the polygons at the other positions
(`elsewhere`), whatever the positions to be deleted are and in whatever order they come.
-/

namespace RoomLayout

variable {α : Type} [Coordinate α]

namespace Room

/-! ## Marking -/

/-- Setting one mark adds its position, if that is in range. -/
theorem getD_setIfInBounds (marked : Array Bool) (index i : Nat) :
    (marked.setIfInBounds index true).getD i false = true
      ↔ marked.getD i false = true ∨ i < marked.size ∧ i = index := by
  rw [Array.getD_eq_getD_getElem?, Array.getD_eq_getD_getElem?, Array.getElem?_setIfInBounds]
  split
  · next same =>
    subst same
    split <;> simp_all
  · next different => simp [Ne.symm different]

/-- Setting marks one after the other adds the positions that are in range. -/
theorem getD_foldl_setIfInBounds (indices : List Nat) (marked : Array Bool) (i : Nat) :
    (indices.foldl (fun marked index => marked.setIfInBounds index true) marked).getD i false = true
      ↔ marked.getD i false = true ∨ i < marked.size ∧ i ∈ indices := by
  induction indices generalizing marked with
  | nil => simp
  | cons index rest inductionHypothesis =>
    rw [List.foldl_cons, inductionHypothesis, getD_setIfInBounds, Array.size_setIfInBounds,
      List.mem_cons, or_assoc, ← and_or_left]

/-- The marked positions are the given indices below the count. -/
theorem getD_marks (count : Nat) (indices : List Nat) (i : Nat) :
    (marks count indices).getD i false = true ↔ i < count ∧ i ∈ indices := by
  have unset : (Array.replicate count false).getD i false = false := by
    rw [Array.getD_eq_getD_getElem?, Array.getElem?_replicate]
    split <;> rfl
  rw [marks, getD_foldl_setIfInBounds, unset, Array.size_replicate]
  simp

/-! ## Dropping what is marked -/

/-- The values at other positions than the given ones, in their order. -/
def elsewhere {β : Type} (positions : List Nat) (values : List β) : List β :=
  (values.zipIdx.filter fun entry => entry.2 ∉ positions).map Prod.fst

/-- The position that the second pass keeps is that of the value it looks at. -/
theorem unmarked_eq_zipIdx {β : Type} (marked : Array Bool) (index : Nat) (values : List β) :
    unmarked marked index values
      = ((values.zipIdx index).filter fun entry => !marked.getD entry.2 false).map Prod.fst := by
  induction values generalizing index with
  | nil => rfl
  | cons value rest inductionHypothesis =>
    rw [unmarked, inductionHypothesis, List.zipIdx_cons, List.filter_cons]
    cases marked.getD index false <;> rfl

/-- Marking positions and dropping what is marked leaves the values at the other positions. -/
theorem unmarked_marks {β : Type} (indices : List Nat) (values : List β) :
    unmarked (marks values.length indices) 0 values = elsewhere indices values := by
  rw [unmarked_eq_zipIdx, elsewhere]
  refine congrArg (List.map Prod.fst) (List.filter_congr fun entry member => ?_)
  have inRange : entry.2 < values.length :=
    (List.getElem?_eq_some_iff.mp (List.mem_zipIdx_iff_getElem?.mp member)).1
  rw [Bool.eq_iff_iff, Bool.not_eq_true', ← Bool.not_eq_true, getD_marks, decide_eq_true_iff]
  exact not_congr (and_iff_right inRange)

/-- A position that repeats, and one that is out of range. -/
example : unmarked (marks 3 [2, 0, 2, 99]) 0 ['a', 'b', 'c'] = ['b'] := by decide

/-- The different positions in range, counted along the range. -/
theorem card_inRange (indices : List Nat) (count : Nat) :
    {index ∈ indices.toFinset | index < count}.card
      = ((List.range count).filter (· ∈ indices)).length := by
  rw [← List.toFinset_card_of_nodup (List.nodup_range.filter _)]
  congr 1
  ext index
  simp [and_comm]

/-- Each position that is in range takes away one value, however often it is given. -/
theorem length_elsewhere {β : Type} (indices : List Nat) (values : List β) :
    {index ∈ indices.toFinset | index < values.length}.card + (elsewhere indices values).length
      = values.length := by
  have left : (elsewhere indices values).length
      = ((List.range values.length).filter fun index => !decide (index ∈ indices)).length := by
    rw [List.range_eq_range', ← List.zipIdx_map_snd, List.filter_map, List.length_map, elsewhere,
      List.length_map]
    simp only [decide_not, Function.comp_def]
  rw [card_inRange, left, ← List.length_eq_length_filter_add, List.length_range]

/-- Where the positions are those of the values that a test picks out, the others fail it. -/
theorem elsewhere_eq_filter {β : Type} {indices : List Nat} {values : List β} {drop : β → Bool}
    (exact : ∀ i value, values[i]? = some value → (i ∈ indices ↔ drop value = true)) :
    elsewhere indices values = values.filter fun value => !drop value := by
  have sameTest : values.zipIdx.filter (fun entry => entry.2 ∉ indices)
      = values.zipIdx.filter ((fun value => !drop value) ∘ Prod.fst) :=
    List.filter_congr fun entry member => by
      simp [exact _ _ (List.mem_zipIdx_iff_getElem?.mp member)]
  rw [elsewhere, sameTest, ← List.filter_map, List.zipIdx_map_fst]

/-- Deletion by position is exact. The polygons at other positions than the given ones stay as
they are and in their order, and so does the rest of the room; the count is that of the different
positions in range. The positions may come in any order, repeat or be out of range. -/
theorem removePolygons_exact (room : Room α) (indices : List Nat) :
    (room.removePolygons indices).1 = { room with polygons := elsewhere indices room.polygons }
      ∧ (room.removePolygons indices).2
        = {index ∈ indices.toFinset | index < room.polygons.length}.card := by
  rw [removePolygons, unmarked_marks]
  exact ⟨rfl, Nat.sub_eq_of_eq_add (length_elsewhere indices room.polygons).symm⟩

end Room

end RoomLayout
