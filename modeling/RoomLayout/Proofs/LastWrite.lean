import Mathlib.Data.List.Induction

/-!
# The last write

Going through a list changes a state element by element. Where only some elements touch a
part of the state, the last of these decides it, whatever came before and whatever else came
after (`IsLast.foldl_eq`); without any the part is as it was at first (`foldl_eq_of_none`).
-/

namespace RoomLayout

variable {β σ γ : Type} {Holds : β → Prop} {list before : List β} {last : β}

/-- The last element of a list that has a property, and what stands before it. -/
structure IsLast (Holds : β → Prop) (list before : List β) (last : β) : Prop where
  holds : Holds last
  split : ∃ after, list = before ++ last :: after ∧ ∀ element ∈ after, ¬ Holds element

theorem IsLast.append_singleton (isLast : IsLast Holds list before last) {next : β}
    (other : ¬ Holds next) : IsLast Holds (list ++ [next]) before last := by
  obtain ⟨holds, after, rfl, none⟩ := isLast
  refine ⟨holds, after ++ [next], by simp, fun element member => ?_⟩
  rcases List.mem_append.mp member with inAfter | isNext
  · exact none element inAfter
  · rwa [List.mem_singleton.mp isNext]

/-- Some element with the property is the last one, or there is none. -/
theorem exists_isLast_or_none (Holds : β → Prop) (list : List β) :
    (∃ before last, IsLast Holds list before last) ∨ ∀ element ∈ list, ¬ Holds element := by
  induction list using List.reverseRecOn with
  | nil => exact .inr fun _ member => absurd member List.not_mem_nil
  | append_singleton earlier next inductionHypothesis =>
    by_cases holds : Holds next
    · exact .inl ⟨earlier, next, holds, [], rfl, fun _ member => absurd member List.not_mem_nil⟩
    · rcases inductionHypothesis with ⟨before, last, isLast⟩ | none
      · exact .inl ⟨before, last, isLast.append_singleton holds⟩
      · refine .inr fun element member => ?_
        rcases List.mem_append.mp member with inEarlier | isNext
        · exact none element inEarlier
        · rwa [List.mem_singleton.mp isNext]

section Fold

variable {step : σ → β → σ} (view : σ → γ)
  (keeps : ∀ state element, ¬ Holds element → view (step state element) = view state)

include keeps

theorem foldl_eq_of_none (none : ∀ element ∈ list, ¬ Holds element) (state : σ) :
    view (list.foldl step state) = view state := by
  induction list generalizing state with
  | nil => rfl
  | cons element rest inductionHypothesis =>
    obtain ⟨first, later⟩ := List.forall_mem_cons.mp none
    rw [List.foldl_cons, inductionHypothesis later, keeps state element first]

theorem IsLast.foldl_eq (isLast : IsLast Holds list before last) (state : σ) :
    view (list.foldl step state) = view (step (before.foldl step state) last) := by
  obtain ⟨-, after, rfl, none⟩ := isLast
  rw [List.foldl_append, List.foldl_cons, foldl_eq_of_none view keeps none]

end Fold

end RoomLayout
