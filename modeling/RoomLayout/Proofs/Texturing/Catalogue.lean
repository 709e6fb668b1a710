import Mathlib.Data.Finset.Card
import Mathlib.Data.Prod.Lex
import Mathlib.Data.String.Basic
import RoomLayout.Catalogue
import RoomLayout.Texture

/-!
# What catalogues hold

Under a strict total order a catalogue is ascending, so that nothing is in it twice, and
holds what was put into it, in whatever order and however often that was. Textures are
ordered totally, and so are their written forms.
-/

namespace RoomLayout

namespace Catalogue

section Order

variable {β : Type} {before : β → β → Bool}
  [order : IsStrictTotalOrder β fun a b => before a b = true]

/-- An entry is added, and nothing is lost. -/
theorem mem_insert {entry value : β} {catalogue : List β} :
    value ∈ insert before entry catalogue ↔ value = entry ∨ value ∈ catalogue := by
  induction catalogue with
  | nil => simp [insert]
  | cons first rest inductionHypothesis =>
    rw [insert]
    split
    · exact List.mem_cons
    · next notBefore =>
      split
      · rw [List.mem_cons, List.mem_cons, inductionHypothesis, or_left_comm]
      · next notAfter =>
        obtain rfl : entry = first := order.trichotomous entry first notBefore notAfter
        simp

/-- An ascending list stays so. -/
theorem pairwise_insert {entry : β} {catalogue : List β}
    (ascending : catalogue.Pairwise fun a b => before a b = true) :
    (insert before entry catalogue).Pairwise fun a b => before a b = true := by
  induction ascending with
  | nil => exact List.pairwise_singleton _ entry
  | @cons first rest firstBefore ascendingRest inductionHypothesis =>
    rw [insert]
    split
    · next entryBefore =>
      refine .cons ?_ (.cons firstBefore ascendingRest)
      intro value member
      rcases List.mem_cons.mp member with rfl | inRest
      · exact entryBefore
      · exact order.trans _ _ _ entryBefore (firstBefore value inRest)
    · split
      · next firstBeforeEntry =>
        refine .cons ?_ inductionHypothesis
        intro value member
        rcases mem_insert.mp member with rfl | inRest
        · exact firstBeforeEntry
        · exact firstBefore value inRest
      · exact .cons firstBefore ascendingRest

/-- Several entries are added. -/
theorem mem_foldl_insert {entries catalogue : List β} {value : β} :
    value ∈ entries.foldl (fun catalogue entry => insert before entry catalogue) catalogue
      ↔ value ∈ entries ∨ value ∈ catalogue := by
  induction entries generalizing catalogue with
  | nil => simp
  | cons entry rest inductionHypothesis =>
    rw [List.foldl_cons, inductionHypothesis, mem_insert, List.mem_cons]
    tauto

/-- The catalogue of a list holds what the list holds. -/
theorem mem_ofList {entries : List β} {value : β} :
    value ∈ ofList before entries ↔ value ∈ entries := by
  rw [ofList, mem_foldl_insert]
  simp

/-- It is ascending. -/
theorem pairwise_ofList (entries : List β) :
    (ofList before entries).Pairwise fun a b => before a b = true := by
  suffices general : ∀ catalogue : List β, (catalogue.Pairwise fun a b => before a b = true) →
      (entries.foldl (fun catalogue entry => insert before entry catalogue) catalogue).Pairwise
        fun a b => before a b = true from general [] .nil
  induction entries with
  | nil => exact fun _ ascending => ascending
  | cons entry rest inductionHypothesis =>
    exact fun _ ascending => inductionHypothesis _ (pairwise_insert ascending)

/-- Nothing is in it twice. -/
theorem nodup_ofList (entries : List β) : (ofList before entries).Nodup := by
  refine (pairwise_ofList entries).imp fun {a b} isBefore same => ?_
  subst same
  exact order.irrefl a isBefore

/-- It is as long as there are different entries. -/
theorem length_ofList [DecidableEq β] (entries : List β) :
    (ofList before entries).length = entries.toFinset.card := by
  rw [← List.toFinset_card_of_nodup (nodup_ofList entries)]
  congr 1
  ext value
  rw [List.mem_toFinset, List.mem_toFinset, mem_ofList]

end Order

/-- The order of texts. -/
instance isStrictTotalOrder_lt : IsStrictTotalOrder String fun a b => decide (a < b) = true := by
  simp only [decide_eq_true_eq]
  infer_instance

end Catalogue

namespace Texture

/-- Where a texture stands in the order: its kind, and its names one after the other. -/
def rank : Texture → ℕ ×ₗ (String ×ₗ String)
  | missing => toLex (0, toLex ("", ""))
  | builtin name => toLex (1, toLex (name, ""))
  | custom folder filename => toLex (2, toLex (folder, filename))

theorem rank_injective : Function.Injective rank := by
  intro a b same
  cases a <;> cases b <;> simp_all [rank]

/-- Textures are ordered by their ranks. -/
theorem before_iff {a b : Texture} : before a b = true ↔ a.rank < b.rank := by
  cases a <;> cases b <;> simp [before, rank, Prod.Lex.toLex_lt_toLex]

instance isStrictTotalOrder_before : IsStrictTotalOrder Texture fun a b => before a b = true where
  irrefl a := by simp [before_iff]
  trans a b c := by
    simp only [before_iff]
    exact lt_trans
  trichotomous a b notBefore notAfter := by
    simp only [before_iff, not_lt] at notBefore notAfter
    exact rank_injective (le_antisymm notAfter notBefore)

/-- Only the placeholder is written like the placeholder. -/
theorem display_eq_missing_iff {texture : Texture} :
    texture.display = missing.display ↔ texture = missing := by
  cases texture with
  | missing => simp
  | builtin name =>
    refine ⟨fun same => ?_, nofun⟩
    simpa [display] using congrArg (fun text => text.toList.head?) same
  | custom folder filename =>
    refine ⟨fun same => ?_, nofun⟩
    simpa [display] using congrArg (fun text => text.toList.head?) same

end Texture

end RoomLayout
