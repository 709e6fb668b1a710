import Mathlib.Data.List.Induction
import RoomLayout.Script.Token

/-!
# Positions in a text

What line and column say about the text before a position: the line counts its
line feeds, the column the characters after the last one. Reading on never comes
back to an earlier position.
-/

namespace RoomLayout.Position

/-- The position that comes first in a text. -/
def IsBefore (a b : Position) : Prop := a.line < b.line ∨ a.line = b.line ∧ a.column < b.column

theorem IsBefore.trans {a b c : Position} (first : a.IsBefore b) (second : b.IsBefore c) :
    a.IsBefore c := by
  unfold IsBefore at *
  omega

theorem IsBefore.asymm {a b : Position} (first : a.IsBefore b) : ¬ b.IsBefore a := by
  unfold IsBefore at *
  omega

/-- What does not come before a later position comes later too. -/
theorem IsBefore.of_not_isBefore {a b c : Position} (first : a.IsBefore b)
    (notEarlier : ¬ c.IsBefore b) : a.IsBefore c := by
  unfold IsBefore at *
  omega

/-- Reading a text in two parts ends where reading it at once does. -/
theorem advance_append (position : Position) (first second : List Char) :
    position.advance (first ++ second) = (position.advance first).advance second :=
  List.foldl_append

theorem advance_cons (position : Position) (c : Char) (rest : List Char) :
    position.advance (c :: rest) = (position.after c).advance rest := rfl

theorem advance_singleton (position : Position) (c : Char) :
    position.advance [c] = position.after c := rfl

/-- Every character leads to a later position. -/
theorem isBefore_after (position : Position) (c : Char) : position.IsBefore (position.after c) := by
  unfold after
  split
  · exact Or.inl (Nat.lt_succ_self _)
  · exact Or.inr ⟨rfl, Nat.lt_succ_self _⟩

/-- A nonempty text leads to a later position. -/
theorem isBefore_advance (position : Position) {text : List Char} (nonempty : text ≠ []) :
    position.IsBefore (position.advance text) := by
  induction text generalizing position with
  | nil => exact absurd rfl nonempty
  | cons c rest inductionHypothesis =>
    rw [advance_cons]
    by_cases isLast : rest = []
    · subst isLast
      exact isBefore_after position c
    · exact (isBefore_after position c).trans (inductionHypothesis _ isLast)

/-- The line feeds of a text lead to as many later lines. -/
theorem line_advance (position : Position) (text : List Char) :
    (position.advance text).line = position.line + text.count '\n' := by
  induction text generalizing position with
  | nil => rfl
  | cons c rest inductionHypothesis =>
    rw [advance_cons, inductionHypothesis, after]
    split
    · next isFeed =>
      subst isFeed
      rw [List.count_cons_self]
      dsimp only
      omega
    · next other => rw [List.count_cons_of_ne other]

/-- The line after a text from the start is one more than its line feeds. -/
theorem line_advance_start (text : List Char) :
    (start.advance text).line = 1 + text.count '\n' :=
  line_advance start text

/-- The column after a text from the start is one more than the characters since
its last line feed, or since its beginning. -/
theorem column_advance_start (text : List Char) :
    (start.advance text).column = 1 + (text.reverse.takeWhile fun c => c ≠ '\n').length := by
  induction text using List.reverseRecOn with
  | nil => rfl
  | append_singleton text c inductionHypothesis =>
    rw [advance_append, advance_singleton, List.reverse_concat, after]
    split
    · next isFeed => simp [isFeed]
    · next other =>
      rw [List.takeWhile_cons_of_pos (by simpa using other), List.length_cons, ← Nat.add_assoc,
        ← inductionHypothesis]

/-- The position behind a text, counted from the start: its line counts the line feeds of the
text, its column the characters after the last one. -/
structure IsBehind (position : Position) (text : List Char) : Prop where
  line : position.line = 1 + text.count '\n'
  column : position.column = 1 + (text.reverse.takeWhile fun c => c ≠ '\n').length

theorem isBehind_iff {position : Position} {text : List Char} :
    position.IsBehind text ↔ position = start.advance text := by
  constructor
  · rintro ⟨line, column⟩
    rw [← line_advance_start] at line
    rw [← column_advance_start] at column
    cases position
    cases advanced : start.advance text
    rw [advanced] at line column
    exact congrArg₂ Position.mk line column
  · rintro rfl
    exact ⟨line_advance_start text, column_advance_start text⟩

end RoomLayout.Position
