import RoomLayout.Yaml.Layout
import RoomLayout.Yaml.Nesting

/-!
# From one node to the next

What is written is read node after node. Where one node ends, the reader stands
somewhere before the next token: behind a quote, or at the token itself, depending on
what it read. All that counts is where it gets to when it seeks (`Place.Leaves`). What
may follow a node is told by columns (`Follows`): the next token lies to the left of
what is inside the node.
-/

namespace RoomLayout.Yaml

theorem spaces_succ (count : Nat) : spaces (count + 1) = ' ' :: spaces count :=
  List.replicate_succ

/-- A character with which a token starts: no blank, no line break, no comment. -/
structure IsTokenStart (c : Char) : Prop where
  noSpacing : isSpacing c = false
  noComment : c ≠ '#'

namespace IsTokenStart

variable {c : Char}

theorem noBreak (start : IsTokenStart c) : isBreak c = false :=
  (Bool.or_eq_false_iff.mp start.noSpacing).2

theorem noBlank (start : IsTokenStart c) : isBlank c = false :=
  (Bool.or_eq_false_iff.mp start.noSpacing).1

theorem ne_space (start : IsTokenStart c) : c ≠ ' ' := by
  rintro rfl
  exact absurd start.noSpacing (by decide)

theorem ne_tab (start : IsTokenStart c) : c ≠ '\t' := by
  rintro rfl
  exact absurd start.noSpacing (by decide)

end IsTokenStart

namespace Place

/-- The start of a line in block context, where a key may start. -/
def lineStart (text : List Char) (line : Nat) : Place := ⟨text, line, 0, true⟩

/-- Seeking from a place that stands where the given text starts. -/
theorem seek_eq (text : List Char) (line column : Nat) (keyAllowed inFlow : Bool) :
    (Place.mk text line column keyAllowed).seek inFlow
      = seekFrom inFlow line column keyAllowed false text := rfl

/-- Spaces are passed over. -/
theorem seekFrom_spaces (inFlow : Bool) (line column count : Nat) (keyAllowed : Bool)
    (text : List Char) :
    seekFrom inFlow line column keyAllowed false (spaces count ++ text)
      = seekFrom inFlow line (column + count) keyAllowed false text := by
  induction count generalizing column with
  | zero => rfl
  | succ count inductionHypothesis =>
    rw [spaces_succ, List.cons_append, seekFrom, if_neg (by decide), if_neg (by decide),
      if_pos (by simp), inductionHypothesis, Nat.add_assoc, Nat.add_comm 1]

/-- A token is not passed over. -/
theorem seekFrom_token (inFlow : Bool) (line column : Nat) (keyAllowed : Bool) {c : Char}
    (start : IsTokenStart c) (rest : List Char) :
    seekFrom inFlow line column keyAllowed false (c :: rest)
      = ⟨c :: rest, line, column, keyAllowed⟩ := by
  rw [seekFrom, start.noBreak, if_neg (by simp), if_neg (by simp), if_neg, if_neg start.noComment]
  simp [start.ne_space, start.ne_tab]

/-- Behind one space stands the token. -/
theorem seek_space (inFlow : Bool) (line column : Nat) (keyAllowed : Bool) {c : Char}
    (start : IsTokenStart c) (rest : List Char) :
    (Place.mk (' ' :: c :: rest) line column keyAllowed).seek inFlow
      = ⟨c :: rest, line, column + 1, keyAllowed⟩ := by
  have passed := seekFrom_spaces inFlow line column 1 keyAllowed (c :: rest)
  rwa [seekFrom_token _ _ _ _ start] at passed

/-- In block context a line feed begins a line where a key may start. -/
theorem seekFrom_lineFeed (line column : Nat) (keyAllowed : Bool) (rest : List Char) :
    seekFrom false line column keyAllowed false ('\n' :: rest)
      = (lineStart rest (line + 1)).seek false := by
  rw [seekFrom, if_pos (by decide), Bool.not_false, Bool.or_true]
  rfl

/-- The token of a line, behind its margin. -/
theorem seek_lineStart_token (line column : Nat) {c : Char} (start : IsTokenStart c)
    (rest : List Char) :
    (lineStart (spaces column ++ c :: rest) line).seek false
      = ⟨c :: rest, line, column, true⟩ := by
  rw [lineStart, seek_eq, seekFrom_spaces, Nat.zero_add, seekFrom_token _ _ _ _ start]

/-- The reader has come so far that seeking leads to the first token of some text, as if
that text started a line. -/
def Leaves (place : Place) (suffix : List Char) : Prop :=
  ∃ line, place.seek false = (lineStart suffix line).seek false

/-- Where a token stands behind its margin, the line that starts with it is left. -/
theorem leaves_token (line column : Nat) {c : Char} (start : IsTokenStart c) (rest : List Char) :
    (Place.mk (c :: rest) line column true).Leaves (spaces column ++ c :: rest) :=
  ⟨line, by rw [seek_lineStart_token _ _ start, seek_eq, seekFrom_token _ _ _ _ start]⟩

/-- Nothing but the end of the line is left before the text. -/
theorem leaves_lineFeed (suffix : List Char) (line column : Nat) (keyAllowed : Bool) :
    (Place.mk ('\n' :: suffix) line column keyAllowed).Leaves suffix :=
  ⟨line + 1, by rw [seek_eq, seekFrom_lineFeed]⟩

end Place

/-- What may follow a node inside something with a margin: nothing, or a token to the left
of the margin. One column to the left there may be the dash of an item, unless a sequence
inside may start there as well. No token is the colon of a value, which would make a key of
the node. -/
inductive Follows (margin : Nat) (dashes : Bool) : List Char → Prop where
  | nothing : Follows margin dashes []
  | token {column : Nat} {c : Char} {rest : List Char} (outside : column < margin)
      (start : IsTokenStart c) (noColon : c = ':' → startsWithSpacing rest = false)
      (noDash : dashes = true → column + 1 = margin → c = '-' → startsWithSpacing rest = false) :
      Follows margin dashes (spaces column ++ c :: rest)

namespace Follows

variable {margin : Nat} {dashes : Bool} {suffix : List Char}

/-- What lies outside of something lies outside of what is further inside. -/
theorem inside (follows : Follows margin dashes suffix) {further : Nat} (deeper : margin ≤ further)
    {dashes' : Bool} (noDash : dashes' = true → dashes = true ∨ margin < further) :
    Follows further dashes' suffix := by
  cases follows with
  | nothing => exact .nothing
  | token outside start noColon noDashHere =>
    refine .token (Nat.lt_of_lt_of_le outside deeper) start noColon fun inValue before => ?_
    rcases noDash inValue with sameKind | further
    · exact noDashHere sameKind (by omega)
    · omega

/-- The next token is no colon of a value. -/
theorem not_isAtIndicator_colon (follows : Follows margin dashes suffix) {place : Place}
    (leaves : place.Leaves suffix) : (place.seek false).isAtIndicator ':' = false := by
  obtain ⟨line, sought⟩ := leaves
  rw [sought]
  cases follows with
  | nothing => rfl
  | token outside start noColon noDash =>
    rw [Place.seek_lineStart_token _ _ start]
    simpa [Place.isAtIndicator, Place.isAt] using noColon

/-- The text ends, or the next token lies outside; where a sequence may stand it is no dash. -/
theorem outside (follows : Follows margin dashes suffix) {place : Place}
    (leaves : place.Leaves suffix) :
    (place.seek false).atDocumentEnd = true
      ∨ (place.seek false).column < margin
        ∧ (dashes = true → (place.seek false).column + 1 = margin →
            (place.seek false).isAtIndicator '-' = false) := by
  obtain ⟨line, sought⟩ := leaves
  rw [sought]
  cases follows with
  | nothing => exact .inl rfl
  | token outside start noColon noDash =>
    rw [Place.seek_lineStart_token _ _ start]
    refine .inr ⟨outside, fun inValue before => ?_⟩
    simpa [Place.isAtIndicator, Place.isAt] using noDash inValue before

end Follows

/-- A token that lies outside is not sought twice. -/
theorem Place.Leaves.seek {place : Place} {suffix : List Char} (leaves : place.Leaves suffix)
    {margin : Nat} {dashes : Bool} (follows : Follows margin dashes suffix) :
    (place.seek false).Leaves suffix := by
  obtain ⟨line, sought⟩ := leaves
  rw [sought]
  cases follows with
  | nothing => exact ⟨line, rfl⟩
  | token outside start noColon noDash =>
    rw [seek_lineStart_token _ _ start]
    exact leaves_token _ _ start _

end RoomLayout.Yaml
