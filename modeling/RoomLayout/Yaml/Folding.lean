import RoomLayout.Yaml.Character

/-!
# Line folding

What becomes of the spacing between two words of a scalar that spans lines:
blanks within a line stay, a single line break becomes a space, of several
breaks the first is dropped, and blanks around breaks are dropped.
-/

namespace RoomLayout.Yaml

/-- The spacing after the last word that was read. -/
inductive Spacing where
  /-- Blanks on one line, the last one first. -/
  | blanks (reversed : List Char)
  /-- A first line break and those after it, the last one first. There is no
  first one if it was escaped. -/
  | breaks (first : Option Char) (laterReversed : List Char)

namespace Spacing

/-- No spacing. -/
def none : Spacing := .blanks []

/-- Whether the line was ended. -/
def hasBreak : Spacing → Bool
  | blanks _ => false
  | breaks _ _ => true

/-- Whether there is any spacing. -/
def isEmpty : Spacing → Bool
  | blanks reversed => reversed.isEmpty
  | breaks _ _ => false

/-- The spacing with one more blank. -/
def addBlank (c : Char) : Spacing → Spacing
  | blanks reversed => blanks (c :: reversed)
  | breaks first later => breaks first later

/-- The spacing with one more line break. -/
def addBreak (c : Char) : Spacing → Spacing
  | blanks _ => breaks (some c) []
  | breaks first later => breaks first (c :: later)

/-- The text that the spacing stands for, the last character first. -/
def foldedReversed : Spacing → List Char
  | blanks reversed => reversed
  | breaks (some '\n') [] => [' ']
  | breaks (some '\n') later => later
  | breaks first later => later ++ first.toList

end Spacing

end RoomLayout.Yaml
