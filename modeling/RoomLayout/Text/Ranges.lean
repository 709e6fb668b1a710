/-!
# Ranges of code points

Classes of characters given by ascending ranges of code points, and the search
in them.
-/

namespace RoomLayout.Text

/-- Whether one of the `count` ranges from index `start` on holds a code point:
the search halves the ranges `fuel` times at most. -/
def searchRanges (ranges : Array (Nat × Nat)) (code : Nat) : (fuel start count : Nat) → Bool
  | 0, _, _ => false
  | fuel + 1, start, count =>
    let half := count / 2
    match ranges[start + half]? with
    | none => false
    | some (first, last) =>
      if count = 0 then false
      else if code < first then searchRanges ranges code fuel start half
      else if code ≤ last then true
      else searchRanges ranges code fuel (start + half + 1) (count - half - 1)

/-- Whether one of the ascending ranges holds a code point. -/
def inRanges (ranges : Array (Nat × Nat)) (code : Nat) : Bool :=
  searchRanges ranges code ranges.size 0 ranges.size

end RoomLayout.Text
