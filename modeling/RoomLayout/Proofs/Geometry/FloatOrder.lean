import Mathlib.Data.Prod.Lex
import Mathlib.Order.Defs.Unbundled
import RoomLayout.Geometry.Coordinate

/-!
# The order of floats

Comparing floats is no order: a value that is not a number is not even at most itself, and the
two zeros are at most each other. But the floats that compare at all stand in a line, with the
infinities at its ends (`floatRank?`), and comparing them is comparing where they stand. So it
is transitive.
-/

namespace RoomLayout

open Float.Model (UnpackedFloat)

/-- Exponents decide before mantissas do. -/
theorem isLE_compare_then_iff {exponent exponent' : Int} {mantissa mantissa' : Nat} :
    ((compare exponent exponent').then (compare mantissa mantissa')).isLE = true
      ↔ exponent < exponent' ∨ exponent = exponent' ∧ mantissa ≤ mantissa' := by
  rw [Ordering.isLE_then_iff_and, Nat.isLE_compare, Int.isLE_compare, Int.compare_eq_lt]
  omega

theorem isLE_swap_compare_then_iff {exponent exponent' : Int} {mantissa mantissa' : Nat} :
    ((compare exponent exponent').then (compare mantissa mantissa')).swap.isLE = true
      ↔ exponent' < exponent ∨ exponent = exponent' ∧ mantissa' ≤ mantissa := by
  rw [Ordering.swap_then, Int.compare_swap, Nat.compare_swap, isLE_compare_then_iff,
    eq_comm (a := exponent')]

/-- Where a float stands in the line: by its sign and class, and among the finite ones of one
sign by exponent and mantissa. A value that is not a number stands nowhere. -/
def floatRank? : UnpackedFloat → Option (Int ×ₗ Int ×ₗ Int)
  | .notANumber => none
  | .infinity .negative => some (toLex (-2, toLex (0, 0)))
  | .finite .negative mantissa exponent _ => some (toLex (-1, toLex (-exponent, -mantissa)))
  | .zero _ => some (toLex (0, toLex (0, 0)))
  | .finite .positive mantissa exponent _ => some (toLex (1, toLex (exponent, mantissa)))
  | .infinity .positive => some (toLex (2, toLex (0, 0)))

/-- A float is at most another one if both stand in the line, and it does not stand above. -/
theorem unpackedFloat_le_iff {x y : UnpackedFloat} :
    x.le y = true ↔ ∃ rank ∈ floatRank? x, ∃ rank' ∈ floatRank? y, rank ≤ rank' := by
  rcases x with ⟨_ | _⟩ | _ | _ | ⟨_ | _⟩ <;>
    rcases y with ⟨_ | _⟩ | _ | _ | ⟨_ | _⟩ <;>
    dsimp only [UnpackedFloat.le, UnpackedFloat.compare, floatRank?] <;>
    simp [Prod.Lex.toLex_le_toLex, -Ordering.isLE_swap, isLE_compare_then_iff,
      isLE_swap_compare_then_iff]
  -- Two infinities are left, which compare as their signs do.
  all_goals rfl

namespace Coordinate

theorem le_iff_unpacked {x y : Float} :
    le x y = true ↔ x.toModel.unpack.le y.toModel.unpack = true :=
  decide_eq_true_iff.trans decide_eq_true_iff

/-- Floats are compared transitively. -/
instance : IsTrans Float fun x y => le x y = true where
  trans x y z first second := by
    rw [le_iff_unpacked, unpackedFloat_le_iff] at first second ⊢
    obtain ⟨low, isLow, middle, isMiddle, below⟩ := first
    obtain ⟨middle', isMiddle', high, isHigh, above⟩ := second
    obtain rfl : middle = middle' := Option.some.inj (isMiddle.symm.trans isMiddle')
    exact ⟨low, isLow, high, isHigh, below.trans above⟩

end Coordinate

end RoomLayout
