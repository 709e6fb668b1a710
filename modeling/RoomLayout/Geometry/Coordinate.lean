/-!
# Coordinates

The arithmetic that room geometry is written over. Every definition of the
geometry takes its numbers from `Coordinate`, so the same definitions run on
machine floats and can be read over exact rationals. Comparisons are tests that
answer `Bool`: a float that is not a number compares false with everything,
itself included.
-/

namespace RoomLayout

/-- Arithmetic on lengths and positions. -/
class Coordinate (α : Type) extends Add α, Sub α, Mul α, Div α, Neg α where
  /-- The whole number `n` as a coordinate. -/
  ofNat : Nat → α
  /-- Whether the first operand is at most the second. -/
  le : α → α → Bool
  /-- Whether the first operand is less than the second. -/
  lt : α → α → Bool
  /-- Whether the value is an ordinary number, neither infinite nor undefined. -/
  isFinite : α → Bool
  /-- The least count that is at least the value; zero for values that are
  negative or undefined, the largest count for values beyond every count. -/
  ceilNat : α → Nat

namespace Coordinate

variable {α : Type} [Coordinate α]

/-- The coordinate zero. -/
def zero : α := ofNat 0

/-- The coordinate one. -/
def one : α := ofNat 1

/-- Half of a length. -/
@[specialize] def half (x : α) : α := x / ofNat 2

/-- Whether a value compares with itself; only a value that is not a number does not. -/
@[specialize] def isNumber (x : α) : Bool := le x x

/-- The smaller operand, the other one when one is not a number, and the first
one when neither is smaller. -/
@[specialize] def lesser (x y : α) : α :=
  if !isNumber x then y else if lt y x then y else x

/-- The larger operand, the other one when one is not a number, and the first
one when neither is larger. -/
@[specialize] def greater (x y : α) : α :=
  if !isNumber x then y else if lt x y then y else x

/-- The distance between two coordinates on one axis. -/
@[specialize] def distance (x y : α) : α :=
  let difference := x - y
  if lt difference zero then -difference else difference

end Coordinate

/-- The largest tile count a float length can ask for, `2 ^ 64 - 1`. -/
def largestCount : Nat := 18446744073709551615

/-- The ceiling of a float as a count. Truncation to 64 bits is exact below
`2 ^ 64` and stays at the largest count above. -/
def ceilCount (x : Float) : Nat :=
  let floor := x.toUInt64
  if floor.toFloat < x then min (floor.toNat + 1) largestCount else floor.toNat

/-- Machine floats: the arithmetic the program runs on. -/
instance : Coordinate Float where
  ofNat := Float.ofNat
  le x y := x ≤ y
  lt x y := x < y
  isFinite := Float.isFinite
  ceilNat := ceilCount

/-- Exact rationals: the arithmetic in which placement and tiling are reasoned
about without rounding. -/
instance : Coordinate Rat where
  ofNat n := n
  le x y := x ≤ y
  lt x y := x < y
  isFinite _ := true
  ceilNat x := x.ceil.toNat

end RoomLayout
