import RoomLayout.Decimal.Basic

/-!
# Shortest decimals

The fewest digits that read back as a given double, and of those the nearest to
it. A positive double is `mantissa * 2 ^ exponent`; the reals that round to it
form an interval. For one digit, two digits and so on, the double's two
neighbours on that decimal grid are tested against the interval in exact
arithmetic: if the grid has a point in the interval, one of the neighbours is
such a point.
-/

namespace RoomLayout

/-- What the bits of a double mean. -/
inductive DoubleValue where
  | undefined
  | infinite (negative : Bool)
  /-- The number `mantissa * 2 ^ exponent`, or its opposite. -/
  | finite (negative : Bool) (mantissa : Nat) (exponent : Int)
  deriving BEq, DecidableEq

/-- The least mantissa of a double that has all its bits. -/
def fullMantissa : Nat := Nat.pow 2 52

/-- The exponent of the smallest doubles. -/
def leastExponent : Int := -1074

/-- Take a double apart. -/
def DoubleValue.ofFloat (x : Float) : DoubleValue :=
  let bits := x.toBits.toNat
  let negative := decide (Nat.pow 2 63 ≤ bits)
  let biased := bits / fullMantissa % 2048
  let field := bits % fullMantissa
  if biased = 2047 then if field = 0 then .infinite negative else .undefined
  else if biased = 0 then .finite negative field leastExponent
  else .finite negative (fullMantissa + field) (leastExponent + (biased - 1 : Nat))

namespace Decimal

/-- A positive double in quarters of its last place, and the reals that round to
it: those between `low` and `high`, ends included when the mantissa is even. -/
structure Rounding where
  low : Nat
  value : Nat
  high : Nat
  closed : Bool
  /-- Quarters of the last place are multiples of two to this power. -/
  exponent : Int

/-- The interval of a positive double. Below a power of two the doubles lie half
as far apart. -/
def Rounding.of (mantissa : Nat) (exponent : Int) : Rounding where
  low := if mantissa = fullMantissa && exponent != leastExponent then 4 * mantissa - 1
    else 4 * mantissa - 2
  value := 4 * mantissa
  high := 4 * mantissa + 2
  closed := mantissa % 2 = 0
  exponent := exponent - 2

/-- The number `n * 2 ^ binary` in units in which powers of ten from `10 ^ grid`
on are whole as well. -/
def scaleBinary (binary grid : Int) (n : Nat) : Nat :=
  n * Nat.pow 2 binary.toNat * Nat.pow 10 (-grid).toNat

/-- The number `n * 10 ^ grid` in the units of `scaleBinary`. -/
def scaleDecimal (binary grid : Int) (n : Nat) : Nat :=
  n * Nat.pow 10 grid.toNat * Nat.pow 2 (-binary).toNat

/-- Whether the grid point `n * 10 ^ grid` rounds to the double. -/
def Rounding.holds (r : Rounding) (grid : Int) (n : Nat) : Bool :=
  let low := scaleBinary r.exponent grid r.low
  let high := scaleBinary r.exponent grid r.high
  let point := scaleDecimal r.exponent grid n
  if r.closed then low ≤ point && point ≤ high else low < point && point < high

/-- The neighbour of the double on a grid that rounds to it and is nearer, if
there is one; of two equally near ones the even one. -/
def Rounding.onGrid? (r : Rounding) (grid : Int) : Option Decimal :=
  let value := scaleBinary r.exponent grid r.value
  let unit := scaleDecimal r.exponent grid 1
  let below := value / unit
  let above := below + 1
  let toBelow := value - below * unit
  let toAbove := above * unit - value
  if r.holds grid below then
    if r.holds grid above && (toAbove < toBelow || (toAbove = toBelow && above % 2 = 0)) then
      some ⟨above, grid⟩
    else some ⟨below, grid⟩
  else if r.holds grid above then some ⟨above, grid⟩
  else none

/-- Where the decimal point of a positive double lies: the least `p` with the
double below `10 ^ p`, found next to an estimate from the binary length. -/
def Rounding.point (r : Rounding) : Int :=
  let estimate := ((r.value.log2 : Int) + r.exponent) * 30103 / 100000
  let isBelow (p : Int) : Bool := scaleBinary r.exponent p r.value < scaleDecimal r.exponent p 1
  if isBelow estimate then estimate
  else if isBelow (estimate + 1) then estimate + 1
  else estimate + 2

/-- Move trailing zeros of the digits into the exponent, `fuel` of them at most. -/
def stripZeros : (fuel : Nat) → Decimal → Decimal
  | 0, d => d
  | fuel + 1, d =>
    if d.digits % 10 = 0 && d.digits != 0 then
      stripZeros fuel ⟨d.digits / 10, d.exponent + 1⟩
    else d

/-- The first decimal with at least `count` digits that reads back, trying
`fuel` digit counts. -/
def searchShortest (r : Rounding) (point : Int) : (fuel count : Nat) → Decimal
  | 0, _ => ⟨0, 0⟩
  | fuel + 1, count =>
    match r.onGrid? (point - count) with
    | some d => d
    | none => searchShortest r point fuel (count + 1)

/-- The shortest decimal that reads back as `mantissa * 2 ^ exponent`. Seventeen
digits are enough for every double. -/
def shortest (mantissa : Nat) (exponent : Int) : Decimal :=
  let r := Rounding.of mantissa exponent
  stripZeros 18 (searchShortest r r.point 17 1)

end Decimal

end RoomLayout
