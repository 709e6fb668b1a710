import RoomLayout.Decimal.Shortest

/-!
# Decimal formats

How a decimal is laid out as text. A format says for which places of the
decimal point the digits are written around it; beyond, they are written with
an exponent.
-/

namespace RoomLayout

/-- The layout of decimals. -/
structure DecimalFormat where
  /-- The lowest place of the point for which no exponent is written. -/
  lowestPoint : Int
  /-- The highest place of the point for which no exponent is written. -/
  highestPoint : Int
  /-- What is written for a fraction that is empty. -/
  emptyFraction : String
  /-- What is written before an exponent. -/
  exponentMark : String
  positiveInfinity : String
  negativeInfinity : String
  undefined : String

namespace DecimalFormat

/-- A run of zeros. -/
def zeros (count : Nat) : String := String.ofList (List.replicate count '0')

/-- Digits and the power of ten of the last one, without an exponent. -/
def writePlain (format : DecimalFormat) (digits : List Char) (point : Int) : String :=
  if point ≤ 0 then "0." ++ zeros point.natAbs ++ String.ofList digits
  else if digits.length ≤ point.toNat then
    String.ofList digits ++ zeros (point.toNat - digits.length) ++ format.emptyFraction
  else
    String.ofList (digits.take point.toNat) ++ "." ++ String.ofList (digits.drop point.toNat)

/-- Digits with an exponent; a single digit has no point. -/
def writeScientific (format : DecimalFormat) (digits : List Char) (point : Int) : String :=
  let fraction := if digits.tail.isEmpty then "" else "." ++ String.ofList digits.tail
  String.ofList (digits.take 1) ++ fraction ++ format.exponentMark ++ toString (point - 1)

/-- A decimal as text. -/
def write (format : DecimalFormat) (d : Decimal) : String :=
  let digits := Nat.toDigits 10 d.digits
  if d.digits = 0 then "0" ++ format.emptyFraction
  else if format.lowestPoint ≤ d.point && d.point ≤ format.highestPoint then
    format.writePlain digits d.point
  else format.writeScientific digits d.point

/-- A double as the shortest text that reads back. -/
def writeFloat (format : DecimalFormat) (x : Float) : String :=
  match DoubleValue.ofFloat x with
  | .undefined => format.undefined
  | .infinite false => format.positiveInfinity
  | .infinite true => format.negativeInfinity
  | .finite negative mantissa exponent =>
    (if negative then "-" else "") ++
      format.write (if mantissa = 0 then ⟨0, 0⟩ else Decimal.shortest mantissa exponent)

end DecimalFormat

end RoomLayout
