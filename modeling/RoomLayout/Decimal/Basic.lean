/-!
# Decimals

Numbers in decimal form, and the doubles they stand for.
-/

namespace RoomLayout

/-- The number `digits * 10 ^ exponent`. -/
structure Decimal where
  digits : Nat
  exponent : Int
  deriving BEq, DecidableEq

namespace Decimal

/-- The number of decimal digits of a count; zero has one. -/
def digitCount (n : Nat) : Nat := (Nat.toDigits 10 n).length

/-- How many places the decimal point lies after the first digit's left edge. -/
def point (d : Decimal) : Int := digitCount d.digits + d.exponent

/-- The double nearest to a decimal, ties to even; infinite beyond the doubles.
A decimal whose point lies 400 places out is beyond them, one whose point lies
400 places in is nearest to zero. -/
def toFloat (d : Decimal) : Float :=
  if d.digits = 0 then 0
  else if d.point > 400 then 1 / 0
  else if d.point < -400 then 0
  else if d.exponent < 0 then Float.ofScientific d.digits true d.exponent.natAbs
  else Float.ofScientific d.digits false d.exponent.natAbs

/-- The count written by decimal digits. -/
def ofDigits (digits : List Char) : Nat :=
  digits.foldl (fun value digit => 10 * value + (digit.toNat - 48)) 0

/-- Read an exponent: a sign or none, and at least one digit. -/
def readExponent (text : List Char) : Option Int :=
  let (negative, digits) := match text with
    | '-' :: rest => (true, rest)
    | '+' :: rest => (false, rest)
    | rest => (false, rest)
  if digits.isEmpty || !digits.all Char.isDigit then none
  else some (if negative then -(ofDigits digits : Int) else ofDigits digits)

/-- Read what follows the digits of a number: nothing, or a letter `e` and an
exponent. -/
def readTail : List Char → Option Int
  | [] => some 0
  | c :: rest => if c = 'e' || c = 'E' then readExponent rest else none

/-- Read an unsigned decimal: digits with a point among, before or after them or
none, at least one digit, and an exponent or none. -/
def ofChars? (text : List Char) : Option Decimal :=
  let whole := text.takeWhile Char.isDigit
  let rest := text.dropWhile Char.isDigit
  let (fraction, rest) := match rest with
    | '.' :: rest => (rest.takeWhile Char.isDigit, rest.dropWhile Char.isDigit)
    | rest => ([], rest)
  if whole.isEmpty && fraction.isEmpty then none
  else (readTail rest).map fun exponent =>
    ⟨ofDigits (whole ++ fraction), exponent - fraction.length⟩

/-- Read a decimal with a sign or none as the nearest double. -/
def readSigned (text : List Char) : Option Float :=
  match text with
  | '-' :: rest => (ofChars? rest).map fun d => -d.toFloat
  | '+' :: rest => (ofChars? rest).map toFloat
  | rest => (ofChars? rest).map toFloat

end Decimal

end RoomLayout
