import RoomLayout.Decimal.Format

/-!
# Plain scalars

What text without quotes stands for: nothing, a truth value, a number, or just
itself. Text that does not stand for itself has to be quoted to stay text.
-/

namespace RoomLayout.Yaml

/-- How numbers are written: around the point down to `0.00001` and below
`1e16`, always with a point there. -/
def numberFormat : DecimalFormat where
  lowestPoint := -4
  highestPoint := 16
  emptyFraction := ".0"
  exponentMark := "e"
  positiveInfinity := ".inf"
  negativeInfinity := "-.inf"
  undefined := ".nan"

/-- The texts that stand for nothing. -/
def nullWords : List String := ["null", "Null", "NULL", "~"]

/-- The truth value that a text stands for, if it does. -/
def truthValue? (text : String) : Option Bool :=
  if text ∈ ["true", "True", "TRUE"] then some true
  else if text ∈ ["false", "False", "FALSE"] then some false
  else none

/-- The number that a text stands for, if it does: a decimal that is not beyond
the doubles, or one of the words for infinite and undefined numbers. -/
def number? (text : String) : Option Float :=
  if text ∈ [".inf", ".Inf", ".INF", "+.inf", "+.Inf", "+.INF"] then some (1 / 0)
  else if text ∈ ["-.inf", "-.Inf", "-.INF"] then some (-1 / 0)
  else if text ∈ [".nan", ".NaN", ".NAN"] then some (0 / 0)
  else (Decimal.readSigned text.toList).filter Float.isFinite

/-- Text without the sign in front of it. -/
def unsigned : List Char → List Char
  | '-' :: rest => rest
  | '+' :: rest => rest
  | rest => rest

/-- Whether a text is a whole number with a zero in front of other digits. -/
def hasLeadingZero (text : List Char) : Bool :=
  match unsigned text with
  | '0' :: rest => !rest.isEmpty && rest.all Char.isDigit
  | _ => false

/-- What a digit counts for, with letters from ten on. -/
def digitValue (c : Char) : Nat :=
  if c.isDigit then c.toNat - '0'.toNat
  else if c.isLower then c.toNat - 'a'.toNat + 10
  else if c.isUpper then c.toNat - 'A'.toNat + 10
  else 36

/-- The count that digits write in a base, if they all are digits of it. -/
def countIn? (base : Nat) (digits : List Char) : Option Nat :=
  if digits.isEmpty || digits.any (fun c => base ≤ digitValue c) then none
  else some (digits.foldl (fun count c => base * count + digitValue c) 0)

/-- Whether a text is a whole number of 128 bits in base 16, 8 or 2. -/
def isBasedInteger (text : List Char) : Bool :=
  let limit := if text.head? = some '-' then Nat.pow 2 127 else Nat.pow 2 128 - 1
  let count? := match unsigned text with
    | '0' :: 'x' :: digits => countIn? 16 digits
    | '0' :: 'o' :: digits => countIn? 8 digits
    | '0' :: 'b' :: digits => countIn? 2 digits
    | _ => none
  count?.any (· ≤ limit)

/-- Whether a text without quotes would not be read as text by every reader. -/
def isAmbiguous (text : String) : Bool :=
  text = "" || text ∈ nullWords || (truthValue? text).isSome || (number? text).isSome
    || isBasedInteger text.toList || hasLeadingZero text.toList

end RoomLayout.Yaml
