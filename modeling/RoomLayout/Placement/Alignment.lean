/-!
# Alignment codes

An alignment code such as `x++` says how the next room sits against the
previous one along one axis. The axis letter is followed by one of five
suffixes, the empty one included.
-/

namespace RoomLayout

/-- One of the three axes. -/
inductive Axis where
  | x
  | y
  | z
  deriving BEq, DecidableEq

/-- The letter of an axis. -/
def Axis.letter : Axis → Char
  | .x => 'x'
  | .y => 'y'
  | .z => 'z'

/-- The axis of a letter. -/
def Axis.ofLetter? : Char → Option Axis
  | 'x' => some .x
  | 'y' => some .y
  | 'z' => some .z
  | _ => none

/-- Placement of the next room relative to the previous one on one axis.

On the horizontal axes `plusPlus` puts the next room flush against the far side
of the previous one, `plus` aligns the far edges, `center` the centers, `minus`
the near edges, and `minusMinus` puts it flush against the near side. On the
vertical axis `plusPlus` stacks the next floor on the previous ceiling and
`minusMinus` hangs the next ceiling under the previous floor. -/
inductive AxisAlignment where
  | minusMinus
  | minus
  | center
  | plus
  | plusPlus
  deriving BEq, DecidableEq

/-- The suffix of an alignment. -/
def AxisAlignment.suffix : AxisAlignment → String
  | .minusMinus => "--"
  | .minus => "-"
  | .center => ""
  | .plus => "+"
  | .plusPlus => "++"

/-- The alignment of a suffix. -/
def AxisAlignment.ofSuffix? : List Char → Option AxisAlignment
  | ['-', '-'] => some .minusMinus
  | ['-'] => some .minus
  | [] => some .center
  | ['+'] => some .plus
  | ['+', '+'] => some .plusPlus
  | _ => none

/-- An alignment on a named axis. -/
structure Alignment where
  axis : Axis
  align : AxisAlignment
  deriving BEq, DecidableEq

/-- Why a text is not an alignment code. -/
inductive AlignmentError where
  /-- The text does not begin with an axis letter. -/
  | invalidAxis (code : String)
  /-- What follows the axis letter is none of the suffixes. -/
  | invalidSuffix (suffix : String)
  deriving BEq, DecidableEq

/-- The wording of an alignment error. -/
def AlignmentError.message : AlignmentError → String
  | .invalidAxis code => "invalid alignment axis in '" ++ code ++ "'"
  | .invalidSuffix suffix => "invalid alignment suffix '" ++ suffix ++ "'"

namespace Alignment

/-- The code of an alignment. -/
def display (alignment : Alignment) : String :=
  alignment.axis.letter.toString ++ alignment.align.suffix

/-- Read the characters of an alignment code. -/
def ofChars : List Char → Except AlignmentError Alignment
  | [] => .error (.invalidAxis "")
  | letter :: rest =>
    match Axis.ofLetter? letter with
    | none => .error (.invalidAxis (String.ofList (letter :: rest)))
    | some axis =>
      match AxisAlignment.ofSuffix? rest with
      | none => .error (.invalidSuffix (String.ofList rest))
      | some align => .ok ⟨axis, align⟩

/-- Read an alignment code. -/
def ofCode (code : String) : Except AlignmentError Alignment := ofChars code.toList

end Alignment

end RoomLayout
