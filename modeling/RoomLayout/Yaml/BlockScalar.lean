import RoomLayout.Yaml.Node
import RoomLayout.Yaml.Place

/-!
# Block scalars

Reads scalars that are blocks of lines behind a header. The margin is set by the
header or by the first line that is not empty; the block ends before the first
line that does not keep it.
-/

namespace RoomLayout.Yaml

/-- What becomes of the line breaks at the end of a block. -/
inductive Chomping where
  /-- None is kept. -/
  | strip
  /-- One is kept. -/
  | clip
  /-- All are kept. -/
  | keep
  deriving BEq, DecidableEq

/-- What the header of a block says. -/
structure BlockHeader where
  chomping : Chomping := .clip
  /-- The width of the margin, counted from the margin of what holds the block. -/
  width : Option Nat := none

/-- Read the rest of a header: at most one sign and one digit, in any order. -/
def BlockHeader.read (header : BlockHeader) : List Char → Option (BlockHeader × List Char)
  | [] => some (header, [])
  | c :: rest =>
    if c = '+' || c = '-' then
      if header.chomping != .clip then none
      else BlockHeader.read { header with chomping := if c = '+' then .keep else .strip } rest
    else if c.isDigit then
      if header.width.isSome || c = '0' then none
      else BlockHeader.read { header with width := some (c.toNat - '0'.toNat) } rest
    else some (header, c :: rest)

/-- Go past the line of a header, on which only a comment may follow. -/
def skipHeaderLine (inComment : Bool) : List Char → Option (List Char)
  | [] => some []
  | c :: rest =>
    if isBreak c then some rest
    else if inComment || isBlank c then skipHeaderLine inComment rest
    else if c = '#' then skipHeaderLine true rest
    else none

/-- The widest margin up to the first line that is not empty. A tab before the
first character is an error. -/
def widestMargin (column widest : Nat) : List Char → Option Nat
  | [] => some (max widest column)
  | c :: rest =>
    if c = ' ' then widestMargin (column + 1) widest rest
    else if c = '\t' then none
    else if isBreak c then widestMargin 0 (max widest column) rest
    else some (max widest column)

/-- The line break between two lines of a block, with the empty lines between
them; last character first. In a folded block a break between two lines that
start with a word becomes a space, or goes if empty lines follow. -/
def joinLines (folded afterBlank beforeBlank : Bool) (lead : Option Char)
    (emptyReversed : List Char) : List Char :=
  if folded && lead = some '\n' && !afterBlank && !beforeBlank then
    if emptyReversed.isEmpty then [' '] else emptyReversed
  else emptyReversed ++ lead.toList

/-- Reading a block: the text so far with its last character first, the break at
the end of the last line, those of the empty lines behind it, and whether the
last line started with a blank. -/
structure BlockText where
  textReversed : List Char := []
  lead : Option Char := none
  emptyReversed : List Char := []
  afterBlank : Bool := false

/-- The text of a block that has ended. -/
def BlockText.finish (block : BlockText) (chomping : Chomping) : String :=
  let tail := match chomping with
    | .strip => []
    | .clip => block.lead.toList
    | .keep => block.emptyReversed ++ block.lead.toList
  String.ofList (tail ++ block.textReversed).reverse

/-- Read on in a block, in the margin of a line or in its text. -/
def readBlock (folded : Bool) (margin : Nat) (block : BlockText) (inText : Bool)
    (line column : Nat) : List Char → Option (BlockText × Place)
  | [] => some (block, ⟨[], line, column, true⟩)
  | c :: rest =>
    if isBreak c then
      let block :=
        if inText then { block with lead := some c, emptyReversed := [] }
        else { block with emptyReversed := c :: block.emptyReversed }
      readBlock folded margin block false (line + 1) 0 rest
    else if inText then
      readBlock folded margin { block with textReversed := c :: block.textReversed } true line
        (column + 1) rest
    else if column < margin then
      if c = ' ' then readBlock folded margin block false line (column + 1) rest
      else if c = '\t' then none
      else some (block, ⟨c :: rest, line, column, true⟩)
    else if column = margin then
      let joint := joinLines folded block.afterBlank (isBlank c) block.lead block.emptyReversed
      let block := { textReversed := c :: (joint ++ block.textReversed), afterBlank := isBlank c }
      readBlock folded margin block true line (column + 1) rest
    else some (block, ⟨c :: rest, line, column, true⟩)

/-- Read the block that starts here, inside something whose entries keep a given
margin. -/
def Place.block? (place : Place) (outer : Nat) : Option (Scalar × Place) := do
  let folded := place.isAt '>'
  let (header, rest) ← BlockHeader.read {} place.rest.tail
  let rest ← skipHeaderLine false rest
  let margin ← match header.width with
    | some width => some (outer - 1 + width)
    | none => (widestMargin 0 0 rest).map fun widest => max (max widest outer) 1
  let (block, after) ← readBlock folded margin {} false (place.line + 1) 0 rest
  return ({ style := if folded then .folded else .literal, text := block.finish header.chomping },
    after)

end RoomLayout.Yaml
