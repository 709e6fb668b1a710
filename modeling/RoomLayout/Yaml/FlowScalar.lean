import RoomLayout.Yaml.Escape
import RoomLayout.Yaml.Folding
import RoomLayout.Yaml.Node
import RoomLayout.Yaml.Place
import RoomLayout.Yaml.PlainValue

/-!
# Scalars among other text

Reads scalars without quotes and in quotes. Both may span lines, which are
folded. A text without quotes goes on as long as its lines keep the margin and
nothing in it has a meaning of its own.
-/

namespace RoomLayout.Yaml

/-- Whether a scalar without quotes can start with this text. -/
def startsPlain (inFlow : Bool) : List Char → Bool
  | [] => false
  | c :: rest =>
    if isSpacing c || isReserved c then false
    else if c = '-' then !startsWithSpacing rest
    else if c = '?' || c = ':' then !inFlow && !startsWithSpacing rest
    else true

/-- Whether a scalar without quotes ends before this text. -/
def endsPlain (inFlow : Bool) : List Char → Bool
  | [] => true
  | c :: rest => (c = ':' && startsWithSpacing rest) || (inFlow && isFlowIndicator c)

/-- Whether a colon stands before an indicator of a flow collection, where it is
neither part of a text nor the mark of a key. -/
def hasStrayColon : List Char → Bool
  | ':' :: c :: _ => isFlowIndicator c || c = '?'
  | _ => false

/-- Read on in a scalar without quotes. The text so far is held with its last
character first; blanks and breaks count only when a word follows. -/
def readPlain (inFlow : Bool) (margin : Nat) (text : List Char) (spacing : Spacing)
    (line column : Nat) : List Char → Option (String × Place)
  | [] => some (String.ofList text.reverse, ⟨[], line, column, spacing.hasBreak⟩)
  | c :: rest =>
    if isBlank c then
      if c = '\t' && spacing.hasBreak && column < margin then none
      else readPlain inFlow margin text (spacing.addBlank c) line (column + 1) rest
    else if isBreak c then
      readPlain inFlow margin text (spacing.addBreak c) (line + 1) 0 rest
    else if (spacing.hasBreak && !inFlow && column < margin)
        || (column = 0 && startsWithMarker (c :: rest))
        || (!spacing.isEmpty && c = '#') then
      some (String.ofList text.reverse, ⟨c :: rest, line, column, spacing.hasBreak⟩)
    else if inFlow && hasStrayColon (c :: rest) then none
    else if endsPlain inFlow (c :: rest) then
      some (String.ofList text.reverse, ⟨c :: rest, line, column, spacing.hasBreak⟩)
    else
      readPlain inFlow margin (c :: (spacing.foldedReversed ++ text)) .none line (column + 1) rest

/-- The character of a number that is one: not a surrogate, and not too large. -/
def characterOf? (count : Nat) : Option Char :=
  if count.isValidChar then some (Char.ofNat count) else none

/-- What a backslash stands for with the text behind it, and how many characters
of that text it takes. -/
def readEscape : List Char → Option (Char × Nat)
  | [] => none
  | letter :: rest =>
    match characterFor? letter with
    | some c => some (c, 1)
    | none =>
      match numericEscapes.lookup letter with
      | none => none
      | some width => do
        let digits := rest.take width
        if digits.length < width then none
        else do
          let c ← characterOf? (← countIn? 16 digits)
          return (c, width + 1)

/-- Read on behind an opening quote up to the closing one. So many characters
are to be passed over because an escape has taken them. -/
def readQuoted (double : Bool) (passed : Nat) (text : List Char) (spacing : Spacing)
    (line column : Nat) : List Char → Option (String × Place)
  | [] => none
  | c :: rest =>
    match passed with
    | passed + 1 => readQuoted double passed text spacing line (column + 1) rest
    | 0 =>
      if column = 0 && startsWithMarker (c :: rest) then none
      else if isBlank c then
        readQuoted double 0 text (spacing.addBlank c) line (column + 1) rest
      else if isBreak c then
        readQuoted double 0 text (spacing.addBreak c) (line + 1) 0 rest
      else
        let text := spacing.foldedReversed ++ text
        if c = '\x27' && !double then
          if rest.head? = some '\x27' then
            readQuoted double 1 ('\x27' :: text) .none line (column + 1) rest
          else some (String.ofList text.reverse, ⟨rest, line, column + 1, false⟩)
        else if c = '\x22' && double then
          some (String.ofList text.reverse, ⟨rest, line, column + 1, false⟩)
        else if c = '\\' && double then
          match rest with
          | [] => none
          | next :: rest' =>
            if isBreak next then
              readQuoted double 0 text (.breaks Option.none []) (line + 1) 0 rest'
            else
              match readEscape (next :: rest') with
              | none => none
              | some (c, width) =>
                readQuoted double width (c :: text) .none line (column + 1) (next :: rest')
        else readQuoted double 0 (c :: text) .none line (column + 1) rest

namespace Place

/-- Read the scalar in quotes that starts here. -/
def quoted? (place : Place) : Option (Scalar × Place) :=
  match place.rest with
  | [] => none
  | c :: rest =>
    let double := c = '\x22'
    (readQuoted double 0 [] .none place.line (place.column + 1) rest).map fun (text, after) =>
      ({ style := if double then .doubleQuoted else .singleQuoted, text }, after)

/-- Read the scalar without quotes that starts here. -/
def plain? (place : Place) (inFlow : Bool) (margin : Nat) : Option (Scalar × Place) :=
  if startsPlain inFlow place.rest then
    (readPlain inFlow margin [] .none place.line place.column place.rest).map fun (text, after) =>
      ({ style := .plain, text }, after)
  else none

end Place

end RoomLayout.Yaml
