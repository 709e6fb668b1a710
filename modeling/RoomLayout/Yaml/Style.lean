import RoomLayout.Yaml.Character
import RoomLayout.Yaml.Node
import RoomLayout.Yaml.PlainValue

/-!
# Scalar styles

How a scalar is written so that it reads back: without quotes where that is
possible, else in single quotes, else in double quotes with escapes, and text of
several lines as a literal block if its lines can stand as they are.
-/

namespace RoomLayout.Yaml

/-- Whether some two neighbours in a list are related. -/
def hasNeighbours (related : Char → Char → Bool) : List Char → Bool
  | first :: second :: rest => related first second || hasNeighbours related (second :: rest)
  | _ => false

/-- Whether every character can be written as it is. -/
def isWritable (text : List Char) : Bool := text.all isPrintable

/-- Whether spaces and line breaks touch each other, so that folding lines would
lose one of them. -/
def hasSpacedBreak (text : List Char) : Bool :=
  hasNeighbours (fun first second =>
    (first = ' ' && isBreak second) || (isBreak first && second = ' ')) text

/-- Whether text looks like the start or end of a document. -/
def startsLikeDocument : List Char → Bool
  | '-' :: '-' :: '-' :: _ => true
  | '.' :: '.' :: '.' :: _ => true
  | _ => false

/-- Whether text starts with a character that has a meaning of its own there. -/
def startsWithIndicator : List Char → Bool
  | [] => false
  | c :: rest =>
    isReserved c || ((c = '?' || c = ':' || c = '-') && startsWithSpacing rest)

/-- Whether text holds a colon before a blank, as after a key. -/
def holdsKeyMark : List Char → Bool
  | [] => false
  | c :: rest => (c = ':' && startsWithSpacing rest) || holdsKeyMark rest

/-- Whether text holds a number sign after a blank, as before a comment. -/
def holdsComment (text : List Char) : Bool :=
  hasNeighbours (fun first second => isSpacing first && second = '#') text

/-- Whether text can be written without quotes. -/
def fitsPlain (text : List Char) : Bool :=
  !text.isEmpty && isWritable text && !text.any isBreak
    && text.head? != some ' ' && text.getLast? != some ' '
    && !startsLikeDocument text && !startsWithIndicator text
    && !holdsKeyMark text && !holdsComment text

/-- Whether text can be written in single quotes. -/
def fitsSingleQuotes (text : List Char) : Bool := isWritable text && !hasSpacedBreak text

/-- Whether text can be written as a literal block. No space may stand before a
break or at the end. -/
def fitsLiteral (text : List Char) : Bool :=
  isWritable text && text.getLast? != some ' '
    && !hasNeighbours (fun first second => first = ' ' && isBreak second) text

/-- The style in which a text is written. -/
def styleOf (text : String) : ScalarStyle :=
  let characters := text.toList
  if characters.contains '\n' then
    if fitsLiteral characters then .literal else .doubleQuoted
  else if !isAmbiguous text && fitsPlain characters then .plain
  else if fitsSingleQuotes characters then .singleQuoted
  else .doubleQuoted

namespace Node

/-- The node of a text. -/
def text (text : String) : Node := .scalar { style := styleOf text, text }

/-- The node of a truth value. -/
def truth (value : Bool) : Node := plain (if value then "true" else "false")

/-- The node of a number. -/
def number (value : Float) : Node := plain (numberFormat.writeFloat value)

/-- The node of a text or of nothing. -/
def optionalText : Option String → Node
  | none => plain "null"
  | some value => text value

end Node

end RoomLayout.Yaml
