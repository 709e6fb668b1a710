/-!
# Characters of YAML

The character classes by which YAML text is cut: blanks, line breaks,
indicators, and the characters that may stand in a text as they are.
-/

namespace RoomLayout.Yaml

/-- A space or a tab. -/
def isBlank (c : Char) : Bool := c = ' ' || c = '\t'

/-- The characters that end a line; besides the line feed these are the carriage
return, the next-line character, and the line and paragraph separators. -/
def isBreak (c : Char) : Bool :=
  c = '\n' || c = '\r' || c = '\x85' || c = '\u2028' || c = '\u2029'

/-- A blank or a line break. -/
def isSpacing (c : Char) : Bool := isBlank c || isBreak c

/-- Whether a text starts with a blank or a line break, or is empty. -/
def startsWithSpacing : List Char → Bool
  | [] => true
  | c :: _ => isSpacing c

/-- The characters that are written as they are. -/
def isPrintable (c : Char) : Bool :=
  c = '\n' || (' ' ≤ c && c ≤ '~') || ('\xa0' ≤ c && c ≤ '\ud7ff')
    || ('\ue000' ≤ c && c ≤ '\ufffd' && c != '\ufeff')

/-- The characters that a text may hold at all. -/
def isAllowed (c : Char) : Bool :=
  c = '\t' || c = '\n' || c = '\r' || (' ' ≤ c && c ≤ '~') || c = '\x85'
    || ('\xa0' ≤ c && c ≤ '\ufffd') || 0x10000 ≤ c.toNat

/-- The characters that give structure to a flow collection. -/
def isFlowIndicator (c : Char) : Bool :=
  c = ',' || c = '[' || c = ']' || c = '\x7b' || c = '\x7d'

/-- The characters with which no plain scalar starts, whatever follows. -/
def isReserved (c : Char) : Bool :=
  isFlowIndicator c || c = '#' || c = '&' || c = '*' || c = '!' || c = '|' || c = '>'
    || c = '\x27' || c = '\x22' || c = '%' || c = '@' || c = '\x60'

/-- The characters of names: of anchors and of tag handles. -/
def isNameCharacter (c : Char) : Bool := c.isAlphanum || c = '-' || c = '_'

end RoomLayout.Yaml
