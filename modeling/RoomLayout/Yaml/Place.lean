import RoomLayout.Yaml.Character

/-!
# Places in a YAML text

Where reading has come to: what is still to be read, the line and the column,
and whether a key of a block mapping may start here. A key may start at the
beginning of a line and behind the indicators that open an entry.
-/

namespace RoomLayout.Yaml

/-- A place in a text. Lines and columns count from zero. -/
structure Place where
  rest : List Char
  line : Nat
  column : Nat
  keyAllowed : Bool

/-- Whether a text starts with a line of three dashes or dots, which stands
between documents. -/
def startsWithMarker : List Char → Bool
  | '-' :: '-' :: '-' :: rest => startsWithSpacing rest
  | '.' :: '.' :: '.' :: rest => startsWithSpacing rest
  | _ => false

namespace Place

/-- The beginning of a text. -/
def start (text : List Char) : Place := ⟨text, 0, 0, true⟩

/-- The place so many characters further on the same line. -/
def skip (place : Place) (count : Nat) (keyAllowed : Bool) : Place :=
  { place with
    rest := place.rest.drop count, column := place.column + count, keyAllowed }

/-- Whether the text ends here or another document starts. -/
def atDocumentEnd (place : Place) : Bool :=
  place.rest.isEmpty || (place.column = 0 && startsWithMarker place.rest)

/-- Whether a character stands here. -/
def isAt (place : Place) (c : Char) : Bool := place.rest.head? = some c

/-- Whether an indicator stands here, set off by a blank or the end of the line. -/
def isAtIndicator (place : Place) (c : Char) : Bool :=
  place.isAt c && startsWithSpacing place.rest.tail

/-- Go to the next token, over blanks, comments and line breaks. A tab stands in
for a space only where it cannot be taken for indentation. -/
def seekFrom (inFlow : Bool) (line column : Nat) (keyAllowed inComment : Bool) :
    List Char → Place
  | [] => ⟨[], line, column, keyAllowed⟩
  | c :: rest =>
    if isBreak c then seekFrom inFlow (line + 1) 0 (keyAllowed || !inFlow) false rest
    else if inComment then seekFrom inFlow line (column + 1) keyAllowed true rest
    else if c = ' ' || (c = '\t' && (inFlow || !keyAllowed)) then
      seekFrom inFlow line (column + 1) keyAllowed false rest
    else if c = '#' then seekFrom inFlow line (column + 1) keyAllowed true rest
    else ⟨c :: rest, line, column, keyAllowed⟩

/-- The next token. -/
def seek (place : Place) (inFlow : Bool) : Place :=
  seekFrom inFlow place.line place.column place.keyAllowed false place.rest

end Place

end RoomLayout.Yaml
