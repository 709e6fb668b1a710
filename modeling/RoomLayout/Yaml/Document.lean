import RoomLayout.Yaml.Nesting

/-!
# YAML documents

The tree of a text that holds one document. Directives and the line of dashes
may come before the tree, a line of dots after it.
-/

namespace RoomLayout.Yaml

/-- A line in front of a document. -/
inductive Directive where
  | version
  /-- A tag handle and what it stands for. -/
  | handle (name meaning : String)

/-- The first word of a line, and the line from its second word on. -/
def nextWord (line : List Char) : List Char × List Char :=
  (line.takeWhile fun c => !isBlank c, (line.dropWhile fun c => !isBlank c).dropWhile isBlank)

/-- Whether nothing but a comment is left of a line. -/
def isLineOver (line : List Char) : Bool := line.isEmpty || line.head? = some '#'

/-- Whether a text is a tag handle: one or two exclamation marks, with a name
between two. -/
def isHandle (text : List Char) : Bool :=
  text = ['!'] ||
    (2 ≤ text.length && text.head? = some '!' && text.getLast? = some '!'
      && text.tail.dropLast.all isNameCharacter)

/-- Read a directive from its line. -/
def Directive.read (line : List Char) : Option Directive :=
  let (name, rest) := nextWord line
  let (first, rest) := nextWord rest
  let (second, last) := nextWord rest
  if name = ['%', 'Y', 'A', 'M', 'L'] then
    if isLineOver rest && (first = ['1', '.', '1'] || first = ['1', '.', '2']) then some .version
    else none
  else if name = ['%', 'T', 'A', 'G'] then
    if isLineOver last && isHandle first && !second.isEmpty && second.all isVerbatimCharacter then
      (decodePercent second).map (.handle (String.ofList first))
    else none
  else none

/-- Whether a directive repeats an earlier one. -/
def Directive.repeats (handles : TagHandles) (hasVersion : Bool) : Directive → Bool
  | .version => hasVersion
  | .handle name _ => (handles.lookup name).isSome

/-- Read the directives that start at a place, up to the line of dashes. -/
def readDirectives : (fuel : Nat) → TagHandles → (hasVersion : Bool) → Place →
    Option (TagHandles × Place)
  | 0, _, _, _ => none
  | fuel + 1, handles, hasVersion, place =>
    let place := place.seek false
    if place.column = 0 && place.isAt '%' then do
      let line := place.rest.takeWhile fun c => !isBreak c
      let directive ← Directive.read line
      if directive.repeats handles hasVersion then none
      else
        let next := place.skip line.length true
        match directive with
        | .version => readDirectives fuel handles true next
        | .handle name meaning => readDirectives fuel ((name, meaning) :: handles) hasVersion next
    else if place.column = 0 && startsWithMarker place.rest && place.isAt '-' then
      some (handles ++ standardHandles, place)
    else none

/-- Whether nothing follows a document but lines of dots, comments and blanks. -/
def isOver : (fuel : Nat) → Place → Bool
  | 0, _ => false
  | fuel + 1, place =>
    let place := place.seek false
    if place.rest.isEmpty then true
    else
      place.column = 0 && place.isAt '.' && startsWithMarker place.rest
        && isOver fuel (place.skip 3 false)

/-- A text with line feeds for the other breaks that a line can end with. The
separators of lines and paragraphs stay, they are characters of scalars. -/
def unifyBreaks (text : List Char) : List Char :=
  let (reversed, _) := text.foldl (fun (state : List Char × Bool) c =>
    if c = '\n' && state.2 then (state.1, false)
    else if c = '\r' then ('\n' :: state.1, true)
    else if c = '\x85' then ('\n' :: state.1, false)
    else (c :: state.1, false)) ([], false)
  reversed.reverse

/-- A text without the mark of its byte order. -/
def dropByteOrderMark : List Char → List Char
  | '\ufeff' :: rest => rest
  | text => text

/-- Where the node of a document starts, and the tag handles that it knows. -/
def documentStart (fuel : Nat) (text : List Char) : Option Reader :=
  let first := (Place.start text).seek false
  if first.column = 0 && first.isAt '%' then do
    let (handles, place) ← readDirectives fuel [] false first
    return { place := place.skip 3 false, handles }
  else if first.column = 0 && startsWithMarker first.rest then
    if first.isAt '-' then some { place := first.skip 3 false, handles := standardHandles }
    else none
  else some { place := first, handles := standardHandles }

/-- The tree of a text, if it holds one document. -/
def readDocument (text : List Char) : Option Node := do
  let fuel := 8 * (text.length + 1)
  let reader ← documentStart fuel text
  let (node, after) ← readBlockNode 0 false fuel {} reader
  if isOver fuel after.place then some node else none

/-- The tree of a text, if it holds one document and only characters that a text
may hold. -/
def Node.ofText? (text : String) : Option Node :=
  let characters := dropByteOrderMark text.toList
  if characters.all isAllowed then readDocument (unifyBreaks characters) else none

end RoomLayout.Yaml
