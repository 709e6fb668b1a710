import RoomLayout.Yaml.Node
import RoomLayout.Yaml.Place
import RoomLayout.Yaml.PlainValue

/-!
# Properties of nodes

Anchors and tags, which stand before a node. An anchor gives the node a name by
which an alias repeats it; a tag says what it is.
-/

namespace RoomLayout.Yaml

/-- What stands before a node. -/
structure Properties where
  anchor : Option String := none
  tag : Option String := none

/-- The tag handles of a document and what each stands for. -/
abbrev TagHandles := List (String × String)

/-- The handles that every document knows. -/
def standardHandles : TagHandles := [("!", "!"), ("!!", "tag:yaml.org,2002:")]

/-- The characters of a tag behind its handle. -/
def isTagCharacter (c : Char) : Bool :=
  isNameCharacter c || c ∈ [';', '/', '?', ':', '@', '&', '=', '+', '$', '.', '!', '~', '*',
    '\x27', '(', ')', '%']

/-- The characters of a tag that is written out between angle brackets. -/
def isVerbatimCharacter (c : Char) : Bool := isTagCharacter c || c = ',' || c = '[' || c = ']'

/-- The bytes of a text in which some are written as a percent sign and two
digits. So many characters are to be passed over. -/
def percentBytes (passed : Nat) : List Char → Option (List UInt8)
  | [] => some []
  | c :: rest =>
    match passed with
    | passed + 1 => percentBytes passed rest
    | 0 =>
      if c != '%' then do
        return (String.singleton c).toUTF8.toList ++ (← percentBytes 0 rest)
      else do
        let digits := rest.take 2
        if digits.length < 2 then none
        else do
          let byte ← countIn? 16 digits
          return UInt8.ofNat byte :: (← percentBytes 2 rest)

/-- The text for which some characters are written as percent signs and digits. -/
def decodePercent (text : List Char) : Option String := do
  String.fromUTF8? ⟨(← percentBytes 0 text).toArray⟩

/-- Cut a tag into its handle and the rest. A tag with one exclamation mark has
that as its handle; alone it stands for itself. -/
def cutTag (text : List Char) : String × List Char :=
  let name := text.tail.takeWhile isNameCharacter
  match text.tail.drop name.length with
  | '!' :: rest => (String.ofList ('!' :: name ++ ['!']), rest)
  | _ => if text = ['!'] then ("", text) else ("!", text.tail)

/-- Read the tag that starts a text, and what follows it. -/
def readTag (handles : TagHandles) (text : List Char) : Option (String × List Char) :=
  if text.tail.head? = some '<' then do
    let body := text.drop 2
    let name := body.takeWhile isVerbatimCharacter
    match body.drop name.length with
    | '>' :: rest => if name.isEmpty then none else return (← decodePercent name, rest)
    | _ => none
  else do
    let written := text.takeWhile isTagCharacter
    let (handle, suffix) := cutTag written
    let suffix ← decodePercent suffix
    let rest := text.drop written.length
    if handle = "" then return (suffix, rest)
    else if suffix.isEmpty then none
    else return ((← handles.lookup handle) ++ suffix, rest)

/-- Whether a tag may end before this text. -/
def endsTag (inFlow : Bool) (text : List Char) : Bool :=
  startsWithSpacing text || (inFlow && text.head? = some ',')

/-- Whether the name of an anchor may end before this text. -/
def endsAnchor : List Char → Bool
  | [] => true
  | c :: _ => isSpacing c || c ∈ ['?', ':', ',', ']', '\x7d', '%', '@', '\x60']

/-- Read the name behind the sign of an anchor or an alias. -/
def Place.name? (place : Place) : Option (String × Place) :=
  let name := place.rest.tail.takeWhile isNameCharacter
  let after := place.skip (name.length + 1) false
  if name.isEmpty || !endsAnchor after.rest then none
  else some (String.ofList name, after)

/-- Read the tag that starts here. -/
def Place.tag? (place : Place) (handles : TagHandles) (inFlow : Bool) :
    Option (String × Place) := do
  let (tag, rest) ← readTag handles place.rest
  if endsTag inFlow rest then
    return (tag, place.skip (place.rest.length - rest.length) false)
  else none

/-- Both properties of two, which must not have one twice. -/
def Properties.merge (outer inner : Properties) : Option Properties :=
  if (outer.anchor.isSome && inner.anchor.isSome) || (outer.tag.isSome && inner.tag.isSome) then
    none
  else
    some { anchor := outer.anchor.orElse fun _ => inner.anchor
           tag := outer.tag.orElse fun _ => inner.tag }

/-- Whether there is no property. -/
def Properties.isEmpty (properties : Properties) : Bool :=
  properties.anchor.isNone && properties.tag.isNone

/-- Read properties up to the first token that is none or stands on another line.
There are two at most. -/
def Place.properties? (handles : TagHandles) (inFlow : Bool) :
    (fuel : Nat) → Properties → Place → Option (Properties × Place)
  | 0, properties, place => some (properties, place)
  | fuel + 1, properties, place =>
    let goOn (inner : Properties) (after : Place) : Option (Properties × Place) := do
      let properties ← properties.merge inner
      let next := after.seek inFlow
      if next.line = place.line || inFlow then Place.properties? handles inFlow fuel properties next
      else return (properties, next)
    if place.isAt '&' then do
      let (name, after) ← place.name?
      goOn { anchor := some name } after
    else if place.isAt '!' then do
      let (tag, after) ← place.tag? handles inFlow
      goOn { tag := some tag } after
    else some (properties, place)

end RoomLayout.Yaml
