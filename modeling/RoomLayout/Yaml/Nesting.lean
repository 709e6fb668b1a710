import RoomLayout.Yaml.BlockScalar
import RoomLayout.Yaml.FlowScalar
import RoomLayout.Yaml.Property

/-!
# Nested nodes

Reads nodes inside nodes. Block collections are told by columns: the entries of
a collection start in one column, what is inside an entry lies to the right of
it, and a sequence below a key may also start in the column of the key. Flow
collections are told by brackets and commas.

Every function takes fuel, which bounds the depth of its calls. Each call that
does not end a chain reads a character at least every few calls, so a multiple
of the length of the text suffices.
-/

namespace RoomLayout.Yaml

/-- The state of reading: the place, the tag handles of the document, and the
nodes that aliases can repeat. -/
structure Reader where
  place : Place
  handles : TagHandles
  anchors : List (String × Node) := []

namespace Reader

/-- The reader at another place. -/
def moveTo (reader : Reader) (place : Place) : Reader := { reader with place }

/-- The reader at the next token. -/
def seek (reader : Reader) (inFlow : Bool) : Reader := reader.moveTo (reader.place.seek inFlow)

/-- Give a node that has been read its properties. Only scalars keep their tags,
which may say what their text stands for. -/
def close (reader : Reader) (properties : Properties) (node : Node) : Node × Reader :=
  let node := match node, properties.tag with
    | .scalar value, some tag => .scalar { value with tag := some tag }
    | node, _ => node
  match properties.anchor with
  | none => (node, reader)
  | some name => (node, { reader with anchors := (name, node) :: reader.anchors })

end Reader

namespace Place

/-- Whether a block scalar starts here. -/
def isAtBlockScalar (place : Place) : Bool := place.isAt '|' || place.isAt '>'

/-- Whether an entry inside a flow collection is over, or turns from key to value. -/
def endsFlowNode (place : Place) : Bool :=
  place.isAt ',' || place.isAt ']' || place.isAt '\x7d' || place.isAt ':'

/-- Whether a colon at the later place can make a key of what started here: a key
is on one line, and has 1024 characters at most. -/
def reachesColon (place later : Place) : Bool :=
  later.isAt ':' && later.line = place.line && later.column ≤ place.column + 1024

/-- Whether nothing is written where something inside an entry is expected. A
block scalar or, where dashes may stand in the column of their key, a dash may
also stand one column before the margin. -/
def isOutside (place : Place) (margin : Nat) (dashes : Bool) : Bool :=
  place.atDocumentEnd ||
    (place.column < margin &&
      !(place.column + 1 = margin &&
        (place.isAtBlockScalar || (dashes && place.isAtIndicator '-'))))

end Place

mutual

/-- Read an alias, a scalar or a flow collection whose properties have been read. -/
def readInline (inFlow : Bool) (margin : Nat) :
    (fuel : Nat) → Properties → Reader → Option (Node × Reader)
  | 0, _, _ => none
  | fuel + 1, properties, reader =>
    let place := reader.place
    if inFlow && place.atDocumentEnd then none
    else if place.isAt '*' then
      if properties.isEmpty then do
        let (name, after) ← place.name?
        return (← reader.anchors.lookup name, reader.moveTo after)
      else none
    else if place.isAt '\x27' || place.isAt '\x22' then do
      let (value, after) ← place.quoted?
      return (reader.moveTo after).close properties (.scalar value)
    else if place.isAt '[' then do
      let (items, after) ← readFlowItems margin fuel [] (reader.moveTo (place.skip 1 false))
      return after.close properties (.sequence items)
    else if place.isAt '\x7b' then do
      let (entries, after) ← readFlowEntries margin fuel [] (reader.moveTo (place.skip 1 false))
      return after.close properties (.mapping entries)
    else if startsPlain inFlow place.rest then do
      let (value, after) ← place.plain? inFlow margin
      return (reader.moveTo after).close properties (.scalar value)
    else if properties.isEmpty then none
    else some (reader.close properties Node.empty)

/-- Read a node inside a flow collection. -/
def readFlowNode (margin : Nat) : (fuel : Nat) → Reader → Option (Node × Reader)
  | 0, _ => none
  | fuel + 1, reader => do
    let (properties, place) ← reader.place.properties? reader.handles true 3 {}
    readInline true margin fuel properties (reader.moveTo place)

/-- Read a node inside a flow collection, which may be left out. -/
def readFlowPart (margin : Nat) : (fuel : Nat) → Reader → Option (Node × Reader)
  | 0, _ => none
  | fuel + 1, reader =>
    let reader := reader.seek true
    if reader.place.endsFlowNode then some (Node.empty, reader)
    else readFlowNode margin fuel reader

/-- Read an entry of a flow collection: whether it is a pair, and its node or its
key and value. A pair in a sequence that starts with a question mark must have a
key. -/
def readFlowEntry (inMapping : Bool) (margin : Nat) :
    (fuel : Nat) → Reader → Option (Bool × (Node × Node) × Reader)
  | 0, _ => none
  | fuel + 1, reader =>
    if reader.place.isAt '?' then do
      let start := (reader.moveTo (reader.place.skip 1 false)).seek true
      if !inMapping && start.place.endsFlowNode then none
      else do
        let (key, after) ← readFlowPart margin fuel start
        let after := after.seek true
        if after.place.isAt ':' then do
          let (value, after) ← readFlowPart margin fuel (after.moveTo (after.place.skip 1 false))
          return (true, (key, value), after)
        else return (true, (key, Node.empty), after)
    else do
      let (key, after) ← readFlowNode margin fuel reader
      let after := after.seek true
      if !after.place.isAt ':' then return (false, (key, Node.empty), after)
      else if reader.place.reachesColon after.place then do
        let (value, after) ← readFlowPart margin fuel (after.moveTo (after.place.skip 1 false))
        return (true, (key, value), after)
      else none

/-- Read the items of a flow sequence and its closing bracket. -/
def readFlowItems (margin : Nat) :
    (fuel : Nat) → (itemsReversed : List Node) → Reader → Option (List Node × Reader)
  | 0, _, _ => none
  | fuel + 1, items, reader =>
    let reader := reader.seek true
    if reader.place.isAt ']' then
      some (items.reverse, reader.moveTo (reader.place.skip 1 false))
    else do
      let (isPair, entry, after) ← readFlowEntry false margin fuel reader
      let items := (if isPair then .mapping [entry] else entry.1) :: items
      let after := after.seek true
      if after.place.isAt ',' then
        readFlowItems margin fuel items (after.moveTo (after.place.skip 1 false))
      else if after.place.isAt ']' then
        return (items.reverse, after.moveTo (after.place.skip 1 false))
      else none

/-- Read the entries of a flow mapping and its closing brace. -/
def readFlowEntries (margin : Nat) :
    (fuel : Nat) → (entriesReversed : List (Node × Node)) → Reader →
      Option (List (Node × Node) × Reader)
  | 0, _, _ => none
  | fuel + 1, entries, reader =>
    let reader := reader.seek true
    if reader.place.isAt '\x7d' then
      some (entries.reverse, reader.moveTo (reader.place.skip 1 false))
    else do
      let (_, entry, after) ← readFlowEntry true margin fuel reader
      let after := after.seek true
      if after.place.isAt ',' then
        readFlowEntries margin fuel (entry :: entries) (after.moveTo (after.place.skip 1 false))
      else if after.place.isAt '\x7d' then
        return ((entry :: entries).reverse, after.moveTo (after.place.skip 1 false))
      else none

end

/-- Read a key of a block mapping up to its colon. -/
def readKey (margin fuel : Nat) (reader : Reader) : Option (Node × Reader) :=
  if !reader.place.keyAllowed then none
  else do
    let (properties, place) ← reader.place.properties? reader.handles false 3 {}
    if place.line != reader.place.line then none
    else do
      let (key, after) ← readInline false margin fuel properties (reader.moveTo place)
      let after := after.seek false
      if reader.place.reachesColon after.place && after.place.isAtIndicator ':' then
        return (key, after)
      else none

mutual

/-- Read what stands inside an entry of a block collection. The margin is the
first column that lies inside; `dashes` says whether a sequence may start one
column before it. -/
def readBlockNode (margin : Nat) (dashes : Bool) :
    (fuel : Nat) → (outer : Properties) → Reader → Option (Node × Reader)
  | 0, _, _ => none
  | fuel + 1, outer, reader =>
    let reader := reader.seek false
    let place := reader.place
    if place.isOutside margin dashes then some (reader.close outer Node.empty)
    else if place.isAtIndicator '-' then
      if place.keyAllowed then do
        let (items, after) ← readBlockItems place.column (place.column < margin) fuel [] reader
        return after.close outer (.sequence items)
      else none
    else if (place.isAtIndicator '?' && place.keyAllowed)
        || (readKey margin fuel reader).isSome then do
      let (entries, after) ← readBlockEntries place.column fuel [] reader
      return after.close outer (.mapping entries)
    else do
      let (own, next) ← place.properties? reader.handles false 3 {}
      let properties ← outer.merge own
      if next.line != place.line then
        readBlockNode margin dashes fuel properties (reader.moveTo next)
      else if next.isAtBlockScalar then do
        let (value, after) ← next.block? margin
        return (reader.moveTo after).close properties (.scalar value)
      else readInline false margin fuel properties (reader.moveTo next)

/-- Read the items of a block sequence whose dashes stand in a column. Below a
key in the same column the sequence ends where the next key starts. -/
def readBlockItems (column : Nat) (belowKey : Bool) :
    (fuel : Nat) → (itemsReversed : List Node) → Reader → Option (List Node × Reader)
  | 0, _, _ => none
  | fuel + 1, items, reader =>
    let reader := reader.seek false
    let place := reader.place
    if place.atDocumentEnd || place.column < column then some (items.reverse, reader)
    else if place.column = column && place.isAtIndicator '-' then do
      let (item, after) ←
        readBlockNode (column + 1) false fuel {} (reader.moveTo (place.skip 1 true))
      readBlockItems column belowKey fuel (item :: items) after
    else if place.column = column && belowKey then some (items.reverse, reader)
    else none

/-- Read the entries of a block mapping whose keys start in a column. -/
def readBlockEntries (column : Nat) :
    (fuel : Nat) → (entriesReversed : List (Node × Node)) → Reader →
      Option (List (Node × Node) × Reader)
  | 0, _, _ => none
  | fuel + 1, entries, reader =>
    let reader := reader.seek false
    let place := reader.place
    if place.atDocumentEnd || place.column < column then some (entries.reverse, reader)
    else if column < place.column then none
    else if place.isAtIndicator '?' then do
      let (key, after) ←
        readBlockNode (column + 1) true fuel {} (reader.moveTo (place.skip 1 true))
      let after := after.seek false
      if after.place.column = column && after.place.isAtIndicator ':' then do
        let (value, after) ←
          readBlockNode (column + 1) true fuel {} (after.moveTo (after.place.skip 1 true))
        readBlockEntries column fuel ((key, value) :: entries) after
      else readBlockEntries column fuel ((key, Node.empty) :: entries) after
    else do
      let (key, after) ← readKey (column + 1) fuel reader
      let (value, after) ←
        readBlockNode (column + 1) true fuel {} (after.moveTo (after.place.skip 1 false))
      readBlockEntries column fuel ((key, value) :: entries) after

end

end RoomLayout.Yaml
