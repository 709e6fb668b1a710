import RoomLayout.Geometry.Polygon

/-!
# Rooms

A placed room: where its floor stands, its extent, its box, its surviving
polygons and its lights. A room hangs above its floor, so its box reaches from
the floor upward, to smaller `y`.
-/

namespace RoomLayout

/-- A point light. -/
structure Light (α : Type) where
  position : Vec3 α
  radius : α
  intensity : α
  deriving BEq, DecidableEq

/-- The box of a room with a given floor center and extent. -/
@[specialize] def Room.boxAt {α : Type} [Coordinate α] (origin size : Vec3 α) : Box α :=
  .ofCorners
    ⟨origin.x - Coordinate.half size.x, origin.y - size.y, origin.z - Coordinate.half size.z⟩
    ⟨origin.x + Coordinate.half size.x, origin.y, origin.z + Coordinate.half size.z⟩

/-- A placed room. Its box is computed once, when it is placed. -/
structure Room (α : Type) [Coordinate α] where
  /-- The center of the floor. -/
  origin : Vec3 α
  size : Vec3 α
  bounds : Box α := Room.boxAt origin size
  polygons : List (Polygon α)
  lights : List (Light α) := []
  deriving BEq, DecidableEq

namespace Room

variable {α : Type} [Coordinate α]

/-- Hang a light in the room, after its earlier ones. -/
def addLight (room : Room α) (light : Light α) : Room α :=
  { room with lights := room.lights ++ [light] }

/-- Marks for the positions below `count`: set at the given indices, of which
those out of range are ignored. -/
def marks (count : Nat) (indices : List Nat) : Array Bool :=
  indices.foldl (fun marked index => marked.setIfInBounds index true) (Array.replicate count false)

/-- The values at unmarked positions, in order; positions count from `index`. -/
def unmarked {β : Type} (marked : Array Bool) (index : Nat) : List β → List β
  | [] => []
  | value :: rest =>
    if marked.getD index false then unmarked marked (index + 1) rest
    else value :: unmarked marked (index + 1) rest

/-- Drop the polygons at the given indices, and tell how many were dropped.
Indices may repeat, come in any order, or be out of range. -/
def removePolygons (room : Room α) (indices : List Nat) : Room α × Nat :=
  let kept := unmarked (marks room.polygons.length indices) 0 room.polygons
  ({ room with polygons := kept }, room.polygons.length - kept.length)

end Room

/-- The rooms placed by one script, in placement order. -/
abbrev Level (α : Type) [Coordinate α] := List (Room α)

namespace Level

variable {α : Type} [Coordinate α]

/-- The number of polygons in all rooms. -/
def polygonCount (level : Level α) : Nat :=
  level.foldr (fun room count => room.polygons.length + count) 0

/-- The number of lights in all rooms. -/
def lightCount (level : Level α) : Nat :=
  level.foldr (fun room count => room.lights.length + count) 0

/-- The polygons of all rooms, in order. -/
def polygons (level : Level α) : List (Polygon α) := level.flatMap Room.polygons

/-- The box around all rooms, if there is a room. -/
@[specialize] def bounds? : Level α → Option (Box α)
  | [] => none
  | first :: rest => some (rest.foldl (fun box room => box.union room.bounds) first.bounds)

/-- Hang a light in the room that was placed last, if there is one. -/
def addLight? (light : Room α → Light α) : Level α → Option (Level α)
  | [] => none
  | [room] => some [room.addLight (light room)]
  | room :: next :: rest => (addLight? light (next :: rest)).map (room :: ·)

end Level

end RoomLayout
